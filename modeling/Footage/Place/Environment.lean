import Footage.Place.Path

/-!
# Environment variables and the directories of the user

The home directory is the variable `HOME` unless it is unset or empty, then the home of the
account. The directory of configuration files is `XDG_CONFIG_HOME` where that is an absolute
path, else `.config` in the home directory. Variables come as a block of entries, each a name,
an equals sign and a value.
-/

namespace Footage.Place

set_option autoImplicit false

/-- The variables that are set, and the home directory of the account if it has one. -/
structure Environment where
  lookup : String → Option String
  accountHome : Option String

namespace Environment

/-- The value behind a name and an equals sign at the front of an entry. A name may hold an equals
sign itself: it then also covers the front of the value. -/
def valueIn? (name entry : String) : Option String :=
  (Text.afterWord (name.toList ++ ['=']) entry.toList).map String.ofList

/-- The environment with a block of entries; of two entries for one name the first counts, and
the empty name has none. -/
def ofBlock (block : List String) (accountHome : Option String) : Environment where
  lookup := fun name => if name.isEmpty then none else block.findSome? (valueIn? name)
  accountHome := accountHome

def empty : Environment := ⟨fun _ => none, none⟩

def home? (env : Environment) : Option String :=
  match env.lookup "HOME" with
  | some home => if home.isEmpty then env.accountHome else some home
  | none => env.accountHome

def configHome? (env : Environment) : Option String :=
  env.home?.map fun home =>
    match env.lookup "XDG_CONFIG_HOME" with
    | some dir => if isAbsolute dir then dir else join home ".config"
    | none => join home ".config"

/-- Replaces a leading `~/` by the home directory and a leading `$NAME` by the value of that
variable; a path that starts with neither, and one whose variable is not set, stays as it is. -/
def expandPath (env : Environment) (path : String) : String :=
  match path.toList with
  | '~' :: '/' :: rest =>
      match env.home? with
      | some home => join home (String.ofList rest)
      | none => path
  | '$' :: rest =>
      match Text.cutFirst '/' rest with
      | some (name, below) =>
          match env.lookup (String.ofList name) with
          | some value => join value (String.ofList below)
          | none => path
      | none => (env.lookup (String.ofList rest)).getD path
  | _ => path

end Environment

end Footage.Place
