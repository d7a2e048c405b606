import Footage.Files.Content
import Footage.Place.Path

/-!
# A tree of files

Directories and files by their location, which is the list of names from the root. Some
directories are the roots of other devices. Operations take paths as texts and follow the rules
of the operating system: a path is walked name by name from the root or the working directory,
every name on the way has to be an existing directory, and a final slash asks for a directory.
An operation either fails with a cause or gives the changed tree.
-/

namespace Footage.Files

set_option autoImplicit false

inductive Entry where
  | directory
  | file (content : Content)
deriving DecidableEq

/-- Names from the root. -/
abbrev Location := List String

/-- Entries by location, the working directory, and the roots of further devices. -/
structure Tree where
  entries : List (Location × Entry)
  workingDir : Location
  mounts : List Location

namespace Tree

def maxNameBytes : Nat := 255

/-- The shortest path that is too long, in bytes. -/
def pathLimit : Nat := 4096

def entryAt? (tree : Tree) (location : Location) : Option Entry :=
  if location = [] then some .directory else tree.entries.lookup location

def put (tree : Tree) (location : Location) (entry : Entry) : Tree :=
  { tree with
    entries := (location, entry) :: tree.entries.filter fun held => held.1 != location }

def erase (tree : Tree) (location : Location) : Tree :=
  { tree with entries := tree.entries.filter fun held => held.1 != location }

/-- The root of the device that a location lies on. -/
def device (tree : Tree) (location : Location) : Option Location :=
  tree.mounts.find? fun root => root.isPrefixOf location

/-- Where a path leads: a directory that the path itself names by dots or slashes alone, or a
name in an existing directory, with or without a slash behind it. -/
inductive Target where
  | directory (location : Location)
  | named (parent : Location) (name : String) (slash : Bool)

/-- The directory that an operation on the target works in. -/
def Target.parent : Target → Location
  | .directory location => location
  | .named parent _ _ => parent

def step (tree : Tree) (dir : Location) (name : String) : Except FileError Location :=
  if name = "." then .ok dir
  else if name = ".." then .ok dir.dropLast
  else if maxNameBytes < name.utf8ByteSize then .error .nameTooLong
  else
    match tree.entryAt? (dir ++ [name]) with
    | none => .error .notFound
    | some (.file _) => .error .notDirectory
    | some .directory => .ok (dir ++ [name])

def locate (tree : Tree) (path : String) : Except FileError Target := do
  if path.toList.contains '\x00' then .error .nulInPath
  else if path.isEmpty then .error .notFound
  else if pathLimit ≤ path.utf8ByteSize then .error .nameTooLong
  else
    let start := if Place.isAbsolute path then [] else tree.workingDir
    let names := Place.parts path
    match names.getLast? with
    | none => .ok (.directory start)
    | some last =>
        let parent ← names.dropLast.foldlM tree.step start
        if last = "." ∨ last = ".." then
          let dir ← tree.step parent last
          .ok (.directory dir)
        else .ok (.named parent last (path.toList.getLast? == some '/'))

def childAt? (tree : Tree) (parent : Location) (name : String) : Except FileError (Option Entry) :=
  if maxNameBytes < name.utf8ByteSize then .error .nameTooLong
  else .ok (tree.entryAt? (parent ++ [name]))

def find (tree : Tree) (path : String) : Except FileError (Location × Entry) := do
  match ← tree.locate path with
  | .directory location => .ok (location, .directory)
  | .named parent name slash =>
      match ← tree.childAt? parent name with
      | none => .error .notFound
      | some .directory => .ok (parent ++ [name], .directory)
      | some (.file content) =>
          if slash then .error .notDirectory else .ok (parent ++ [name], .file content)

def isThere (tree : Tree) (path : String) : Bool :=
  match tree.find path with
  | .ok _ => true
  | .error _ => false

def isDir (tree : Tree) (path : String) : Bool :=
  match tree.find path with
  | .ok (_, .directory) => true
  | _ => false

def read (tree : Tree) (path : String) : Except FileError Content := do
  match ← tree.find path with
  | (_, .directory) => .error .isDirectory
  | (_, .file content) => .ok content

def readText (tree : Tree) (path : String) : Except FileError String := do
  let content ← tree.read path
  match content.text? with
  | some text => .ok text
  | none => .error .notUtf8

def makeDir (tree : Tree) (path : String) : Except FileError Tree := do
  match ← tree.locate path with
  | .directory _ => .error .alreadyThere
  | .named parent name _ =>
      match ← tree.childAt? parent name with
      | some _ => .error .alreadyThere
      | none => .ok (tree.put (parent ++ [name]) .directory)

/-- Makes a directory and its missing parents, at most so many. A directory that is there already
is no failure. -/
def makeDirsWithin : Nat → Tree → String → Except FileError Tree × Tree
  | 0, tree, _ => (.error .notFound, tree)
  | count + 1, tree, path =>
      if path.isEmpty then (.ok tree, tree)
      else
        match tree.makeDir path with
        | .ok made => (.ok made, made)
        | .error .notFound =>
            match Place.parent? path with
            | none => (.error .notFound, tree)
            | some parent =>
                match makeDirsWithin count tree parent with
                | (.error cause, made) => (.error cause, made)
                | (.ok _, made) =>
                    match made.makeDir path with
                    | .ok whole => (.ok whole, whole)
                    | .error cause =>
                        if made.isDir path then (.ok made, made) else (.error cause, made)
        | .error cause => if tree.isDir path then (.ok tree, tree) else (.error cause, tree)

/-- Makes a directory and its missing parents. A failure leaves the parents made so far. -/
def makeDirs (tree : Tree) (path : String) : Except FileError Unit × Tree :=
  let (outcome, made) := makeDirsWithin (path.length + 1) tree path
  (outcome.map fun _ => (), made)

def hasChildren (tree : Tree) (location : Location) : Bool :=
  tree.entries.any fun (held, _) => location.isPrefixOf held && held != location

def moveSubtree (tree : Tree) (source target : Location) : Tree :=
  { tree with
    entries :=
      tree.entries.filterMap fun (held, entry) =>
        if source.isPrefixOf held then some (target ++ held.drop source.length, entry)
        else if held = target then none
        else some (held, entry) }

/-- Renames within one device. A file replaces a file and a directory replaces an empty
directory; nothing moves into itself or onto a directory that it lies in. -/
def rename (tree : Tree) (source target : String) : Except FileError Tree := do
  match ← tree.locate source, ← tree.locate target with
  | .named sourceDir sourceName sourceSlash, .named targetDir targetName targetSlash =>
      if tree.device sourceDir ≠ tree.device targetDir then .error .crossDevice
      else
        match ← tree.childAt? sourceDir sourceName with
        | none => .error .notFound
        | some moved => do
            let replaced ← tree.childAt? targetDir targetName
            let origin := sourceDir ++ [sourceName]
            let place := targetDir ++ [targetName]
            let isFile := moved != .directory
            if isFile && (sourceSlash || targetSlash) then .error .notDirectory
            else if origin.isPrefixOf targetDir then .error .invalid
            else if place.isPrefixOf sourceDir then .error .notEmpty
            else if origin = place then .ok tree
            else
              match replaced with
              | none => .ok (tree.moveSubtree origin place)
              | some .directory =>
                  if isFile then .error .isDirectory
                  else if tree.hasChildren place then .error .notEmpty
                  else .ok (tree.moveSubtree origin place)
              | some (.file _) =>
                  if isFile then .ok (tree.moveSubtree origin place) else .error .notDirectory
  | moved, goal =>
      if tree.device moved.parent ≠ tree.device goal.parent then .error .crossDevice
      else .error .busy

def writable (tree : Tree) (path : String) : Except FileError Location := do
  match ← tree.locate path with
  | .directory _ => .error .isDirectory
  | .named parent name slash =>
      if slash then .error .isDirectory
      else
        match ← tree.childAt? parent name with
        | some .directory => .error .isDirectory
        | _ => .ok (parent ++ [name])

def write (tree : Tree) (path : String) (content : Content) : Except FileError Tree := do
  let location ← tree.writable path
  .ok (tree.put location (.file content))

def copy (tree : Tree) (source target : String) : Except FileError Tree := do
  match ← tree.find source with
  | (_, .directory) => .error .notRegular
  | (_, .file content) => tree.write target content

def remove (tree : Tree) (path : String) : Except FileError Tree := do
  match ← tree.find path with
  | (_, .directory) => .error .isDirectory
  | (location, .file _) => .ok (tree.erase location)

def appendText (tree : Tree) (path text : String) : Except FileError Tree := do
  let location ← tree.writable path
  match tree.entryAt? location with
  | some (.file content) => .ok (tree.put location (.file (content.append text)))
  | _ => .ok (tree.put location (.file (.ofText text)))

def precedes : Location → Location → Bool
  | [], _ => true
  | _ :: _, [] => false
  | a :: as, b :: bs => if a = b then precedes as bs else a < b

/-- Everything below a directory, by its location relative to it: a directory before what it
holds, names in ascending order. -/
def listing (tree : Tree) (path : String) : List (Location × Entry) :=
  match tree.find path with
  | .ok (root, .directory) =>
      let below := tree.entries.filterMap fun (held, entry) =>
        if root.isPrefixOf held && held != root then some (held.drop root.length, entry) else none
      below.mergeSort fun a b => precedes a.1 b.1
  | _ => []

end Tree

end Footage.Files
