import Footage.Text.Cutting

/-!
# Arguments of the command line

A command line is read on two levels: options of the tool and the name of a command, then options
of that command. An option has a long name with two dashes and may have a short one with a single
dash. A value follows as the next argument or is attached, with or without an equals sign after a
short name. On one level no option may be given twice; of a value given on both levels the inner
one counts. Two dashes alone end the options. An option that asks for a text is answered as soon
as it is reached.
-/

namespace Footage.CommandLine

set_option autoImplicit false

inductive Answer where
  | help
  | version
deriving DecidableEq, Repr

inductive OptionKind where
  /-- Nothing. -/
  | flag
  /-- A value, which may be empty or not. -/
  | value (mayBeEmpty : Bool)
  /-- Nothing; the answer ends the reading. -/
  | ask (answer : Answer)
deriving DecidableEq, Repr

def OptionKind.takesValue : OptionKind → Bool
  | .value _ => true
  | _ => false

structure OptionSpec where
  long : String
  short : Option Char
  kind : OptionKind
deriving DecidableEq, Repr

abbrev Given := List (String × String)

inductive Argument where
  /-- Two dashes alone. -/
  | escape
  | long (name : String) (attached : Option String)
  | short (name : Char) (attached : Option String)
  /-- Anything else; a single dash, too. -/
  | word (text : String)
deriving DecidableEq, Repr

namespace Argument

def attachedTo : List Char → Option String
  | [] => none
  | '=' :: value => some (String.ofList value)
  | value => some (String.ofList value)

def ofText (text : String) : Argument :=
  match text.toList with
  | ['-', '-'] => .escape
  | '-' :: '-' :: rest =>
      match Text.cutFirst '=' rest with
      | some (name, value) => .long (String.ofList name) (some (String.ofList value))
      | none => .long (String.ofList rest) none
  | '-' :: name :: rest => .short name (attachedTo rest)
  | _ => .word text

/-- The option that an argument names and the value attached to it. What stands behind a short
name that takes no value is never looked at, for every such option ends the reading. -/
def named? (options : List OptionSpec) : Argument → Option (OptionSpec × Option String)
  | .long name attached => (options.find? fun option => option.long == name).map (·, attached)
  | .short name attached =>
      (options.find? fun option => option.short == some name).map fun option =>
        (option, if option.kind.takesValue then attached else none)
  | _ => none

def word? : Argument → Option String
  | .word text => some text
  | _ => none

end Argument

namespace Given

/-- One more option; none when it is given already. -/
def add? (option : OptionSpec) (value : String) (given : Given) : Option Given :=
  if given.any fun entry => entry.1 == option.long then none
  else some (given ++ [(option.long, value)])

/-- One more option with a value; none when the value may not be empty. -/
def addValue? (option : OptionSpec) (mayBeEmpty : Bool) (value : String) (given : Given) :
    Option Given :=
  if value.isEmpty && !mayBeEmpty then none else given.add? option value

end Given

/-- What the arguments of one level amount to. -/
inductive Level where
  | answer (answer : Answer)
  /-- The options, and the first word with everything behind it. -/
  | options (given : Given) (word : Option (String × List String))
deriving DecidableEq, Repr

def readLevel (options : List OptionSpec) (given : Given) : List String → Option Level
  | [] => some (.options given none)
  | text :: rest =>
      match Argument.ofText text with
      | .escape => if rest.isEmpty then some (.options given none) else none
      | .word word => some (.options given (some (word, rest)))
      | argument =>
          match argument.named? options with
          | none => none
          | some (option, attached) =>
              match option.kind, attached, rest with
              | .ask answer, none, _ => some (.answer answer)
              | .flag, none, rest =>
                  (given.add? option "").bind fun given => readLevel options given rest
              | .value mayBeEmpty, some value, rest =>
                  (given.addValue? option mayBeEmpty value).bind fun given =>
                    readLevel options given rest
              | .value mayBeEmpty, none, next :: rest =>
                  (Argument.ofText next).word?.bind fun value =>
                    (given.addValue? option mayBeEmpty value).bind fun given =>
                      readLevel options given rest
              | _, _, _ => none

inductive Command where
  /-- Show the configuration and where it comes from. -/
  | config
  /-- Show the encoder profile. -/
  | encoder
  /-- List the clips of one location or of all. -/
  | clips (location : Option String) (asJson : Bool)
deriving DecidableEq, Repr

inductive Request where
  | answer (answer : Answer)
  /-- A command, with a configuration file in place of the local one. -/
  | run (configFile : Option String) (command : Command)
deriving DecidableEq, Repr

def configOption : OptionSpec := ⟨"config", some 'c', .value false⟩
def helpOption : OptionSpec := ⟨"help", some 'h', .ask .help⟩
def versionOption : OptionSpec := ⟨"version", some 'V', .ask .version⟩
def locationOption : OptionSpec := ⟨"location", some 'l', .value true⟩
def jsonOption : OptionSpec := ⟨"json", none, .flag⟩

def toolOptions : List OptionSpec := [configOption, helpOption, versionOption]

def commands : List (String × List OptionSpec × (Given → Command)) :=
  [("config", [], fun _ => .config),
    ("codec", [], fun _ => .encoder),
    ("clips", [locationOption, jsonOption], fun given =>
      .clips (given.lookup locationOption.long) (given.lookup jsonOption.long).isSome)]

def helpCommand : String := "help"

/-- The arguments behind the help command name nothing or one command. -/
def isHelpTopic : List String → Bool
  | [] => true
  | [name] => name == helpCommand || (commands.lookup name).isSome
  | _ => false

def readCommand (outer : Given) (name : String) (arguments : List String) : Option Request := do
  let (options, command) ← commands.lookup name
  match ← readLevel (configOption :: helpOption :: options) [] arguments with
  | .answer answer => some (.answer answer)
  | .options given none =>
      let file := (given.lookup configOption.long).or (outer.lookup configOption.long)
      some (.run file (command given))
  | .options _ (some _) => none

def Request.ofArguments? (arguments : List String) : Option Request := do
  match ← readLevel toolOptions [] arguments with
  | .answer asked => some (.answer asked)
  | .options given word =>
      let (name, rest) ← word
      if name = helpCommand then
        if isHelpTopic rest then some (.answer .help) else none
      else readCommand given name rest

end Footage.CommandLine
