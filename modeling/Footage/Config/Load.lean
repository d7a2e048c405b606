import Footage.Config.Records
import Footage.Document.Value
import Footage.Files.Tree
import Footage.Toml.Document

/-!
# Loading the configuration

The files are read in order and merged table by table, so that a later file only mentions what it
changes. Strings under `[paths]` are expanded, the merged table is read as a record, and the
record is checked. Environment variables come last. The files are, as far as they exist, the one
of the system, the one of the user, and a local one whose place an explicitly given file takes.

The encoder profile stands in the `[video]` table of a file of its own. A directory without that
file, and a file without that table, give the default profile.
-/

namespace Footage.Config

open Footage.Document Footage.Files Footage.Place

set_option autoImplicit false

inductive ConfigError where
  | fileRead (path : String) (cause : String)
  /-- The text of a file is malformed. -/
  | malformed (path : String)
  /-- A value has the wrong type or is out of range. -/
  | mismatch (path : String) (mismatch : Mismatch)
  /-- The size of recordings has a zero in it. -/
  | invalid (reason : String)

namespace ConfigError

def parseText (path reason : String) : String :=
  "Failed to parse config file " ++ path ++ ": " ++ reason

/-- The message of a failure; of a malformed text it does not say where the fault is. -/
def text : ConfigError → String
  | fileRead path cause => "Failed to read config file " ++ path ++ ": " ++ cause
  | malformed path => parseText path ""
  | mismatch path found => parseText path found.configText
  | invalid reason => "Invalid configuration: " ++ reason

end ConfigError

/-- The files that were loaded and the environment variables that took effect, in order. -/
structure Sources where
  files : List String := []
  overrides : List String := []
deriving DecidableEq, Repr

def parseTable (path text : String) : Except ConfigError Table :=
  match Toml.read? text with
  | some table => .ok table
  | none => .error (.malformed path)

def loadTable (tree : Tree) (path : String) : Except ConfigError Table :=
  match tree.readText path with
  | .ok text => parseTable path text
  | .error cause => .error (.fileRead path cause.text)

def expandEntries (env : Environment) (entries : Table) : Table :=
  entries.map fun (key, value) =>
    match value with
    | .text path => (key, .text (env.expandPath path))
    | other => (key, other)

/-- Expands every string under `[paths]`. -/
def expandPaths (env : Environment) (table : Table) : Table :=
  match Entries.find? "paths" table with
  | some (.table entries) => Entries.insert "paths" (.table (expandEntries env entries)) table
  | _ => table

/-- Refuses a recording without width or height. -/
def validate (config : Recorder) : Except ConfigError Recorder :=
  if config.capture.recordWidth = 0 ∨ config.capture.recordHeight = 0 then
    .error (.invalid
      ("capture.record_width/record_height must be non-zero, got " ++
        toString config.capture.recordWidth.toNat ++ "x" ++
        toString config.capture.recordHeight.toNat))
  else .ok config

/-- The configuration that a table denotes. A fault is reported against the origin. -/
def ofTable (env : Environment) (origin : Option String) (table : Table) :
    Except ConfigError Recorder :=
  match Recorder.ofValue env (.table (expandPaths env table)) with
  | .ok config => validate config
  | .error found => .error (.mismatch (origin.getD "<merged>") found)

/-- The configuration that one text denotes on top of the defaults. -/
def ofText (env : Environment) (text : String) : Except ConfigError Recorder := do
  let table ← parseTable "<inline>" text
  ofTable env (some "<inline>") table

def systemFile : String := "/etc/cliprec/config.toml"

def userFile? (env : Environment) : Option String :=
  env.configHome?.map fun dir => join dir "cliprec/config.toml"

def localFile : String := "cliprec.toml"

/-- The files that are looked for, in the order in which they are loaded: the one of the system,
the one of the user, and the last ones. -/
def candidates (env : Environment) (last : List String) : List String :=
  systemFile :: (userFile? env).toList ++ last

/-- The existing files in the order in which they are loaded. A given file takes the place of the
local one if it exists. -/
def discover (env : Environment) (tree : Tree) (given : Option String) : List String :=
  (candidates env [(given.filter tree.isThere).getD localFile]).filter tree.isThere

def encoderFile : String := "output_config.toml"

def encoderOfText (path text : String) : Except ConfigError Encoder := do
  let table ← parseTable path text
  match Entries.find? "video" table with
  | some video => (Encoder.ofValue video).mapError (.mismatch path)
  | none => .ok {}

def loadEncoder (tree : Files.Tree) (dir : String) : Except ConfigError Encoder :=
  let path := join dir encoderFile
  if tree.isThere path then
    match tree.readText path with
    | .ok text => encoderOfText path text
    | .error cause => .error (.fileRead path cause.text)
  else .ok {}

end Footage.Config
