import Footage.CommandLine.Arguments
import Footage.CommandLine.Failure
import Footage.CommandLine.Reports
import Footage.Index.Database

/-!
# The command line tool

The tool shows the configuration, the encoder profile, or the clips of the index. A mistake in the
arguments and a failure have exit codes of their own.
-/

namespace Footage.CommandLine

open Footage.Config Footage.Files Footage.Index Footage.Place

set_option autoImplicit false

/-- How a run of the tool ends: the exit code, and what is written where. -/
structure Exit where
  code : Nat
  output : String := ""
  errors : String := ""
deriving DecidableEq, Repr

def versionText : String := "clipctl 0.1.0\n"

def usageText : String :=
  unlines
    ["Usage: clipctl [-c FILE] config",
      "       clipctl [-c FILE] codec",
      "       clipctl [-c FILE] clips [-l LOCATION] [--json]"]

def answerText : Answer → String
  | .help => usageText
  | .version => versionText

def listClips (tree : Tree) (config : Recorder) (location : Option String) (asJson : Bool) :
    Except Failure String :=
  let path := config.paths.indexPath
  match DatabaseIndex.openAt path tree with
  | (.error cause, _) =>
      .error ⟨"Failed to open clip index " ++ path, indexCauses cause⟩
  | (.ok index, tree) =>
      match index.list location tree with
      | (.error cause, _) => .error ⟨"Failed to list clips", indexCauses cause⟩
      | (.ok clips, tree) =>
          .ok (if asJson then clipJson clips else clipRows tree config.paths.storageDir clips)

def perform (tree : Tree) (config : Recorder) (sources : Sources) :
    Command → Except Failure String
  | .config => .ok (configReport config sources)
  | .encoder =>
      match loadEncoder tree config.paths.configDir with
      | .ok encoder => .ok (encoderReport (join config.paths.configDir encoderFile) encoder)
      | .error cause => .error ⟨"Failed to load codec profile", configCauses cause⟩
  | .clips location asJson => listClips tree config location asJson

def performWith (env : Environment) (tree : Tree) (configFile : Option String)
    (command : Command) : Except Failure String :=
  match load env tree configFile with
  | .ok (config, sources) => perform tree config sources command
  | .error cause => .error ⟨"Failed to load configuration", configCauses cause⟩

def run (env : Environment) (tree : Tree) (arguments : List String) : Exit :=
  match Request.ofArguments? arguments with
  | none => { code := 2, errors := usageText }
  | some (.answer answer) => { code := 0, output := answerText answer }
  | some (.run configFile command) =>
      match performWith env tree configFile command with
      | .ok output => { code := 0, output }
      | .error failure => { code := 1, errors := failure.text }

end Footage.CommandLine
