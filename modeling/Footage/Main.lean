import Footage.CommandLine.Tool

/-!
# The program

Takes the variables of the process and the files that a run can ask for, runs the tool on them,
and writes what it answers. Files are only read, and the format of database files is not known
here: an index file that is there already is taken for a file of another kind.
-/

namespace Footage.CommandLine

open Footage.Config Footage.Files Footage.Place

set_option autoImplicit false

def entriesIn (block : String) : List String :=
  (Text.pieces '\x00' block.toList).map String.ofList

def processEnvironment : IO Environment := do
  let block ← try IO.FS.readFile "/proc/self/environ" catch _ => pure ""
  return .ofBlock (entriesIn block) none

def processTree : IO Tree := do
  let dir ← IO.currentDir
  return (Tree.mk [] (parts dir.toString) []).makeDirs dir.toString |>.2

def fetch (tree : Tree) (path : String) : IO Tree := do
  let dir := ((parent? path).map fun dir => (tree.makeDirs dir).2).getD tree
  try
    let data ← IO.FS.readBinFile path
    return ((dir.write path (.bytes data.data.toList)).toOption).getD tree
  catch
    | .inappropriateType .. => return (tree.makeDirs path).2
    | _ => return tree

def namedFile? (arguments : List String) : Option String :=
  match Request.ofArguments? arguments with
  | some (.run file _) => file
  | _ => none

def filesOf (config : Recorder) : List String :=
  [join config.paths.configDir encoderFile, config.paths.indexPath]

def snapshot (env : Environment) (arguments : List String) : IO Tree := do
  let given := namedFile? arguments
  let tree ← (candidates env (given.toList ++ [localFile])).foldlM fetch (← processTree)
  match load env tree given with
  | .ok (config, _) => (filesOf config).foldlM fetch tree
  | .error _ => return tree

end Footage.CommandLine

open Footage.CommandLine in
def main (arguments : List String) : IO UInt32 := do
  let env ← processEnvironment
  let exit := run env (← snapshot env arguments) arguments
  IO.print exit.output
  IO.eprint exit.errors
  return UInt32.ofNat exit.code
