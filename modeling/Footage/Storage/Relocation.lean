import Footage.Capture.Engine
import Footage.Files.System
import Footage.Index.Error

/-!
# Moving a finished segment into the storage

The engine either wrote an ordinary file, which the file system moves, or holds the segment in
memory and writes it out on request. The directory of the target is made first; where that fails
the move is tried all the same, so that its own outcome is reported.
-/

namespace Footage.Storage

open Footage.Capture Footage.Files

set_option autoImplicit false

/-- Why a finished segment is not both stored and indexed. -/
inductive RelocateError where
  /-- The file system could not move the file. -/
  | move (source target : String) (cause : Files.FileError)
  /-- The engine could not write the segment out. -/
  | engine (source target : String) (cause : Capture.CaptureError)
  /-- The file is in the storage, but the index did not take the record. -/
  | commit (path : String) (cause : Index.IndexError)
deriving DecidableEq, Repr

def RelocateError.text : RelocateError → String
  | .move source target cause =>
      "Failed to move " ++ source ++ " to " ++ target ++ ": " ++ cause.text
  | .engine source target cause =>
      "Engine could not move " ++ source ++ " to " ++ target ++ ": " ++ cause.text
  | .commit path cause =>
      "Relocated " ++ path ++ " but the index commit failed: " ++ cause.text

/-- Who moves a segment. -/
inductive Relocator where
  /-- The file system. -/
  | filesystem
  /-- The capture engine. -/
  | engine
deriving DecidableEq, Repr

def Relocator.name : Relocator → String
  | .filesystem => "Filesystem"
  | .engine => "Engine"

abbrev EngineMove (σ : Type) := String → String → σ → Except CaptureError Unit × σ

variable {σ : Type}

/-- Makes the directory that the target lies in; a failure is not reported. -/
def makeParent (files : FileSystem σ) (target : String) (state : σ) : σ :=
  match Place.parent? target with
  | some dir => (files.makeDirs dir state).2
  | none => state

def Relocator.relocate (relocator : Relocator) (files : FileSystem σ) (engineMove : EngineMove σ)
    (source target : String) (state : σ) : Except RelocateError Unit × σ :=
  let state := makeParent files target state
  match relocator with
  | .filesystem =>
      let (outcome, state) := files.moveFile source target state
      (outcome.mapError (.move source target), state)
  | .engine =>
      let (outcome, state) := engineMove source target state
      (outcome.mapError (.engine source target), state)

end Footage.Storage
