import Footage.Storage.Mover
import Footage.Storage.Relocation

/-!
# Storing one segment

A job relocates a finished segment and then commits its record to the index. When either fails
the callback of the job is told the logical path of the segment. A commit can also end the thread
that it runs on; such a job has no outcome.
-/

namespace Footage.Storage

open Footage.Clip Footage.Files

set_option autoImplicit false

/-- What an index answers to a commit. -/
inductive CommitReply where
  | accepted
  | rejected (cause : Index.IndexError)
  /-- The index did not return; the thread is gone. -/
  | crashed
deriving DecidableEq, Repr

/-- What the storage of segments works with, over a state of any type. Callbacks are names. -/
structure Backend (σ κ : Type) where
  files : FileSystem σ
  engineMove : EngineMove σ
  commit : Record → σ → CommitReply × σ
  /-- Tells a callback the logical path of a segment. -/
  notify : κ → String → σ → σ

/-- Everything that storing one segment needs. -/
structure MoveJob (κ : Type) where
  segment : Segment
  /-- The directory that the engine recorded the segment into. -/
  recordDir : String
  /-- The root of the storage. -/
  storageDir : String
  relocator : Relocator
  onFailed : Option κ
deriving DecidableEq, Repr

structure MoveOutcome where
  logicalPath : String
  committed : Bool
deriving DecidableEq, Repr

namespace MoveJob

variable {σ κ : Type}

def source (job : MoveJob κ) : String := Place.join job.recordDir job.segment.fileName

def target (job : MoveJob κ) : String := Place.join job.storageDir job.segment.storagePath

def record (job : MoveJob κ) : Record := .ofSegment job.segment

def relocate (backend : Backend σ κ) (job : MoveJob κ) (state : σ) :
    Except RelocateError Unit × σ :=
  job.relocator.relocate backend.files backend.engineMove job.source job.target state

/-- Relocates, then commits; no reply when the thread is gone. -/
def store (backend : Backend σ κ) (job : MoveJob κ) (state : σ) :
    Option (Except RelocateError Unit) × σ :=
  match job.relocate backend state with
  | (.error cause, state) => (some (.error cause), state)
  | (.ok (), state) =>
      match backend.commit job.record state with
      | (.accepted, state) => (some (.ok ()), state)
      | (.rejected cause, state) => (some (.error (.commit job.record.path cause)), state)
      | (.crashed, state) => (none, state)

/-- Tells the callback of the job, if it has one, that the segment is not stored. -/
def notifyFailed (backend : Backend σ κ) (job : MoveJob κ) (state : σ) : σ :=
  match job.onFailed with
  | some callback => backend.notify callback job.segment.logicalPath state
  | none => state

/-- Stores the segment and reports a failure. There is no outcome when the thread is gone. -/
def run (backend : Backend σ κ) (job : MoveJob κ) (state : σ) : Option MoveOutcome × σ :=
  match job.store backend state with
  | (some (.ok ()), state) => (some ⟨job.segment.logicalPath, true⟩, state)
  | (some (.error _), state) =>
      (some ⟨job.segment.logicalPath, false⟩, job.notifyFailed backend state)
  | (none, state) => (none, state)

end MoveJob

def Backend.runner {σ κ : Type} (backend : Backend σ κ) (pace : σ → Nat × σ) :
    Runner σ (MoveJob κ) MoveOutcome where
  run := MoveJob.run backend
  pace := pace

abbrev SegmentMover (κ : Type) := Mover (MoveJob κ) MoveOutcome

end Footage.Storage
