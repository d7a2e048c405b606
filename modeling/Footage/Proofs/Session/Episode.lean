import Footage.Session.State
import Mathlib.Data.List.SplitBy

/-!
# What one open stream leaves behind

An episode is what the engine said about one stream from its opening to its close. Its frames
with a file name, cut where the name changes, are the segments that the engine wrote. Each of
them is to be stored by one job, which takes the size of frames and the callback from the moment
at which its segment ended: the first frame of the next segment, or the close.
-/

namespace Footage.Rotation

open Footage.Capture Footage.Clip Footage.Storage

set_option autoImplicit false

variable {κ : Type}

structure Station where
  location : String
  recordDir : String
  storageDir : String
  relocator : Relocator

/-- What a job takes from the moment at which its segment ends. -/
structure Ending (κ : Type) where
  size : Option Size
  callback : Option κ

structure Shot (κ : Type) where
  fileName : String
  ms : Int64
  ending : Ending κ

/-- Consecutive shots with one file name: the first and the last of them. -/
structure Run (κ : Type) where
  first : Shot κ
  last : Shot κ

def Run.ofShots? : List (Shot κ) → Option (Run κ)
  | [] => none
  | first :: later => some ⟨first, later.getLastD first⟩

def Shot.sameFile (left right : Shot κ) : Bool := left.fileName == right.fileName

/-- The maximal runs of equal consecutive file names. -/
def runs (shots : List (Shot κ)) : List (Run κ) :=
  (shots.splitBy Shot.sameFile).filterMap Run.ofShots?

def Run.path (station : Station) (run : Run κ) : String :=
  storageDirFor station.location run.first.fileName ++ "/" ++ run.first.fileName

/-- The segment of a run that follows another, or none, as long as it has no size. -/
def Run.segment (station : Station) (before : Option (Run κ)) (run : Run κ) : Segment where
  fileName := run.first.fileName
  dir := storageDirFor station.location run.first.fileName
  location := station.location
  startMs := run.first.ms
  endMs := run.last.ms
  prevPath := (before.map (Run.path station)).getD ""
  width := 0
  height := 0

def Run.job (station : Station) (before : Option (Run κ)) (ending : Ending κ) (run : Run κ) :
    MoveJob κ where
  segment :=
    { run.segment station before with
      width := (ending.size.getD (0, 0)).1
      height := (ending.size.getD (0, 0)).2 }
  recordDir := station.recordDir
  storageDir := station.storageDir
  relocator := station.relocator
  onFailed := ending.callback

def jobs (station : Station) (ending : Option (Ending κ)) :
    Option (Run κ) → List (Run κ) → List (MoveJob κ)
  | _, [] => []
  | before, [run] => (ending.map fun ending => run.job station before ending).toList
  | before, run :: next :: later =>
      run.job station before next.first.ending :: jobs station ending (some run) (next :: later)

/-- A poll that found its stream running: the frame if there was one, the size that the stream
reported, and the callback of that time. -/
structure Moment (κ : Type) where
  captured : Option CapturedFrame
  size : Option Size
  callback : Option κ

/-- The shot of a moment before which a size was known: its frame if that has a file name. -/
def Moment.shot? (known : Option Size) (moment : Moment κ) : Option (Shot κ) :=
  match moment.captured with
  | none => none
  | some captured =>
      if captured.fileName.isEmpty then none
      else
        some ⟨captured.fileName, captured.frame.ms, ⟨moment.size.or known, moment.callback⟩⟩

/-- The last size reported up to the end of the moments, the first of all at the opening. -/
def knownSize (known : Option Size) : List (Moment κ) → Option Size
  | [] => known
  | moment :: later => knownSize (moment.size.or known) later

def shots (known : Option Size) : List (Moment κ) → List (Shot κ)
  | [] => []
  | moment :: later => (moment.shot? known).toList ++ shots (moment.size.or known) later

/-- What the engine said about one stream: the size at the opening, the moments, and the size at
the close with the callback of that time, unless the stream is still open. -/
structure Episode (κ : Type) where
  recording : Bool
  openSize : Option Size
  moments : List (Moment κ)
  closing : Option (Ending κ)

namespace Episode

/-- The runs of the frames with a file name. -/
def runs (episode : Episode κ) : List (Run κ) :=
  Rotation.runs (shots episode.openSize episode.moments)

def knownSize (episode : Episode κ) : Option Size :=
  Rotation.knownSize episode.openSize episode.moments

def ending (episode : Episode κ) : Option (Ending κ) :=
  episode.closing.map fun closing =>
    { closing with size := closing.size.or episode.knownSize }

def recordedRuns (episode : Episode κ) : List (Run κ) :=
  if episode.recording then episode.runs else []

def jobs (station : Station) (episode : Episode κ) : List (MoveJob κ) :=
  Rotation.jobs station episode.ending none episode.recordedRuns

def extend (moment : Moment κ) (episode : Episode κ) : Episode κ :=
  { episode with moments := episode.moments ++ [moment] }

def close (closing : Ending κ) (episode : Episode κ) : Episode κ :=
  { episode with closing := some closing }

end Episode

end Footage.Rotation
