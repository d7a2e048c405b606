import Footage.Text.Lowercase

/-!
# Segments, clip records and the tracker

A segment is one file that the engine wrote during a continuous run. It is stored below a
directory made from its location and the first characters of its name, in lower case; its name in
storage is in lower case too. A record is what the index keeps about a stored segment.

The engine reports a file name with every frame. As long as the name stays the same the current
segment grows; a different name ends it and starts the next, which refers back to it.
-/

namespace Footage.Clip

set_option autoImplicit false

def stemLength : Nat := 5

/-- The storage directory of a file: location and the first characters of the name, lower case. -/
def storageDirFor (location fileName : String) : String :=
  Text.lower (location ++ "/" ++ String.ofList (fileName.toList.take stemLength))

structure Segment where
  /-- The name that the engine reported. -/
  fileName : String
  /-- The storage directory, relative to the root of the storage. -/
  dir : String
  location : String
  startMs : Int64
  endMs : Int64
  /-- The logical path of the segment before this one; empty for the first of a run. -/
  prevPath : String
  width : UInt32
  height : UInt32
deriving DecidableEq, Repr

namespace Segment

def start (location fileName : String) (startMs : Int64) (prevPath : String) : Segment where
  fileName := fileName
  dir := storageDirFor location fileName
  location := location
  startMs := startMs
  endMs := startMs
  prevPath := prevPath
  width := 0
  height := 0

/-- The path with the name as reported; failures and successors refer to the segment by it. -/
def logicalPath (segment : Segment) : String := segment.dir ++ "/" ++ segment.fileName

def storagePath (segment : Segment) : String :=
  segment.dir ++ "/" ++ Text.lower segment.fileName

end Segment

/-- A stored clip: its path below the root of the storage and the time that it covers. -/
structure Record where
  path : String
  location : String
  startMs : Int64
  endMs : Int64
  prevPath : String
  width : UInt32
  height : UInt32
deriving DecidableEq, Repr

namespace Record

def ofSegment (segment : Segment) : Record where
  path := segment.storagePath
  location := segment.location
  startMs := segment.startMs
  endMs := segment.endMs
  prevPath := segment.prevPath
  width := segment.width
  height := segment.height

def durationMs (record : Record) : Int64 := record.endMs - record.startMs

end Record

/-- The location and the segment in progress. -/
structure Tracker where
  location : String
  current : Option Segment
deriving DecidableEq, Repr

namespace Tracker

def new (location : String) : Tracker := ⟨location, none⟩

/-- One frame; the segment that it ended, if any, and the tracker after it. -/
def observe (tracker : Tracker) (fileName : String) (ms : Int64) : Option Segment × Tracker :=
  match tracker.current with
  | some segment =>
      if segment.fileName = fileName then
        (none, { tracker with current := some { segment with endMs := ms } })
      else
        let next := Segment.start tracker.location fileName ms segment.logicalPath
        (some segment, { tracker with current := some next })
  | none => (none, { tracker with current := some (.start tracker.location fileName ms "") })

def finish (tracker : Tracker) : Option Segment × Tracker :=
  (tracker.current, { tracker with current := none })

def currentStartMs (tracker : Tracker) : Option Int64 := tracker.current.map Segment.startMs

end Tracker

end Footage.Clip
