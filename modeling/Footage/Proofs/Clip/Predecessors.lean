import Footage.Clip.Segment
import Footage.Proofs.Storage.Targets
import Mathlib.Data.List.Destutter

/-!
# Each segment of a run refers to the one before it

A run is what a tracker observes until it is finished. A segment refers to the one before it by
the name that the engine reported, while the record of that segment has the name in lower case.
The directory in the reference is in lower case already and a slash ends the context of every
sigma, so lower case turns the reference into the path of the record and leaves paths alone.
-/

namespace Footage.Clip

open Footage.Text

set_option autoImplicit false

namespace Segment.Addressed

variable {segment : Segment}

theorem lower_logical_path (addressed : segment.Addressed) :
    lower segment.logicalPath = segment.storagePath := by
  have dir : lower segment.dir = segment.dir := by
    rw [addressed, storageDirFor, lower_lower]
  rw [logicalPath, lower_slash, dir, storagePath]

theorem lower_storage_path (addressed : segment.Addressed) :
    lower segment.storagePath = segment.storagePath := by
  rw [← addressed.lower_logical_path, lower_lower]

end Segment.Addressed

namespace Tracker

/-- Observes frames, each a file name and a time: the segments that they end, and the tracker
after them. -/
def follow : List (String × Int64) → Tracker → List Segment × Tracker
  | [], tracker => ([], tracker)
  | (fileName, ms) :: frames, tracker =>
      let (ended, tracker) := tracker.observe fileName ms
      let (later, tracker) := tracker.follow frames
      (ended.toList ++ later, tracker)

def remaining (tracker : Tracker) (frames : List (String × Int64)) : List Segment :=
  let (ended, tracker) := tracker.follow frames
  ended ++ tracker.finish.1.toList

theorem remaining_nil (tracker : Tracker) : tracker.remaining [] = tracker.current.toList := rfl

theorem remaining_cons (tracker : Tracker) (fileName : String) (ms : Int64)
    (frames : List (String × Int64)) :
    tracker.remaining ((fileName, ms) :: frames) =
      (tracker.observe fileName ms).1.toList ++
        (tracker.observe fileName ms).2.remaining frames := by
  simp only [remaining, follow, List.append_assoc]

def Follows (before next : Segment) : Prop := next.prevPath = before.logicalPath

structure Continues (location : String) (current : Segment) (names : List String)
    (segments : List Segment) : Prop where
  begins : ∃ endMs later, segments = { current with endMs } :: later
  linked : segments.IsChain Follows
  addressed : ∀ segment ∈ segments, segment.location = location ∧ segment.Addressed
  names : segments.map Segment.fileName = names.destutter' (· ≠ ·) current.fileName

theorem remaining_continues {location : String} {current : Segment}
    (located : current.location = location) (addressed : current.Addressed)
    (frames : List (String × Int64)) :
    Continues location current (frames.map Prod.fst)
      (remaining ⟨location, some current⟩ frames) := by
  induction frames generalizing current with
  | nil =>
      rw [remaining_nil]
      exact ⟨⟨current.endMs, [], rfl⟩, List.isChain_singleton _,
        List.forall_mem_singleton.mpr ⟨located, addressed⟩, rfl⟩
  | cons frame frames ih =>
      obtain ⟨fileName, ms⟩ := frame
      rw [remaining_cons]
      by_cases same : current.fileName = fileName
      · have observed : observe ⟨location, some current⟩ fileName ms =
            (none, ⟨location, some { current with endMs := ms }⟩) := if_pos same
        have further : Continues location { current with endMs := ms } (frames.map Prod.fst)
            (remaining ⟨location, some { current with endMs := ms }⟩ frames) :=
          ih located addressed
        rw [observed]
        refine ⟨further.begins, further.linked, further.addressed, ?_⟩
        rw [List.map_cons, List.destutter'_cons_neg _ (not_not_intro same)]
        exact further.names
      · have observed : observe ⟨location, some current⟩ fileName ms =
            (some current,
              ⟨location, some (.start location fileName ms current.logicalPath)⟩) := if_neg same
        have further := ih rfl (Segment.start_addressed location fileName current.logicalPath ms)
        obtain ⟨endMs, later, begins⟩ := further.begins
        rw [observed]
        refine ⟨⟨current.endMs, _, rfl⟩, ?_, ?_, ?_⟩
        · have linked := further.linked
          simp only [begins] at linked ⊢
          exact List.isChain_cons_cons.mpr ⟨rfl, linked⟩
        · exact List.forall_mem_cons.mpr ⟨⟨located, addressed⟩, further.addressed⟩
        · rw [List.map_cons, List.destutter'_cons_pos _ same]
          exact congrArg (current.fileName :: ·) further.names

namespace Continues

variable {location : String} {current segment : Segment} {names : List String}
  {segments : List Segment}

/-- Lower case turns the reference of a segment into the path of the record before it. -/
theorem resolves (run : Continues location current names segments) :
    (segments.map Record.ofSegment).IsChain fun before next =>
      lower next.prevPath = before.path := by
  rw [List.isChain_map]
  refine run.linked.imp_of_mem_imp ?_
  intro before next member _ follows
  have addressed := (run.addressed before member).2
  exact (congrArg lower follows).trans addressed.lower_logical_path

theorem path (run : Continues location current names segments) (member : segment ∈ segments) :
    (Record.ofSegment segment).path =
        lower location ++ "/" ++ lower (stem segment.fileName) ++ "/" ++
          lower segment.fileName ∧
      lower (Record.ofSegment segment).path = (Record.ofSegment segment).path := by
  obtain ⟨located, addressed⟩ := run.addressed segment member
  refine ⟨?_, addressed.lower_storage_path⟩
  rw [← located]
  exact addressed.storage_path

end Continues

end Tracker

def segmentsOf (location : String) (frames : List (String × Int64)) : List Segment :=
  (Tracker.new location).remaining frames

theorem segments_of_cons (location fileName : String) (ms : Int64)
    (frames : List (String × Int64)) :
    Tracker.Continues location (.start location fileName ms "") (frames.map Prod.fst)
      (segmentsOf location ((fileName, ms) :: frames)) := by
  rw [segmentsOf, Tracker.remaining_cons]
  exact Tracker.remaining_continues rfl (Segment.start_addressed _ _ _ _) frames

/-- A run has one segment for each row of frames with one file name. The first refers to nothing,
and each other one refers to the path of the record before it, up to lower case. Every path is
the location, the stem of the name and the name, each in lower case, and is in lower case. -/
theorem predecessors_resolve (location : String) (frames : List (String × Int64)) :
    let segments := segmentsOf location frames
    let records := segments.map Record.ofSegment
    segments.map Segment.fileName = (frames.map Prod.fst).destutter (· ≠ ·) ∧
      (∀ first ∈ records.head?, first.prevPath = "") ∧
      records.IsChain (fun before next => lower next.prevPath = before.path) ∧
      ∀ segment ∈ segments,
        (Record.ofSegment segment).path =
          lower location ++ "/" ++ lower (stem segment.fileName) ++ "/" ++
            lower segment.fileName ∧
        lower (Record.ofSegment segment).path = (Record.ofSegment segment).path := by
  intro segments records
  cases frames with
  | nil =>
      refine ⟨rfl, ?_, List.isChain_nil, ?_⟩
      · exact fun _ isHead => absurd isHead (Option.not_mem_none _)
      · exact fun _ member => absurd member List.not_mem_nil
  | cons frame frames =>
      obtain ⟨fileName, ms⟩ := frame
      have run := segments_of_cons location fileName ms frames
      refine ⟨run.names, ?_, run.resolves, fun _ member => run.path member⟩
      obtain ⟨endMs, later, begins⟩ := run.begins
      have head : records = _ := congrArg (List.map Record.ofSegment) begins
      intro first isHead
      rw [head] at isHead
      cases isHead
      rfl

example :
    ((segmentsOf "ΟΔΟΣ" [("Σ1", 0), ("Σ1", 40), ("Σ2", 80)]).map Record.ofSegment).map
      (fun record => (record.prevPath, record.path)) =
        [("", "οδος/σ1/σ1"), ("οδος/σ1/Σ1", "οδος/σ2/σ2")] := by
  decide +kernel

end Footage.Clip
