import Footage.Proofs.Playback.Outset

/-!
# Foretelling the next frame

The offset of the next frame is asked of the stepping handle where it stands. A step may start
elsewhere: after a jump, or a position from outside, it moves the handle first. So the offset
belongs to the frame that a step delivers exactly if no such move is due, or if the move would
leave the handle where it is.
-/

namespace Footage.Playback

set_option autoImplicit false

variable {σ H : Type} {decoder : Decoder σ H} {path : String} {startMs : Int64}
  {faithful : Faithful decoder path startMs} {state : σ} {position : Nat}

/-- A handle knows the frame that it would deliver next, by its offset from the start. -/
def Faithful.Foretells (faithful : Faithful decoder path startMs) : Prop :=
  ∀ handle state, faithful.Live handle state →
    (decoder.perform handle .nextFrameOffset state).1.map (startMs + ·) =
      faithful.times[faithful.position handle state]?

theorem Tape.foretells {times : List Int64} (increasing : times.Pairwise (· < ·)) (path : String) :
    (Tape.faithful increasing path 0).Foretells := by
  intro handle positions live
  have same : (fun offset : Int64 => 0 + offset) = id := funext Int64.zero_add
  show Option.map (0 + ·) times[positions.getD handle 0]? = times[positions.getD handle 0]?
  rw [same, Option.map_id, id]

theorem frame_index_unique {times : List Int64} (increasing : times.Pairwise (· < ·)) {ms : Int64}
    {index other : Nat} (found : times[index]? = some ms) :
    times[other]? = some ms ↔ other = index := by
  constructor
  · intro again
    have count : countUpTo times ms = other + 1 := count_up_to_frame increasing again
    rw [count_up_to_frame increasing found] at count
    omega
  · rintro rfl
    exact found

namespace Reader

variable {reader : Reader H}

theorem At.next_frame_offset (placed : reader.At faithful position state)
    (foretells : faithful.Foretells) :
    (reader.nextFrameOffset decoder state).1.map (startMs + ·) = faithful.times[position]? := by
  obtain ⟨pair, holds, kept⟩ := placed.placed
  obtain ⟨handle, taken, between, takes, -⟩ := pair.take_mode_sound .sequential kept.sound
  have took : reader.take decoder .sequential state =
      (some handle, { reader with pair := some taken }, between) := take_eq holds takes
  obtain ⟨live, stands⟩ := ((take_rests took).1.place placed).stepping (take_stepping took)
  simp only [nextFrameOffset, ask, took, Option.join_some]
  rw [foretells handle between live, stands]

theorem start_eq_iff (times : List Int64) (position : Nat) (reader : Reader H) :
    reader.start times position = position ↔
      reader.diverged = false ∨ reader.prevMs.elim 0 (countUpTo times) = position := by
  unfold start
  cases reader.diverged with
  | true => simp
  | false => simp

/-- Whatever was done with a clip after it was opened: the offset that a reader gives is that of
the frame that the next step delivers if and only if that step moves no handle first, or moves it
to where it stands. -/
theorem foretold_iff {spec : OpenSpec} (faithful : Faithful decoder spec.path spec.startMs)
    (foretells : faithful.Foretells) (reader : Reader H) (state : σ)
    (operations : List Operation) (offset : Int64) :
    let opened := (reader.openClip decoder spec state).2
    let played := performAll decoder operations opened.1 opened.2
    let asked := (played.1.nextFrameOffset decoder played.2).2
    played.1.done = false → (played.1.nextFrameOffset decoder played.2).1 = some offset →
      ((asked.1.nextFrame decoder asked.2).1.map Frame.ms = some (asked.1.firstMs + offset) ↔
        played.1.diverged = false ∨
          played.1.prevMs.elim 0 (countUpTo faithful.times) =
            played.1.standing faithful played.2) := by
  intro opened played asked undone told
  obtain ⟨-, position, stationed⟩ := perform_all_stationed faithful reader state operations
  have placed : played.1.At faithful position played.2 := stationed.placed
  have rests : played.1.Rests decoder played.2 asked.1 asked.2 :=
    ask_rests decoder .sequential .nextFrameOffset rfl played.1 played.2
  have foretold : faithful.times[position]? = some (asked.1.firstMs + offset) := by
    rw [← placed.next_frame_offset foretells, told, rests.firstMs, placed.firstMs, Option.map_some]
  have next : (asked.1.nextFrame decoder asked.2).1.map Frame.ms =
      faithful.times[played.1.start faithful.times position]? := by
    rw [← rests.start]
    exact (rests.place placed).next_frame (rests.done.trans undone)
  rw [next, frame_index_unique faithful.increasing foretold, start_eq_iff, placed.standing]

/-- The position is set from outside to where the handle stands. -/
theorem foretold_iff_set :
    let tape := Tape.decoder [0, 100, 200]
    let spec := OpenSpec.probe "clip.mp4"
    let opened := (Reader.openClip tape spec {} []).2
    let played := performAll tape [.nextFrame, .setPrevMs (some 50)] opened.1 opened.2
    let asked := (played.1.nextFrameOffset tape played.2).2
    played.1.done = false ∧ (played.1.nextFrameOffset tape played.2).1 = some 100 ∧
      played.1.diverged = true ∧
      (asked.1.nextFrame tape asked.2).1.map Frame.ms = some (asked.1.firstMs + 100) := by
  intro tape spec opened played asked
  have increasing : [0, 100, 200].Pairwise (· < · : Int64 → Int64 → Prop) := by decide
  have undone : played.1.done = false := by decide
  have told : (played.1.nextFrameOffset tape played.2).1 = some 100 := by decide
  have foretold := foretold_iff (Tape.faithful increasing spec.path spec.startMs)
    (Tape.foretells increasing spec.path) {} [] [.nextFrame, .setPrevMs (some 50)] 100 undone told
  exact ⟨undone, told, by decide, foretold.mpr (.inr rfl)⟩

/-- After a jump to the last but one frame the offset is still that of the second frame. -/
theorem foretold_before_jump :
    let tape := Tape.decoder [0, 100, 200, 300]
    let opened := (Reader.openClip tape (OpenSpec.probe "clip.mp4") {} []).2
    let played := performAll tape [.nextFrame, .seek 200] opened.1 opened.2
    let asked := (played.1.nextFrameOffset tape played.2).2
    played.1.done = false ∧ (played.1.nextFrameOffset tape played.2).1 = some 100 ∧
      (asked.1.nextFrame tape asked.2).1.map Frame.ms = some 300 ∧
      (asked.1.nextFrame tape asked.2).1.map Frame.ms ≠ some (asked.1.firstMs + 100) := by
  decide

end Reader

end Footage.Playback
