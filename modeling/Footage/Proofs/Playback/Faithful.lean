import Footage.Proofs.Playback.Timeline

/-!
# Faithful decoders

A decoder is faithful to a clip when every open handle keeps a position of its own among the
frames of the clip, moved by stepping and seeking on that handle and by nothing else. A position
is the number of frames up to where the handle stands: zero before the first frame, and one more
than there are frames past the end.
-/

namespace Footage.Playback

set_option autoImplicit false

variable {σ H : Type}

/-- Asking this leaves a handle where it stands, and open. -/
def Call.still : Call → Bool
  | .nextFrame | .prevFrame | .frameAt _ | .seek _ | .close => false
  | _ => true

structure Faithful (decoder : Decoder σ H) (path : String) (startMs : Int64) where
  times : List Int64
  increasing : times.Pairwise (· < ·)
  /-- The handle is open on the clip. -/
  Live : H → σ → Prop
  position : H → σ → Nat
  /-- The clip opens, with a handle that was not open, before its first frame. -/
  opens : ∀ spec state, spec.path = path → spec.startMs = startMs →
    ∃ handle, (decoder.openClip spec state).1 = .ok handle ∧ ¬Live handle state ∧
      Live handle (decoder.openClip spec state).2 ∧
      position handle (decoder.openClip spec state).2 = 0
  opens_apart : ∀ spec state other, Live other state →
    Live other (decoder.openClip spec state).2 ∧
      position other (decoder.openClip spec state).2 = position other state
  /-- A call on one handle is nothing to another. -/
  apart : ∀ handle call state other, other ≠ handle → Live other state →
    Live other (decoder.perform handle call state).2 ∧
      position other (decoder.perform handle call state).2 = position other state
  stays : ∀ handle call state, Live handle state → call ≠ .close →
    Live handle (decoder.perform handle call state).2
  still : ∀ handle call state, Live handle state → call.still = true →
    position handle (decoder.perform handle call state).2 = position handle state
  /-- The following frame, or past the end. -/
  next_frame : ∀ handle state, Live handle state →
    (decoder.perform handle .nextFrame state).1.map Frame.ms = times[position handle state]? ∧
      position handle (decoder.perform handle .nextFrame state).2 =
        min (position handle state + 1) (times.length + 1)
  /-- The frame before the one where the handle stands. -/
  prev_frame : ∀ handle state index, Live handle state → position handle state = index + 2 →
    (decoder.perform handle .prevFrame state).1.map Frame.ms = times[index]? ∧
      position handle (decoder.perform handle .prevFrame state).2 = index + 1
  /-- There is no frame before the first. -/
  no_prev_frame : ∀ handle state, Live handle state → position handle state ≤ 1 →
    (decoder.perform handle .prevFrame state).1 = none ∧
      position handle (decoder.perform handle .prevFrame state).2 = position handle state
  /-- To the last frame at or before the time, or before the first frame. -/
  seek : ∀ handle after state, Live handle state →
    (decoder.perform handle (.seek after) state).1 = true ∧
      position handle (decoder.perform handle (.seek after) state).2 =
        after.elim 0 (countUpTo times)
  /-- The last frame at or before the time, or else the first. -/
  frame_at : ∀ handle ms state, Live handle state →
    (decoder.perform handle (.frameAt ms) state).1.map Frame.ms =
      times[countUpTo times ms - 1]?

namespace Faithful

variable {decoder : Decoder σ H} {path : String} {startMs : Int64} {handle : H} {state : σ}
  {frame : Frame}

theorem next_stands (faithful : Faithful decoder path startMs)
    (live : faithful.Live handle state)
    (delivered : (decoder.perform handle .nextFrame state).1 = some frame) :
    faithful.position handle (decoder.perform handle .nextFrame state).2 =
      countUpTo faithful.times frame.ms := by
  obtain ⟨found, position⟩ := faithful.next_frame handle state live
  rw [delivered] at found
  have found : faithful.times[faithful.position handle state]? = some frame.ms := found.symm
  have within := (List.getElem?_eq_some_iff.mp found).1
  rw [position, count_up_to_frame faithful.increasing found]
  omega

theorem prev_stands (faithful : Faithful decoder path startMs)
    (live : faithful.Live handle state)
    (delivered : (decoder.perform handle .prevFrame state).1 = some frame) :
    faithful.position handle (decoder.perform handle .prevFrame state).2 =
      countUpTo faithful.times frame.ms := by
  by_cases first : faithful.position handle state ≤ 1
  · rw [(faithful.no_prev_frame handle state live first).1] at delivered
    cases delivered
  · have further : faithful.position handle state = faithful.position handle state - 2 + 2 := by
      omega
    obtain ⟨found, position⟩ := faithful.prev_frame handle state _ live further
    rw [delivered] at found
    rw [position, count_up_to_frame faithful.increasing found.symm]

end Faithful

namespace Tape

def frame (ms : Int64) : Frame := ⟨[], 320, 240, ms⟩

def decoder (times : List Int64) : Decoder (List Nat) Nat where
  openClip := fun _ positions => (.ok positions.length, positions ++ [0])
  perform := fun handle call positions =>
    let position := positions.getD handle 0
    match call with
    | .nextFrame =>
        (times[position]?.map frame,
          positions.set handle (min (position + 1) (times.length + 1)))
    | .prevFrame =>
        match position with
        | index + 2 => (times[index]?.map frame, positions.set handle (index + 1))
        | _ => (none, positions)
    | .frameAt ms =>
        let index := countUpTo times ms - 1
        (times[index]?.map frame, positions.set handle (index + 1))
    | .seek after => (true, positions.set handle (after.elim 0 (countUpTo times)))
    | .frameOffsets => (some times, positions)
    | .duration => (times.getLast?, positions)
    | .nextFrameOffset => (times[position]?, positions)
    | .hasAudio => (true, positions)
    | .inputSize => (some (320, 240), positions)
    | .setMode _ | .setMute _ | .setOutputSize _ _ | .close => ((), positions)

variable {times : List Int64} {positions : List Nat} {handle other : Nat}

theorem perform_eq_set (handle : Nat) (call : Call) (positions : List Nat) :
    ((decoder times).perform handle call positions).2 = positions ∨
      ∃ position, ((decoder times).perform handle call positions).2 =
        positions.set handle position := by
  cases call with
  | nextFrame => exact .inr ⟨_, rfl⟩
  | frameAt ms => exact .inr ⟨_, rfl⟩
  | seek after => exact .inr ⟨_, rfl⟩
  | prevFrame =>
      simp only [decoder]
      split
      · exact .inr ⟨_, rfl⟩
      · exact .inl rfl
  | _ => exact .inl rfl

theorem perform_length (handle : Nat) (call : Call) (positions : List Nat) :
    ((decoder times).perform handle call positions).2.length = positions.length := by
  rcases perform_eq_set handle call positions with same | ⟨position, changed⟩
  · rw [same]
  · rw [changed, List.length_set]

theorem position_set_self (live : handle < positions.length) (position : Nat) :
    (positions.set handle position).getD handle 0 = position := by
  rw [List.getD_eq_getElem?_getD, List.getElem?_set_self live, Option.getD_some]

theorem position_set_other (different : other ≠ handle) (position : Nat) :
    (positions.set handle position).getD other 0 = positions.getD other 0 := by
  rw [List.getD_eq_getElem?_getD, List.getElem?_set_ne different.symm,
    List.getD_eq_getElem?_getD]

theorem map_frame_ms (found : Option Int64) : (found.map frame).map Frame.ms = found := by
  cases found <;> rfl

theorem open_new (times : List Int64) (spec : OpenSpec) (positions : List Nat) :
    ∃ handle, ((decoder times).openClip spec positions).1 = .ok handle ∧
      ¬handle < positions.length ∧
      handle < ((decoder times).openClip spec positions).2.length ∧
      ((decoder times).openClip spec positions).2.getD handle 0 = 0 := by
  refine ⟨positions.length, rfl, Nat.lt_irrefl _, ?_, ?_⟩
  · simp [decoder]
  · simp [decoder]

theorem open_apart (times : List Int64) (spec : OpenSpec) (live : other < positions.length) :
    other < ((decoder times).openClip spec positions).2.length ∧
      ((decoder times).openClip spec positions).2.getD other 0 = positions.getD other 0 := by
  have within : other < (positions ++ [0]).length := by
    simp
    omega
  refine ⟨within, ?_⟩
  simp only [decoder, List.getD_eq_getElem?_getD]
  rw [List.getElem?_append_left live]

theorem perform_apart (times : List Int64) (call : Call) (different : other ≠ handle)
    (live : other < positions.length) :
    other < ((decoder times).perform handle call positions).2.length ∧
      ((decoder times).perform handle call positions).2.getD other 0 =
        positions.getD other 0 := by
  rw [perform_length]
  refine ⟨live, ?_⟩
  rcases perform_eq_set handle call positions with same | ⟨position, changed⟩
  · rw [same]
  · rw [changed, position_set_other different]

theorem perform_live (handle : Nat) (call : Call) (positions : List Nat)
    (live : handle < positions.length) (_ : call ≠ .close) :
    handle < ((decoder times).perform handle call positions).2.length := by
  rwa [perform_length]

/-- The tape is faithful to a clip with these times, whatever it is called. -/
def faithful (increasing : times.Pairwise (· < ·)) (path : String) (startMs : Int64) :
    Faithful (decoder times) path startMs where
  times := times
  increasing := increasing
  Live := fun handle positions => handle < positions.length
  position := fun handle positions => positions.getD handle 0
  opens := fun spec positions _ _ => open_new times spec positions
  opens_apart := fun spec _ _ live => open_apart times spec live
  apart := fun _ call _ _ different live => perform_apart times call different live
  stays := perform_live
  still := by
    intro handle call positions live still
    cases call with
    | nextFrame => cases still
    | prevFrame => cases still
    | frameAt ms => cases still
    | seek after => cases still
    | _ => rfl
  next_frame := by
    intro handle positions live
    exact ⟨map_frame_ms _, position_set_self live _⟩
  prev_frame := by
    intro handle positions index live stands
    simp only [decoder, stands]
    exact ⟨map_frame_ms _, position_set_self live _⟩
  no_prev_frame := by
    intro handle positions live first
    have stands : positions.getD handle 0 = 0 ∨ positions.getD handle 0 = 1 := by omega
    rcases stands with stands | stands <;> simp only [decoder, stands, and_self]
  seek := by
    intro handle after positions live
    exact ⟨rfl, position_set_self live _⟩
  frame_at := by
    intro handle ms positions live
    exact map_frame_ms _

end Tape

end Footage.Playback
