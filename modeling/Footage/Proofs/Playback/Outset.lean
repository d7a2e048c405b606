import Footage.Proofs.Playback.Standing
import Footage.Proofs.Playback.Itinerary
import Mathlib.Data.List.Induction

/-!
# Playing from the start

A reader that has no position plays from the first frame, with one exception. A step back from the
first frame forgets the position but leaves the handle at that frame, and as nothing is noted for
the handle either, the next step starts there. This lasts until a position is set from outside: a
jump or a step forward gives a position, and from that the reader can only step off again.
-/

namespace Footage.Playback

set_option autoImplicit false

variable {σ H : Type} {decoder : Decoder σ H} {path : String} {startMs : Int64}
  {faithful : Faithful decoder path startMs} {state : σ} {position : Nat}

namespace Reader

/-- A step back from the first frame, or from a time between that and the second. -/
def StepsOff (times : List Int64) (reader : Reader H) (operation : Operation) : Prop :=
  operation = .prevFrame ∧ ∃ ms, reader.prevMs = some ms ∧ countUpTo times ms = 1

/-- Whether the reader is off the first frame after an operation, given whether it was before. -/
def OffAfter (times : List Int64) (off : Prop) (reader : Reader H) (operation : Operation) : Prop :=
  reader.StepsOff times operation ∨ (off ∧ ∀ ms, operation ≠ .setPrevMs ms)

/-- A step off the first frame was made, and no position was set from outside since. -/
def SteppedOff (times : List Int64) (run : List Operation → Reader H)
    (operations : List Operation) : Prop :=
  ∃ earlier operation later, operations = earlier ++ operation :: later ∧
    (run earlier).StepsOff times operation ∧ ∀ other ∈ later, ∀ ms, other ≠ .setPrevMs ms

/-- What the noted times tell of the position of the stepping handle, given whether the reader has
stepped off the first frame. -/
structure Stationed (faithful : Faithful decoder path startMs) (off : Prop) (position : Nat)
    (reader : Reader H) (state : σ) : Prop where
  placed : reader.At faithful position state
  blank : reader.forceReseek = false → reader.prevMs = none → reader.cursorMs = none
  front : reader.forceReseek = false → reader.prevMs = none → reader.done = false →
    (off → position = 1) ∧ (¬off → position = 0)
  calm : off → reader.forceReseek = false
  beyond : off → ∀ ms, reader.prevMs = some ms → 1 ≤ countUpTo faithful.times ms

variable {reader after : Reader H} {reached : σ} {off : Prop} {times : List Int64} {ms : Int64}
  {run : List Operation → Reader H} {operations : List Operation} {operation : Operation}

theorem not_stepped_off_nil : ¬SteppedOff times run [] := by
  rintro ⟨earlier, operation, later, split, -⟩
  exact absurd split (by simp)

theorem stepped_off_snoc :
    SteppedOff times run (operations ++ [operation]) ↔
      (run operations).OffAfter times (SteppedOff times run operations) operation := by
  constructor
  · rintro ⟨earlier, first, later, split, steps, unset⟩
    rcases snoc_eq_split.mp split with ⟨rfl, rfl, -⟩ | ⟨front, rfl, before⟩
    · exact .inl steps
    · rw [List.forall_mem_append, List.forall_mem_singleton] at unset
      exact .inr ⟨⟨earlier, first, front, before, steps, unset.1⟩, unset.2⟩
  · rintro (steps | ⟨⟨earlier, first, later, rfl, steps, unset⟩, still⟩)
    · exact ⟨operations, operation, [], rfl, steps, fun _ member => nomatch member⟩
    · refine ⟨earlier, first, later ++ [operation], by simp, steps, ?_⟩
      exact List.forall_mem_append.mpr ⟨unset, List.forall_mem_singleton.mpr still⟩

theorem not_off_after_set {place : Option Int64} :
    ¬reader.OffAfter times off (.setPrevMs place) := by
  rintro (⟨impossible, -⟩ | ⟨-, still⟩)
  · cases impossible
  · exact still place rfl

theorem off_after_back :
    reader.OffAfter times off .prevFrame ↔ reader.StepsOff times .prevFrame ∨ off := by
  simp only [OffAfter, ne_eq, reduceCtorEq, not_false_eq_true, implies_true, and_true]

theorem off_after_eq (onward : operation ≠ .prevFrame) (still : ∀ ms, operation ≠ .setPrevMs ms) :
    reader.OffAfter times off operation = off := by
  refine propext ⟨?_, fun off => .inr ⟨off, still⟩⟩
  rintro (⟨impossible, -⟩ | ⟨off, -⟩)
  · exact absurd impossible onward
  · exact off

/-- With a position the next step starts there, wherever the handle stands. -/
theorem Tuned.start_some (tuned : reader.Tuned faithful state)
    (placed : reader.At faithful position state) (last : reader.prevMs = some ms) :
    reader.start faithful.times position = countUpTo faithful.times ms := by
  unfold start
  cases moves : reader.diverged with
  | true => rw [if_pos rfl, last, Option.elim_some]
  | false =>
      obtain ⟨calm, agree⟩ := not_diverged moves
      obtain ⟨pair, holds, sound, stands⟩ := tuned
      obtain ⟨handle, held, position_eq⟩ := stands calm ms (agree.symm.trans last)
      have stepping : reader.stepping = some handle := by
        simp only [Reader.stepping, holds, Option.bind_some, held]
      rw [if_neg Bool.false_ne_true, ← position_eq, (placed.stepping stepping).2]

theorem Stationed.start_none (stationed : reader.Stationed faithful off position state)
    (blank : reader.prevMs = none) (undone : reader.done = false) :
    (off → reader.start faithful.times position = 1) ∧
      (¬off → reader.start faithful.times position = 0) := by
  unfold start
  cases forced : reader.forceReseek with
  | true =>
      have moves : reader.diverged = true := by rw [diverged, forced, Bool.true_or]
      rw [moves, if_pos rfl, blank, Option.elim_none]
      refine ⟨?_, fun _ => rfl⟩
      intro off
      exact absurd (forced.symm.trans (stationed.calm off)) (by decide)
  | false =>
      have agrees : reader.diverged = false := by
        rw [diverged, forced, blank, stationed.blank forced blank]
        rfl
      rw [agrees, if_neg Bool.false_ne_true]
      exact stationed.front forced blank undone

theorem Stationed.rest (stationed : reader.Stationed faithful off position state)
    (rests : reader.Rests decoder state after reached) :
    after.Stationed faithful off position reached := by
  obtain ⟨placed, blank, front, calm, beyond⟩ := stationed
  rw [← rests.forceReseek, ← rests.prevMs, ← rests.cursorMs] at blank
  rw [← rests.forceReseek, ← rests.prevMs, ← rests.done] at front
  rw [← rests.forceReseek] at calm
  rw [← rests.prevMs] at beyond
  exact ⟨rests.place placed, blank, front, calm, beyond⟩

theorem seek_reaches {frame : Frame} (tuned : reader.Tuned faithful state)
    (found : (reader.seek decoder ms state).1 = some frame) :
    1 ≤ countUpTo faithful.times frame.ms := by
  have lands := seek_lands tuned ms
  rcases sought : reader.seek decoder ms state with ⟨reply, later, reached⟩
  rw [sought] at found lands
  have shown : faithful.times[countUpTo faithful.times ms - 1]? = some frame.ms :=
    lands.1.symm.trans (congrArg (Option.map Frame.ms) found)
  rw [count_up_to_frame faithful.increasing shown]
  omega

theorem Stationed.jump {frame : Frame} (stationed : reader.Stationed faithful off position state)
    (reaches : 1 ≤ countUpTo faithful.times frame.ms) :
    Stationed faithful off position { reader with prevMs := some frame.ms, done := false }
      state where
  placed := ⟨stationed.placed.placed, stationed.placed.firstMs, stationed.placed.within⟩
  blank := fun _ impossible => nomatch impossible
  front := fun _ impossible => nomatch impossible
  calm := stationed.calm
  beyond := by
    rintro - ms last
    cases last
    exact reaches

theorem Stationed.set (stationed : reader.Stationed faithful off position state)
    (ms : Option Int64) : (reader.setPrevMs ms).Stationed faithful False position state where
  placed := ⟨stationed.placed.placed, stationed.placed.firstMs, stationed.placed.within⟩
  blank := fun impossible => nomatch impossible
  front := fun impossible => nomatch impossible
  calm := False.elim
  beyond := False.elim

theorem Stationed.strode {forward : Bool} {start : Nat} (after : Reader H) (done : Bool)
    (placed : after.At faithful (stride faithful.times forward start).2 reached)
    (prevMs : after.prevMs = (stride faithful.times forward start).1)
    (cursorMs : after.cursorMs = (stride faithful.times forward start).1)
    (calm : after.forceReseek = false)
    (front : (stride faithful.times forward start).1 = none → done = false →
      (off → (stride faithful.times forward start).2 = 1) ∧
        (¬off → (stride faithful.times forward start).2 = 0)) :
    Stationed faithful off (stride faithful.times forward start).2 { after with done } reached where
  placed := ⟨placed.placed, placed.firstMs, placed.within⟩
  blank := by
    rintro - blank
    exact cursorMs.trans (prevMs.symm.trans blank)
  front := by
    rintro - blank undone
    exact front (prevMs.symm.trans blank) undone
  calm := fun _ => calm
  beyond := by
    rintro - ms last
    exact (stride_stands faithful.increasing (prevMs.symm.trans last)).2

/-- Whether a step back that delivers no frame starts at the first frame or before it. -/
theorem Stationed.stopped (stationed : reader.Stationed faithful off position state)
    (tuned : reader.Tuned faithful state) (undone : reader.done = false)
    (close : reader.start faithful.times position ≤ 1) :
    (reader.OffAfter faithful.times off .prevFrame → reader.start faithful.times position = 1) ∧
      (¬reader.OffAfter faithful.times off .prevFrame →
        reader.start faithful.times position = 0) := by
  rw [off_after_back]
  cases last : reader.prevMs with
  | none =>
      obtain ⟨one, zero⟩ := stationed.start_none last undone
      constructor
      · rintro (⟨-, ms, impossible, -⟩ | off)
        · cases last.symm.trans impossible
        · exact one off
      · intro neither
        exact zero fun off => neither (.inr off)
  | some ms =>
      rw [tuned.start_some stationed.placed last] at close ⊢
      -- The step starts at the noted time, which is not before the first frame once it stepped off.
      constructor
      · rintro (⟨-, other, same, one⟩ | off)
        · cases last.symm.trans same
          exact one
        · have beyond := stationed.beyond off ms last
          omega
      · intro neither
        have several : countUpTo faithful.times ms ≠ 1 :=
          fun one => neither (.inl ⟨rfl, ms, last, one⟩)
        omega

theorem perform_stationed (operation : Operation) (tuned : reader.Tuned faithful state)
    (stationed : reader.Stationed faithful off position state) :
    ∃ moved, (reader.perform decoder operation state).1.Stationed faithful
      (reader.OffAfter faithful.times off operation) moved
      (reader.perform decoder operation state).2 := by
  have turns := perform_turns decoder operation reader state
  generalize reader.perform decoder operation state = outcome at turns ⊢
  cases turns with
  | rested rests stays kept =>
      rw [off_after_eq (by rintro rfl; cases stays) (by rintro ms rfl; cases kept)]
      exact ⟨position, stationed.rest rests⟩
  | finished =>
      rw [off_after_eq (by simp) (by simp)]
      obtain ⟨placed, blank, front, calm, beyond⟩ := stationed
      exact ⟨position, ⟨placed.placed, placed.firstMs, placed.within⟩, blank,
        (fun _ _ impossible => nomatch impossible), calm, beyond⟩
  | @jumped ms frame later reached found rests =>
      rw [off_after_eq (by simp) (by simp)]
      exact ⟨position, (stationed.rest rests).jump (seek_reaches tuned found)⟩
  | placed ms =>
      rw [eq_false not_off_after_set]
      exact ⟨position, stationed.set ms⟩
  | @stepped _ frame after reached forward way undone strides =>
      obtain ⟨shown, placed, prevMs, cursorMs, calm, done⟩ := strides.place stationed.placed
      have settles : after.settled forward frame =
          { after with done := after.done && (forward || frame.isNone) } := by
        cases forward <;> cases frame <;> simp [settled]
      rw [settles]
      refine ⟨_, .strode after _ placed prevMs cursorMs calm ?_⟩
      intro missing ended
      have absent : frame = none := Option.map_eq_none_iff.mp (shown.trans missing)
      subst absent
      rw [done] at ended
      -- Without a frame a step forward ends the clip, so the step went back from the front.
      cases forward with
      | true => simp at ended
      | false =>
          have undone : reader.done = false := by simpa using ended
          subst way
          obtain ⟨close, stays⟩ := stride_stops
            (start_within faithful.times reader stationed.placed.within) missing
          rw [stays]
          exact stationed.stopped tuned undone close

theorem perform_all_snoc (operations : List Operation) (operation : Operation) (reader : Reader H)
    (state : σ) :
    performAll decoder (operations ++ [operation]) reader state =
      (performAll decoder operations reader state).1.perform decoder operation
        (performAll decoder operations reader state).2 := by
  induction operations generalizing reader state with
  | nil => rfl
  | cons first rest ih =>
      exact ih (reader.perform decoder first state).1 (reader.perform decoder first state).2

theorem perform_all_stationed {spec : OpenSpec}
    (faithful : Faithful decoder spec.path spec.startMs) (reader : Reader H) (state : σ)
    (operations : List Operation) :
    let opened := (reader.openClip decoder spec state).2
    let run (past : List Operation) := performAll decoder past opened.1 opened.2
    (run operations).1.Tuned faithful (run operations).2 ∧
      ∃ position, (run operations).1.Stationed faithful
        (SteppedOff faithful.times (fun past => (run past).1) operations) position
        (run operations).2 := by
  intro opened run
  obtain ⟨start, between, opens, tuned⟩ := open_clip_tuned faithful reader state
  have begun : opened = (start, between) := congrArg Prod.snd opens
  have tuned : opened.1.Tuned faithful opened.2 := begun ▸ tuned
  have follows (past : List Operation) : (run past).1.Tuned faithful (run past).2 :=
    perform_all_tuned past tuned
  refine ⟨follows operations, ?_⟩
  -- Whether the reader is off after an operation depends on all operations before it.
  induction operations using List.reverseRecOn with
  | nil =>
      obtain ⟨placed, prevMs, cursorMs, calm⟩ := open_clip_place faithful reader state
      refine ⟨0, placed, fun _ _ => cursorMs, fun _ _ _ => ?_, fun _ => calm, ?_⟩
      · exact ⟨fun off => absurd off not_stepped_off_nil, fun _ => rfl⟩
      · exact fun off => absurd off not_stepped_off_nil
  | append_singleton past operation ih =>
      obtain ⟨position, stationed⟩ := ih
      obtain ⟨moved, kept⟩ := perform_stationed operation (follows past) stationed
      have further : run (past ++ [operation]) =
          (run past).1.perform decoder operation (run past).2 :=
        perform_all_snoc past operation opened.1 opened.2
      rw [stepped_off_snoc, further]
      exact ⟨moved, kept⟩

/-- However a clip was played, a reader that is not done and has no position plays its first frame
next, and the handle is before that frame unless it is going to be moved there. The exception is a
reader that has stepped back off the first frame, with no position set from outside since: its
handle is at the first frame, and it plays the second one next. -/
theorem plays_from_start {spec : OpenSpec} (faithful : Faithful decoder spec.path spec.startMs)
    (reader : Reader H) (state : σ) (operations : List Operation) :
    let opened := (reader.openClip decoder spec state).2
    let run (past : List Operation) := performAll decoder past opened.1 opened.2
    let played := run operations
    let off := SteppedOff faithful.times (fun past => (run past).1) operations
    let next := (played.1.nextFrame decoder played.2).1.map Frame.ms
    let standing := played.1.standing faithful played.2
    played.1.done = false → played.1.prevMs = none →
      (¬off → next = faithful.times.head? ∧
        (played.1.forceReseek = false → played.1.cursorMs = none ∧ standing = 0)) ∧
      (off → next = faithful.times[1]? ∧
        played.1.forceReseek = false ∧ played.1.cursorMs = none ∧ standing = 1) := by
  intro opened run played off next standing undone blank
  obtain ⟨-, position, stationed⟩ :=
    perform_all_stationed faithful reader state operations
  have shown : next = faithful.times[played.1.start faithful.times position]? :=
    stationed.placed.next_frame undone
  have stands : standing = position := stationed.placed.standing
  obtain ⟨one, zero⟩ := stationed.start_none blank undone
  constructor
  · intro on
    rw [zero on, ← List.head?_eq_getElem?] at shown
    refine ⟨shown, fun calm => ⟨stationed.blank calm blank, ?_⟩⟩
    exact stands.trans ((stationed.front calm blank undone).2 on)
  · intro off
    rw [one off] at shown
    have calm := stationed.calm off
    refine ⟨shown, calm, stationed.blank calm blank, ?_⟩
    exact stands.trans ((stationed.front calm blank undone).1 off)

/-- The position is forgotten at the first frame and then set from outside to none. -/
theorem plays_from_start_set :
    let tape := Tape.decoder [0, 100, 200]
    let spec := OpenSpec.probe "clip.mp4"
    let operations := [Operation.nextFrame, .prevFrame] ++ [.setPrevMs none]
    let opened := (Reader.openClip tape spec {} []).2
    let played := performAll tape operations opened.1 opened.2
    played.1.done = false ∧ played.1.prevMs = none ∧ played.1.forceReseek = true ∧
      (played.1.nextFrame tape played.2).1.map Frame.ms = some 0 := by
  intro tape spec operations opened played
  have increasing : [0, 100, 200].Pairwise (· < · : Int64 → Int64 → Prop) := by decide
  have undone : played.1.done = false := by decide
  have blank : played.1.prevMs = none := by decide
  have starts := plays_from_start (Tape.faithful increasing spec.path spec.startMs) {} []
    operations undone blank
  have on : ¬SteppedOff [0, 100, 200] (fun past => (performAll tape past opened.1 opened.2).1)
      operations := by
    rw [stepped_off_snoc]
    exact not_off_after_set
  exact ⟨undone, blank, by decide, (starts.1 on).1⟩

/-- The first frame is delivered, the step back from it delivers none, and then the second frame
is next. -/
theorem stepped_off_first_frame :
    let tape := Tape.decoder [0, 100, 200]
    let opened := (Reader.openClip tape (OpenSpec.probe "clip.mp4") {} []).2
    let played := performAll tape [.nextFrame, .prevFrame] opened.1 opened.2
    played.1.done = false ∧ played.1.prevMs = none ∧ played.1.forceReseek = false ∧
      played.1.cursorMs = none ∧ played.2 = [1] ∧
      (played.1.nextFrame tape played.2).1.map Frame.ms = some 100 ∧
      (played.1.nextFrame tape played.2).1.map Frame.ms ≠ [0, 100, 200].head? := by
  decide

end Reader

end Footage.Playback
