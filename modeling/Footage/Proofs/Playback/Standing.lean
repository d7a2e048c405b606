import Footage.Proofs.Playback.Turns
import Footage.Proofs.Playback.Stepping

/-!
# Where the stepping handle stands

The stepping handle has a position even where none is open yet: the first handle is before the
first frame until a mode takes it over, and so is every new one. What is quiet leaves that position
alone. A step starts there, or at the frame last delivered if the noted times differ, and the frame
and the position after it are decided by where it starts.
-/

namespace Footage.Playback

set_option autoImplicit false

variable {σ H : Type} {decoder : Decoder σ H} {path : String} {startMs : Int64}
  {faithful : Faithful decoder path startMs} {state : σ} {handle : H} {position : Nat}

def stride (times : List Int64) (forward : Bool) (start : Nat) : Option Int64 × Nat :=
  if forward then (times[start]?, min (start + 1) (times.length + 1))
  else
    match start with
    | index + 2 => (times[index]?, index + 1)
    | _ => (none, start)

theorem stride_forward (times : List Int64) (start : Nat) :
    stride times true start = (times[start]?, min (start + 1) (times.length + 1)) :=
  rfl

theorem stride_backward (times : List Int64) (index : Nat) :
    stride times false (index + 2) = (times[index]?, index + 1) :=
  rfl

theorem stride_front (times : List Int64) {start : Nat} (close : start ≤ 1) :
    stride times false start = (none, start) := by
  have front : start = 0 ∨ start = 1 := by omega
  rcases front with rfl | rfl <;> rfl

theorem front_or_behind (start : Nat) : start ≤ 1 ∨ ∃ index, start = index + 2 := by
  rcases Nat.lt_or_ge start 2 with close | behind
  · exact .inl (Nat.le_of_lt_succ close)
  · exact .inr ⟨start - 2, by omega⟩

theorem stride_within (times : List Int64) (forward : Bool) {start : Nat}
    (within : start ≤ times.length + 1) : (stride times forward start).2 ≤ times.length + 1 := by
  cases forward with
  | true => exact Nat.min_le_right _ _
  | false =>
      rcases front_or_behind start with close | ⟨index, rfl⟩
      · rw [stride_front times close]
        exact within
      · rw [stride_backward]
        omega

/-- After a step that delivers a frame the handle stands at that frame. -/
theorem stride_stands {times : List Int64} (increasing : times.Pairwise (· < ·)) {forward : Bool}
    {start : Nat} {ms : Int64} (delivered : (stride times forward start).1 = some ms) :
    (stride times forward start).2 = countUpTo times ms ∧ 1 ≤ countUpTo times ms := by
  cases forward with
  | true =>
      rw [stride_forward] at delivered ⊢
      have within := (List.getElem?_eq_some_iff.mp delivered).1
      rw [count_up_to_frame increasing delivered]
      omega
  | false =>
      rcases front_or_behind start with close | ⟨index, rfl⟩
      · rw [stride_front times close] at delivered
        cases delivered
      · rw [stride_backward] at delivered ⊢
        rw [count_up_to_frame increasing delivered]
        omega

/-- A step back delivers no frame only from the first one or before it, and stays there. -/
theorem stride_stops {times : List Int64} {start : Nat} (within : start ≤ times.length + 1)
    (stopped : (stride times false start).1 = none) :
    start ≤ 1 ∧ (stride times false start).2 = start := by
  rcases front_or_behind start with close | ⟨index, rfl⟩
  · rw [stride_front times close]
    exact ⟨close, rfl⟩
  · rw [stride_backward, List.getElem?_eq_none_iff] at stopped
    omega

theorem Faithful.step_call (faithful : Faithful decoder path startMs) (forward : Bool)
    (live : faithful.Live handle state) :
    (Reader.stepCall decoder forward handle state).1.map Frame.ms =
        (stride faithful.times forward (faithful.position handle state)).1 ∧
      faithful.position handle (Reader.stepCall decoder forward handle state).2 =
        (stride faithful.times forward (faithful.position handle state)).2 := by
  cases forward with
  | true => exact faithful.next_frame handle state live
  | false =>
      rcases front_or_behind (faithful.position handle state) with close | ⟨index, stands⟩
      · obtain ⟨missing, stays⟩ := faithful.no_prev_frame handle state live close
        rw [stride_front _ close]
        exact ⟨congrArg (Option.map Frame.ms) missing, stays⟩
      · rw [stands, stride_backward]
        exact faithful.prev_frame handle state index live stands

namespace CursorPair

/-- The stepping handle stands at this position, and a handle that is taken over or opened for
stepping later would be before the first frame. -/
structure Placed (faithful : Faithful decoder path startMs) (position : Nat)
    (pair : CursorPair H) (state : σ) : Prop where
  sound : pair.Sound faithful state
  fresh : ∀ handle ∈ pair.first, faithful.position handle state = 0
  stands : pair.sequential.elim 0 (fun handle => faithful.position handle state) = position

variable {pair taken : CursorPair H} {found : Option H} {after : σ}

theorem Placed.offered (placed : pair.Placed faithful position state) :
    pair.offered faithful.independent state = 0 := by
  unfold CursorPair.offered
  cases held : pair.first with
  | none => rfl
  | some handle => exact placed.fresh handle held

theorem Sound.first_ne (sound : pair.Sound faithful state) (held : pair.first = some handle) :
    pair.sequential ≠ some handle ∧ pair.random ≠ some handle := by
  have outside := sound.apart.first_outside held
  simp only [List.mem_append, Option.mem_toList, not_or] at outside
  exact outside

theorem Placed.take (slot : Slot) (placed : pair.Placed faithful position state)
    (took : pair.take decoder slot state = (found, taken, after)) :
    taken.Placed faithful position after := by
  rcases slot.any_or_mode with rfl | ⟨mode, rfl⟩
  · cases took
    exact placed
  · rcases take_apart mode placed.sound.apart with
      ⟨handle, -, takes⟩ | ⟨handle, after, missing, takes, apart, condition, others⟩
    · cases takes.symm.trans took
      exact placed
    · cases takes.symm.trans took
      have unused : ∀ first, (pair.lend mode handle).first = some first →
          faithful.position first after = 0 := by
        intro first free
        cases first_lend.symm.trans free
      have before := placed.stands
      refine ⟨apart.sound, unused, ?_⟩
      cases mode with
      | sequential =>
          rw [show pair.sequential = none from missing, Option.elim_none] at before
          exact (condition.trans placed.offered).trans before
      | random =>
          have same : (pair.lend .random handle).sequential = pair.sequential := rfl
          rw [← before, same]
          cases held : pair.sequential with
          | none => rfl
          | some stepping => exact others stepping held

theorem Placed.perform (placed : pair.Placed faithful position state)
    (member : handle ∈ pair.handles) (call : Call) (open_after : call ≠ .close)
    (unmoved : call.still = true ∨ pair.random = some handle) :
    pair.Placed faithful position (decoder.perform handle call state).2 := by
  have kept (other : H) (listed : other ∈ pair.handles) (apart : pair.random ≠ some other) :
      faithful.position other (decoder.perform handle call state).2 =
        faithful.position other state := by
    have live := placed.sound.live other listed
    by_cases same : other = handle
    · subst same
      rcases unmoved with still | random
      · exact faithful.still other call state live still
      · exact absurd random apart
    · exact (faithful.apart handle call state other same live).2
  refine ⟨placed.sound.perform member call open_after, ?_, ?_⟩
  · intro first held
    rw [kept first (first_mem held) (placed.sound.first_ne held).2]
    exact placed.fresh first held
  · rw [← placed.stands]
    cases held : pair.sequential with
    | none => rfl
    | some stepping =>
        have apart : pair.random ≠ some stepping :=
          fun random => placed.sound.random_ne_sequential random held
        exact kept stepping (held_mem .sequential held) apart

theorem Placed.move (placed : pair.Placed faithful position state)
    (held : pair.sequential = some handle) (call : Call) (open_after : call ≠ .close) :
    pair.Placed faithful (faithful.position handle (decoder.perform handle call state).2)
      (decoder.perform handle call state).2 := by
  refine ⟨placed.sound.perform (held_mem .sequential held) call open_after, ?_, ?_⟩
  · intro first offered
    have different : first ≠ handle := by
      rintro rfl
      exact (placed.sound.first_ne offered).1 held
    have live := placed.sound.live first (first_mem offered)
    rw [(faithful.apart handle call state first different live).2]
    exact placed.fresh first offered
  · rw [held, Option.elim_some]

end CursorPair

theorem Quiet.placed {before after : Option (CursorPair H) × σ} (quiet : Quiet decoder before after)
    (placed : ∃ pair, before.1 = some pair ∧ pair.Placed faithful position before.2) :
    ∃ pair, after.1 = some pair ∧ pair.Placed faithful position after.2 := by
  obtain ⟨pair, holds, placed⟩ := placed
  cases quiet with
  | take slot took =>
      cases holds
      exact ⟨_, rfl, placed.take slot took⟩
  | ask call member still =>
      cases holds
      exact ⟨_, rfl, placed.perform member call (CursorPair.still_open still) (.inl still)⟩
  | look ms held =>
      cases holds
      have member := CursorPair.held_mem .random held
      exact ⟨_, rfl, placed.perform member (.frameAt ms) (by simp) (.inr held)⟩
  | respec spec path_eq start_eq =>
      cases holds
      obtain ⟨path_was, start_was, live, distinct⟩ := placed.sound
      have sound : CursorPair.Sound faithful { pair with spec } _ :=
        ⟨path_eq.trans path_was, start_eq.trans start_was, live, distinct⟩
      exact ⟨_, rfl, sound, placed.fresh, placed.stands⟩

namespace Reader

structure At (faithful : Faithful decoder path startMs) (position : Nat) (reader : Reader H)
    (state : σ) : Prop where
  placed : ∃ pair, reader.pair = some pair ∧ pair.Placed faithful position state
  firstMs : reader.firstMs = startMs
  within : position ≤ faithful.times.length + 1

def standing (faithful : Faithful decoder path startMs) (reader : Reader H) (state : σ) : Nat :=
  reader.stepping.elim 0 fun handle => faithful.position handle state

def start (times : List Int64) (position : Nat) (reader : Reader H) : Nat :=
  if reader.diverged then reader.prevMs.elim 0 (countUpTo times) else position

variable {reader later ready : Reader H} {reached : σ}

theorem start_within (times : List Int64) (reader : Reader H)
    (within : position ≤ times.length + 1) : reader.start times position ≤ times.length + 1 := by
  unfold start
  split
  · cases reader.prevMs with
    | none => exact Nat.zero_le _
    | some ms => exact Nat.le_succ_of_le (count_up_to_le_length times ms)
  · exact within

theorem At.standing (placed : reader.At faithful position state) :
    reader.standing faithful state = position := by
  obtain ⟨pair, holds, kept⟩ := placed.placed
  simp only [Reader.standing, Reader.stepping, holds, Option.bind_some]
  exact kept.stands

theorem At.stepping (placed : reader.At faithful position state)
    (held : reader.stepping = some handle) :
    faithful.Live handle state ∧ faithful.position handle state = position := by
  obtain ⟨pair, holds, kept⟩ := placed.placed
  simp only [Reader.stepping, holds, Option.bind_some] at held
  have stands := kept.stands
  rw [held, Option.elim_some] at stands
  exact ⟨kept.sound.live handle (CursorPair.held_mem .sequential held), stands⟩

theorem Rests.place (rests : reader.Rests decoder state later reached)
    (placed : reader.At faithful position state) : later.At faithful position reached := by
  let kept (whole : Option (CursorPair H) × σ) : Prop :=
    ∃ pair, whole.1 = some pair ∧ pair.Placed faithful position whole.2
  exact ⟨rests.keeps kept Quiet.placed placed.placed,
    rests.firstMs.trans placed.firstMs, placed.within⟩

theorem At.move_to {moved : Nat} (placed : reader.At faithful position state)
    (held : reader.stepping = some handle) (call : Call) (open_after : call ≠ .close)
    (moves : faithful.position handle (decoder.perform handle call state).2 = moved)
    (within : moved ≤ faithful.times.length + 1) :
    reader.At faithful moved (decoder.perform handle call state).2 := by
  obtain ⟨pair, holds, kept⟩ := placed.placed
  simp only [Reader.stepping, holds, Option.bind_some] at held
  exact ⟨⟨pair, holds, moves ▸ kept.move held call open_after⟩, placed.firstMs, within⟩

theorem At.step_call (placed : reader.At faithful position state)
    (held : reader.stepping = some handle) (forward : Bool) :
    (stepCall decoder forward handle state).1.map Frame.ms =
        (stride faithful.times forward position).1 ∧
      reader.At faithful (stride faithful.times forward position).2
        (stepCall decoder forward handle state).2 := by
  obtain ⟨live, stands⟩ := placed.stepping held
  obtain ⟨shown, moves⟩ := faithful.step_call forward live
  rw [stands] at shown moves
  have within := stride_within faithful.times forward placed.within
  refine ⟨shown, ?_⟩
  cases forward with
  | true => exact placed.move_to held .nextFrame (by simp) moves within
  | false => exact placed.move_to held .prevFrame (by simp) moves within

/-- Before it steps the handle is moved to the start, if it is not there already. -/
theorem Resynced.place (resynced : reader.Resynced decoder handle state ready reached)
    (placed : reader.At faithful position state) (held : reader.stepping = some handle) :
    ready.At faithful (reader.start faithful.times position) reached ∧
      ready.stepping = some handle ∧ ready.forceReseek = false ∧ ready.done = reader.done := by
  have within := start_within faithful.times reader placed.within
  unfold start at within ⊢
  cases resynced with
  | agreed agrees =>
      rw [agrees, if_neg Bool.false_ne_true]
      exact ⟨placed, held, (not_diverged agrees).1, rfl⟩
  | sought diverged accepted =>
      rw [diverged, if_pos rfl] at within ⊢
      obtain ⟨live, -⟩ := placed.stepping held
      have moves := (faithful.seek handle reader.prevMs state live).2
      have kept := placed.move_to held (.seek reader.prevMs) (by simp) moves within
      rw [accepted] at kept
      exact ⟨⟨kept.placed, kept.firstMs, kept.within⟩, held, rfl, rfl⟩

theorem Rests.start (rests : reader.Rests decoder state later reached) (times : List Int64)
    (position : Nat) : later.start times position = reader.start times position := by
  simp only [Reader.start, rests.diverged, rests.prevMs]

/-- A step delivers what a stride from its start does, and notes where it leads. -/
theorem Strides.place {forward : Bool} {frame : Option Frame} {after : Reader H}
    (strides : reader.Strides decoder forward state (frame, after, reached))
    (placed : reader.At faithful position state) :
    let strode := stride faithful.times forward (reader.start faithful.times position)
    frame.map Frame.ms = strode.1 ∧ after.At faithful strode.2 reached ∧
      after.prevMs = strode.1 ∧ after.cursorMs = strode.1 ∧ after.forceReseek = false ∧
      after.done = (reader.done || (forward && frame.isNone)) := by
  intro strode
  cases strides with
  | barred rests took =>
      -- A faithful decoder opens the clip and grants seeks, so only the last case is left.
      obtain ⟨pair, holds, kept⟩ := placed.placed
      obtain ⟨handle, taken, between, takes, -⟩ := pair.take_mode_sound .sequential kept.sound
      have takes : pair.take decoder .sequential state = (some handle, taken, between) := takes
      rw [take_eq holds takes] at took
      cases took
  | @refused _ between _ handle rests held diverged refusal =>
      obtain ⟨live, -⟩ := (rests.place placed).stepping held
      have granted := (faithful.seek handle after.prevMs between live).1
      rw [refusal] at granted
      cases granted
  | @made later ready between before _ handle _ rests held resynced called =>
      obtain ⟨placed_ready, held, calm, done⟩ := resynced.place (rests.place placed) held
      rw [rests.start] at placed_ready
      obtain ⟨shown, kept⟩ := placed_ready.step_call held forward
      rw [called] at shown kept
      rw [rests.done] at done
      exact ⟨shown, ⟨kept.placed, kept.firstMs, kept.within⟩, shown, shown, calm,
        done ▸ rfl⟩

/-- The next frame is the one after the position that the step starts from. -/
theorem At.next_frame (placed : reader.At faithful position state) (undone : reader.done = false) :
    (reader.nextFrame decoder state).1.map Frame.ms =
      faithful.times[reader.start faithful.times position]? := by
  have strides := step_strides decoder true reader state
  rw [nextFrame, undone, if_neg Bool.false_ne_true]
  rcases steps : reader.step decoder true state with ⟨frame, after, reached⟩
  rw [steps] at strides
  exact (strides.place placed).1

/-- A clip that was just opened has nothing noted, and no handle that was moved. -/
theorem open_clip_place {spec : OpenSpec} (faithful : Faithful decoder spec.path spec.startMs)
    (reader : Reader H) (state : σ) :
    let opened := (reader.openClip decoder spec state).2
    opened.1.At faithful 0 opened.2 ∧ opened.1.prevMs = none ∧ opened.1.cursorMs = none ∧
      opened.1.forceReseek = false := by
  obtain ⟨handle, opens, -, live, position⟩ :=
    faithful.opens spec (reader.close decoder state).2 rfl rfl
  simp only [openClip, CursorPair.openClip]
  rcases reply : decoder.openClip spec (reader.close decoder state).2 with ⟨outcome, after⟩
  rw [reply] at opens live position
  subst opens
  have sound : CursorPair.Sound faithful ⟨spec, some handle, none, none⟩ after := by
    refine ⟨rfl, rfl, ?_, by simp [CursorPair.handles]⟩
    intro other member
    have same : other = handle := by simpa [CursorPair.handles] using member
    exact same ▸ live
  have fresh (other : H) (held : other ∈ some handle) : faithful.position other after = 0 := by
    cases held
    exact position
  exact ⟨⟨⟨_, rfl, sound, fresh, rfl⟩, rfl, Nat.zero_le _⟩, rfl, rfl, rfl⟩

end Reader

end Footage.Playback
