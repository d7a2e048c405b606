import Footage.Proofs.Playback.Release

/-!
# There and back

A step leaves the stepping handle where the reader notes that it stands, also when it runs past
the last frame and the reader notes no time at all. So the step that comes next moves no handle
first, and one step undoes the other.
-/

namespace Footage.Playback

set_option autoImplicit false

variable {σ H : Type} {decoder : Decoder σ H} {path : String} {startMs : Int64}

namespace Reader

variable {faithful : Faithful decoder path startMs} {reader : Reader H} {state : σ} {handle : H}
  {ms : Int64}

structure Ready (faithful : Faithful decoder path startMs) (handle : H) (position : Nat)
    (reader : Reader H) (state : σ) : Prop where
  poised : reader.Poised faithful handle state
  agrees : reader.diverged = false
  stands : faithful.position handle state = position

variable {position index : Nat}

theorem Ready.step_eq (ready : reader.Ready faithful handle position state) (forward : Bool) :
    reader.step decoder forward state =
      let (frame, after) :=
        if forward then decoder.perform handle .nextFrame state
        else decoder.perform handle .prevFrame state
      (frame, reader.stepped forward frame, after) := by
  obtain ⟨pair, holds, -, held⟩ := ready.poised
  have took : pair.take decoder .sequential state = (some handle, pair, state) :=
    CursorPair.take_held .sequential state held
  have unchanged : { reader with pair := some pair } = reader := by rw [← holds]
  have takes : reader.take decoder .sequential state = (some handle, reader, state) := by
    rw [take_eq holds took, unchanged]
  have resyncs : reader.resync decoder handle state = (true, reader, state) := by
    simp only [resync, ready.agrees, Bool.false_eq_true, if_false]
  simp only [step, takes, resyncs]

theorem Ready.stepped (ready : reader.Ready faithful handle position state) (forward : Bool)
    (frame : Option Frame) (call : Call) (open_after : call ≠ .close) :
    (reader.stepped forward frame).Ready faithful handle
      (faithful.position handle (decoder.perform handle call state).2)
      (decoder.perform handle call state).2 := by
  obtain ⟨pair, holds, sound, held⟩ := ready.poised
  have calm : reader.forceReseek = false := (not_diverged ready.agrees).1
  have kept := sound.perform (CursorPair.held_mem .sequential held) call open_after
  exact ⟨⟨pair, holds, kept, held⟩, by simp [diverged, Reader.stepped, calm], rfl⟩

theorem Ready.forward (ready : reader.Ready faithful handle position state) :
    ∃ frame after, reader.step decoder true state = (frame, reader.stepped true frame, after) ∧
      frame.map Frame.ms = faithful.times[position]? ∧
      (reader.stepped true frame).Ready faithful handle
        (min (position + 1) (faithful.times.length + 1)) after := by
  obtain ⟨shown, moved⟩ := faithful.next_frame handle state ready.poised.live
  have kept := ready.stepped true (decoder.perform handle .nextFrame state).1 .nextFrame (by simp)
  rw [ready.stands] at shown moved
  rw [moved] at kept
  exact ⟨_, _, ready.step_eq true, shown, kept⟩

theorem Ready.backward (ready : reader.Ready faithful handle (index + 2) state) :
    ∃ frame after, reader.step decoder false state = (frame, reader.stepped false frame, after) ∧
      frame.map Frame.ms = faithful.times[index]? ∧
      (reader.stepped false frame).Ready faithful handle (index + 1) after := by
  obtain ⟨shown, moved⟩ := faithful.prev_frame handle state index ready.poised.live ready.stands
  have kept := ready.stepped false (decoder.perform handle .prevFrame state).1 .prevFrame (by simp)
  rw [moved] at kept
  exact ⟨_, _, ready.step_eq false, shown, kept⟩

/-- The first step may move the handle; it then starts at the frame last delivered. -/
theorem Tuned.ready (tuned : reader.Tuned faithful state) (last : reader.prevMs = some ms)
    (found : faithful.times[index]? = some ms) :
    ∃ (handle : H) (begun : Reader H) (before : σ),
      (∀ forward, reader.step decoder forward state = begun.step decoder forward before) ∧
      begun.Ready faithful handle (index + 1) before := by
  obtain ⟨handle, begun, before, steps, poised, agrees, -, position⟩ := step_starts tuned
  have stands : faithful.position handle before = index + 1 := by
    rw [position ms last, count_up_to_frame faithful.increasing found]
  have ready : begun.Ready faithful handle (index + 1) before := ⟨poised, agrees, stands⟩
  exact ⟨handle, begun, before, fun forward => (steps forward).trans (ready.step_eq forward).symm,
    ready⟩

structure Returned (ms : Int64) (outcome : Option Frame × Reader H × σ) : Prop where
  delivered : outcome.1.map Frame.ms = some ms
  last : outcome.2.1.prevMs = some ms
  undone : outcome.2.1.done = false

def forthAndBack (decoder : Decoder σ H) (reader : Reader H) (state : σ) :
    Option Frame × Reader H × σ :=
  let (_, forth, state) := reader.nextFrame decoder state
  forth.prevFrame decoder state

def backAndForth (decoder : Decoder σ H) (reader : Reader H) (state : σ) :
    Option Frame × Reader H × σ :=
  let (_, back, state) := reader.prevFrame decoder state
  back.nextFrame decoder state

/-- The way back goes by the frame that the reader came from, even from behind the last one. -/
theorem forth_and_back (tuned : reader.Tuned faithful state) (undone : reader.done = false)
    (last : reader.prevMs = some ms) (listed : ms ∈ faithful.times) :
    Returned ms (reader.forthAndBack decoder state) := by
  obtain ⟨index, found⟩ := List.mem_iff_getElem?.mp listed
  obtain ⟨handle, begun, before, steps, ready⟩ := tuned.ready last found
  obtain ⟨frame, between, forward, -, beyond⟩ := ready.forward
  have within : index < faithful.times.length := (List.getElem?_eq_some_iff.mp found).1
  rw [Nat.min_eq_left (by omega)] at beyond
  obtain ⟨returned, after, backward, shown, -⟩ := beyond.backward
  rw [found] at shown
  obtain ⟨delivered, rfl, -⟩ := Option.map_eq_some_iff.mp shown
  have forth : reader.nextFrame decoder state = (frame, begun.stepped true frame, between) := by
    rw [nextFrame, undone, if_neg Bool.false_ne_true, steps true, forward]
  simp only [forthAndBack, forth, prevFrame, backward]
  exact ⟨shown, shown, rfl⟩

theorem back_and_forth (tuned : reader.Tuned faithful state) (last : reader.prevMs = some ms)
    (listed : ms ∈ faithful.times) (later : faithful.times.head? ≠ some ms) :
    Returned ms (reader.backAndForth decoder state) := by
  obtain ⟨index, found⟩ := List.mem_iff_getElem?.mp listed
  cases index with
  | zero =>
      rw [← List.head?_eq_getElem?] at found
      exact absurd found later
  | succ index =>
      obtain ⟨handle, begun, before, steps, ready⟩ := tuned.ready last found
      obtain ⟨frame, between, backward, shown, rewound⟩ := ready.backward
      have within : index + 1 < faithful.times.length := (List.getElem?_eq_some_iff.mp found).1
      rw [List.getElem?_eq_getElem (by omega)] at shown
      obtain ⟨earlier, rfl, -⟩ := Option.map_eq_some_iff.mp shown
      let back : Reader H := { begun.stepped false (some earlier) with done := false }
      have returns : reader.prevFrame decoder state = (some earlier, back, between) := by
        simp only [prevFrame, steps false, backward, Option.isSome_some, if_true, back]
      have ready : back.Ready faithful handle (index + 1) between :=
        ⟨rewound.poised, rewound.agrees, rewound.stands⟩
      obtain ⟨again, after, forward, same, -⟩ := ready.forward
      rw [found] at same
      obtain ⟨delivered, rfl, -⟩ := Option.map_eq_some_iff.mp same
      have forth : back.nextFrame decoder between =
          (some delivered, back.stepped true (some delivered), after) := by
        rw [nextFrame, if_neg Bool.false_ne_true, forward]
      simp only [backAndForth, returns, forth]
      exact ⟨same, same, rfl⟩

theorem Tuned.of_pair (tuned : reader.Tuned faithful state) :
    ∃ pair, reader.pair = some pair ∧ pair.spec.path = path ∧ pair.spec.startMs = startMs := by
  obtain ⟨pair, holds, sound, -⟩ := tuned
  exact ⟨pair, holds, sound.path_eq, sound.start_eq⟩

end Reader

def Reader.times (faithful : ∀ path startMs, Faithful decoder path startMs) (reader : Reader H) :
    List Int64 :=
  match reader.pair with
  | none => []
  | some pair => (faithful pair.spec.path pair.spec.startMs).times

def Reader.InStep (faithful : ∀ path startMs, Faithful decoder path startMs) (reader : Reader H)
    (state : σ) : Prop :=
  ∀ pair ∈ reader.pair, reader.Tuned (faithful pair.spec.path pair.spec.startMs) state

variable {faithful : ∀ path startMs, Faithful decoder path startMs} {reader : Reader H} {state : σ}

theorem Reader.Tuned.in_step {path : String} {startMs : Int64}
    (tuned : reader.Tuned (faithful path startMs) state) : reader.InStep faithful state := by
  intro pair holds
  obtain ⟨other, same, path_eq, start_eq⟩ := tuned.of_pair
  obtain rfl := Option.some.inj (same.symm.trans holds)
  rw [path_eq, start_eq]
  exact tuned

theorem Request.perform_in_step (request : Request) (in_step : reader.InStep faithful state) :
    (request.perform decoder reader state).1.InStep faithful
      (request.perform decoder reader state).2 := by
  cases request with
  | close => exact fun pair impossible => nomatch impossible
  | openClip spec =>
      obtain ⟨opened, after, opens, tuned⟩ :=
        Reader.open_clip_tuned (faithful spec.path spec.startMs) reader state
      rw [Request.perform, opens]
      exact tuned.in_step
  | operate operation =>
      cases holds : reader.pair with
      | none =>
          have shut := (Reader.perform_closed decoder state operation holds).1
          intro pair open_pair
          rw [Request.perform, shut] at open_pair
          cases open_pair
      | some pair => exact (Reader.perform_tuned operation (in_step pair holds)).in_step

theorem perform_all_in_step (requests : List Request) (in_step : reader.InStep faithful state) :
    (performAll decoder (reader, state) requests).1.InStep faithful
      (performAll decoder (reader, state) requests).2 := by
  induction requests generalizing reader state with
  | nil => exact in_step
  | cons request requests ih => exact ih (request.perform_in_step in_step)

/-- Whatever a reader was asked before: when it is not done and the frame last delivered is one of
the clip that is open, a step forward and one backward deliver it again, also past the end, and so
do a step backward and one forward unless it is the first. -/
theorem steps_return (faithful : ∀ path startMs, Faithful decoder path startMs) (start : σ)
    (requests : List Request) (reader : Reader H) (state : σ)
    (played : performAll decoder ({}, start) requests = (reader, state))
    (undone : reader.done = false) (ms : Int64) (last : reader.prevMs = some ms)
    (listed : ms ∈ reader.times faithful) :
    Reader.Returned ms (reader.forthAndBack decoder state) ∧
      ((reader.times faithful).head? ≠ some ms →
        Reader.Returned ms (reader.backAndForth decoder state)) := by
  have fresh : Reader.InStep faithful {} start := fun _ impossible => nomatch impossible
  have in_step := perform_all_in_step requests fresh
  rw [played] at in_step
  cases holds : reader.pair with
  | none =>
      rw [Reader.times, holds] at listed
      cases listed
  | some pair =>
      have tuned : reader.Tuned (faithful pair.spec.path pair.spec.startMs) state :=
        in_step pair holds
      have frames : reader.times faithful = (faithful pair.spec.path pair.spec.startMs).times := by
        rw [Reader.times, holds]
      rw [frames] at listed ⊢
      exact ⟨Reader.forth_and_back tuned undone last listed,
        Reader.back_and_forth tuned last listed⟩

/-- At the last frame of a clip that was opened over another and that no step was made in yet. -/
theorem steps_return_past_end :
    let tape := Tape.decoder [0, 100, 200]
    let requests : List Request :=
      [.openClip (.probe "old.mp4"), .operate .nextFrame, .openClip (.probe "clip.mp4"),
        .operate (.frameAt 0), .operate (.seek 250)]
    let played := performAll tape ({}, []) requests
    played.1.pair = some ⟨.probe "clip.mp4", none, none, some 1⟩ ∧ played.1.done = false ∧
      played.1.prevMs = some 200 ∧ (200 : Int64) ∈ [0, 100, 200] ∧
      [0, 100, 200].head? ≠ some (200 : Int64) ∧
      (played.1.nextFrame tape played.2).2.1.done = true ∧
      Reader.Returned 200 (played.1.forthAndBack tape played.2) ∧
      Reader.Returned 200 (played.1.backAndForth tape played.2) := by
  intro tape requests played
  have increasing : [0, 100, 200].Pairwise (· < · : Int64 → Int64 → Prop) := by decide
  let faithful : ∀ path startMs, Faithful tape path startMs := Tape.faithful increasing
  have holds : played.1.pair = some ⟨.probe "clip.mp4", none, none, some 1⟩ := rfl
  have frames : played.1.times faithful = [0, 100, 200] := rfl
  have undone : played.1.done = false := by decide
  have last : played.1.prevMs = some 200 := by decide
  have listed : (200 : Int64) ∈ [0, 100, 200] := by decide
  have later : [0, 100, 200].head? ≠ some (200 : Int64) := by decide
  have ended : (played.1.nextFrame tape played.2).2.1.done = true := by decide
  obtain ⟨forth, back⟩ :=
    steps_return faithful [] requests played.1 played.2 rfl undone 200 last (frames ▸ listed)
  exact ⟨holds, undone, last, listed, later, ended, forth, back (frames ▸ later)⟩

end Footage.Playback
