import Footage.Proofs.Playback.Handles

/-!
# Stepping through a clip

A reader moves the stepping handle only when the time it noted for it is not the time of the frame
last delivered. That is enough as long as a noted time is where the handle really stands, however
steps, jumps, lookups and new positions follow on one another.
-/

namespace Footage.Playback

set_option autoImplicit false

inductive Operation where
  | nextFrame
  | prevFrame
  | seek (ms : Int64)
  | frameAt (ms : Int64)
  | setPrevMs (ms : Option Int64)
  | markDone
  | duration
  | frameOffsets
  | nextFrameOffset
  | hasAudio
  | inputSize
  | setMute (on : Bool)
  | setOutputSize (width height : UInt32)
deriving DecidableEq, Repr

variable {σ H : Type} {decoder : Decoder σ H} {path : String} {startMs : Int64}

namespace Reader

def perform (decoder : Decoder σ H) (operation : Operation) (reader : Reader H) (state : σ) :
    Reader H × σ :=
  match operation with
  | .nextFrame => (reader.nextFrame decoder state).2
  | .prevFrame => (reader.prevFrame decoder state).2
  | .seek ms => (reader.seek decoder ms state).2
  | .frameAt ms => (reader.frameAt decoder ms state).2
  | .setPrevMs ms => (reader.setPrevMs ms, state)
  | .markDone => (reader.markDone, state)
  | .duration => (reader.duration decoder state).2
  | .frameOffsets => (reader.frameOffsets decoder state).2
  | .nextFrameOffset => (reader.nextFrameOffset decoder state).2
  | .hasAudio => (reader.hasAudio decoder state).2
  | .inputSize => (reader.inputSize decoder state).2
  | .setMute on => reader.setMute decoder on state
  | .setOutputSize width height => reader.setOutputSize decoder width height state

def performAll (decoder : Decoder σ H) :
    List Operation → Reader H → σ → Reader H × σ
  | [], reader, state => (reader, state)
  | operation :: rest, reader, state =>
      let (reader, state) := reader.perform decoder operation state
      performAll decoder rest reader state

/-- Unless the next step moves the stepping handle anyway, the time noted for it is right. -/
def Tuned (faithful : Faithful decoder path startMs) (reader : Reader H) (state : σ) : Prop :=
  ∃ pair, reader.pair = some pair ∧ pair.Sound faithful state ∧
    (reader.forceReseek = false → pair.Stands faithful reader.cursorMs state)

variable {faithful : Faithful decoder path startMs} {reader : Reader H} {state : σ}

theorem take_eq {slot : Slot} {pair taken : CursorPair H} {held : Option H} {after : σ}
    (holds : reader.pair = some pair)
    (took : pair.take decoder slot state = (held, taken, after)) :
    reader.take decoder slot state = (held, { reader with pair := some taken }, after) := by
  unfold take
  rw [holds]
  simp only [took]

theorem ask_tuned (slot : Slot) (call : Call) (tuned : reader.Tuned faithful state)
    (still : call.still = true) :
    ∃ reply taken after,
      reader.ask decoder slot call state = (reply, { reader with pair := some taken }, after) ∧
        Tuned faithful { reader with pair := some taken } after := by
  obtain ⟨pair, holds, sound, stands⟩ := tuned
  obtain ⟨held, taken, between, took, kept, follows, open_handle⟩ := pair.take_sound slot sound
  have stands : reader.forceReseek = false → taken.Stands faithful reader.cursorMs between :=
    fun unforced => follows _ (stands unforced)
  have takes : reader.take decoder slot state =
      (held, { reader with pair := some taken }, between) := take_eq holds took
  cases held with
  | none =>
      refine ⟨none, taken, between, ?_, taken, rfl, kept, stands⟩
      simp only [ask, takes]
  | some handle =>
      refine ⟨some (decoder.perform handle call between).1, taken,
        (decoder.perform handle call between).2, ?_, taken, rfl, ?_, ?_⟩
      · simp only [ask, takes]
      · exact kept.perform (open_handle handle rfl) call (CursorPair.still_open still)
      · intro unforced
        exact kept.perform_stands (stands unforced) call (.inl still)

def Poised (faithful : Faithful decoder path startMs) (reader : Reader H) (handle : H)
    (state : σ) : Prop :=
  ∃ pair, reader.pair = some pair ∧ pair.Sound faithful state ∧ pair.sequential = some handle

variable {handle : H}

theorem Poised.live (poised : reader.Poised faithful handle state) :
    faithful.Live handle state := by
  obtain ⟨pair, _, sound, held⟩ := poised
  exact sound.live handle (CursorPair.held_mem .sequential held)

/-- A reader is tuned after a step if the handle stands at the frame it delivered. -/
theorem Poised.stepped (poised : reader.Poised faithful handle state) (forward : Bool)
    (frame : Option Frame) (call : Call) (open_after : call ≠ .close)
    (stands : ∀ delivered, frame = some delivered →
      faithful.position handle (decoder.perform handle call state).2 =
        countUpTo faithful.times delivered.ms) :
    (reader.stepped forward frame).Tuned faithful (decoder.perform handle call state).2 := by
  obtain ⟨pair, holds, sound, held⟩ := poised
  refine ⟨pair, holds, sound.perform (CursorPair.held_mem .sequential held) call open_after, ?_⟩
  intro _ ms noted
  obtain ⟨delivered, same, shown⟩ := Option.map_eq_some_iff.mp noted
  subst shown
  exact ⟨handle, held, stands delivered same⟩

theorem not_diverged (agree : reader.diverged = false) :
    reader.forceReseek = false ∧ reader.prevMs = reader.cursorMs := by
  unfold diverged at agree
  rw [Bool.or_eq_false_iff, bne_eq_false_iff_eq] at agree
  exact agree

/-- Where the handle is not moved it already stands at the frame last delivered. -/
theorem resync_poised (reader : Reader H) {pair : CursorPair H} (holds : reader.pair = some pair)
    (held : pair.sequential = some handle) (sound : pair.Sound faithful state)
    (stands : reader.forceReseek = false → pair.Stands faithful reader.cursorMs state) :
    ∃ (ready : Reader H) (after : σ), reader.resync decoder handle state = (true, ready, after) ∧
      ready.Poised faithful handle after ∧ ready.diverged = false ∧
      ready.done = reader.done ∧
      ∀ ms, reader.prevMs = some ms →
        faithful.position handle after = countUpTo faithful.times ms := by
  have member := CursorPair.held_mem .sequential held
  cases moves : reader.diverged with
  | true =>
      obtain ⟨sought, position⟩ :=
        faithful.seek handle reader.prevMs state (sound.live handle member)
      have kept := sound.perform member (.seek reader.prevMs) (by simp)
      rcases reply : decoder.perform handle (.seek reader.prevMs) state with ⟨accepted, after⟩
      rw [reply] at sought position kept
      subst sought
      refine ⟨{ reader with cursorMs := reader.prevMs, forceReseek := false }, after, ?_,
        ⟨pair, holds, kept, held⟩, by simp [diverged], rfl, ?_⟩
      · simp only [resync, moves, reply, if_true]
      · intro ms last
        rw [position, last]
        rfl
  | false =>
      obtain ⟨unforced, agree⟩ := not_diverged moves
      refine ⟨reader, state, ?_, ⟨pair, holds, sound, held⟩, moves, rfl, ?_⟩
      · simp only [resync, moves, Bool.false_eq_true, if_false]
      · intro ms last
        obtain ⟨stepping, same, position⟩ := stands unforced ms (agree.symm.trans last)
        rw [held] at same
        cases same
        exact position

/-- Every step is made by a handle that stands at the frame last delivered. -/
theorem step_starts (tuned : reader.Tuned faithful state) :
    ∃ (handle : H) (ready : Reader H) (before : σ),
      (∀ forward, reader.step decoder forward state =
        let (frame, after) :=
          if forward then decoder.perform handle .nextFrame before
          else decoder.perform handle .prevFrame before
        (frame, ready.stepped forward frame, after)) ∧
      ready.Poised faithful handle before ∧ ready.diverged = false ∧
      ready.done = reader.done ∧
      ∀ ms, reader.prevMs = some ms →
        faithful.position handle before = countUpTo faithful.times ms := by
  obtain ⟨pair, holds, sound, stands⟩ := tuned
  obtain ⟨handle, taken, between, took, held, kept, follows⟩ := pair.take_mode_sound .sequential sound
  have takes : reader.take decoder .sequential state =
      (some handle, { reader with pair := some taken }, between) := take_eq holds took
  obtain ⟨ready, before, resyncs, poised, agrees, done, position⟩ :=
    resync_poised { reader with pair := some taken } rfl held kept
      fun unforced => follows _ (stands unforced)
  refine ⟨handle, ready, before, ?_, poised, agrees, done, position⟩
  intro forward
  simp only [step, takes, resyncs]

/-- A step forward delivers the frame after the one last delivered, whatever came before. -/
theorem step_forward (tuned : reader.Tuned faithful state) :
    ∃ (frame : Option Frame) (ready : Reader H) (after : σ),
      reader.step decoder true state = (frame, ready.stepped true frame, after) ∧
        (ready.stepped true frame).Tuned faithful after ∧ ready.done = reader.done ∧
        ∀ ms, reader.prevMs = some ms →
          frame.map Frame.ms = faithful.times[countUpTo faithful.times ms]? := by
  obtain ⟨handle, ready, before, steps, poised, -, done, position⟩ := step_starts tuned
  refine ⟨(decoder.perform handle .nextFrame before).1, ready,
    (decoder.perform handle .nextFrame before).2, steps true, ?_, done, ?_⟩
  · apply poised.stepped true _ .nextFrame (by simp)
    intro delivered reply
    exact faithful.next_stands poised.live reply
  · intro ms last
    rw [(faithful.next_frame handle before poised.live).1, position ms last]

theorem step_backward (tuned : reader.Tuned faithful state) :
    ∃ (frame : Option Frame) (ready : Reader H) (after : σ),
      reader.step decoder false state = (frame, ready.stepped false frame, after) ∧
        (ready.stepped false frame).Tuned faithful after := by
  obtain ⟨handle, ready, before, steps, poised, -, -, -⟩ := step_starts tuned
  refine ⟨(decoder.perform handle .prevFrame before).1, ready,
    (decoder.perform handle .prevFrame before).2, steps false, ?_⟩
  apply poised.stepped false _ .prevFrame (by simp)
  intro delivered reply
  exact faithful.prev_stands poised.live reply

/-- A lookup delivers the last frame at or before the time, or else the first, and moves another
handle than the one that steps. -/
theorem frame_at_tuned (tuned : reader.Tuned faithful state) (ms : Int64) :
    ∃ frame taken after,
      reader.frameAt decoder ms state = (frame, { reader with pair := some taken }, after) ∧
        Tuned faithful { reader with pair := some taken } after ∧
        frame.map Frame.ms = faithful.times[countUpTo faithful.times ms - 1]? := by
  obtain ⟨pair, holds, sound, stands⟩ := tuned
  obtain ⟨handle, taken, between, took, held, kept, follows⟩ := pair.take_mode_sound .random sound
  have takes : reader.take decoder .random state =
      (some handle, { reader with pair := some taken }, between) := take_eq holds took
  have member := CursorPair.held_mem .random held
  refine ⟨(decoder.perform handle (.frameAt ms) between).1, taken,
    (decoder.perform handle (.frameAt ms) between).2, ?_, ⟨taken, rfl, ?_, ?_⟩, ?_⟩
  · simp only [frameAt, ask, takes, Option.join_some]
  · exact kept.perform member (.frameAt ms) (by simp)
  · intro unforced
    have stands := follows _ (stands unforced)
    exact kept.perform_stands stands (.frameAt ms) (.inr (kept.random_ne_sequential held))
  · exact faithful.frame_at handle ms between (kept.live handle member)

theorem seek_lands (tuned : reader.Tuned faithful state) (ms : Int64) :
    let (frame, after, _) := reader.seek decoder ms state
    frame.map Frame.ms = faithful.times[countUpTo faithful.times ms - 1]? ∧
      ∀ found, frame = some found → after.prevMs = some found.ms ∧ after.done = false := by
  obtain ⟨frame, taken, after, found, -, shown⟩ := frame_at_tuned tuned ms
  cases frame with
  | some frame =>
      have jumped : reader.seek decoder ms state =
          (some frame, { reader with pair := some taken, prevMs := some frame.ms, done := false },
            after) := by
        simp only [seek, found]
      rw [jumped]
      refine ⟨shown, ?_⟩
      intro delivered same
      cases same
      exact ⟨rfl, rfl⟩
  | none =>
      have missed : reader.seek decoder ms state =
          (none, { reader with pair := some taken }, after) := by
        simp only [seek, found]
      rw [missed]
      exact ⟨shown, fun _ impossible => by cases impossible⟩

theorem settle_tuned (tuned : reader.Tuned faithful state) (call : Call)
    (still : call.still = true) :
    ∃ pair, reader.pair = some pair ∧
      ∀ spec : OpenSpec, spec.path = pair.spec.path → spec.startMs = pair.spec.startMs →
        Tuned faithful { reader with pair := some { pair with spec } }
          (pair.tellAll decoder call state) := by
  obtain ⟨pair, holds, sound, stands⟩ := tuned
  refine ⟨pair, holds, ?_⟩
  intro spec same_path same_start
  have kept := pair.tell_all_keeps
    (fun state => pair.Sound faithful state ∧
      (reader.forceReseek = false → pair.Stands faithful reader.cursorMs state))
    call ⟨sound, stands⟩ (by
      intro handle member state ⟨sound, stands⟩
      refine ⟨sound.perform member call (CursorPair.still_open still), ?_⟩
      intro unforced
      exact sound.perform_stands (stands unforced) call (.inl still))
  obtain ⟨sound, stands⟩ := kept
  refine ⟨_, rfl, ⟨?_, ?_, sound.live, sound.distinct⟩, stands⟩
  · exact same_path.trans sound.path_eq
  · exact same_start.trans sound.start_eq

theorem perform_tuned (operation : Operation) (tuned : reader.Tuned faithful state) :
    (reader.perform decoder operation state).1.Tuned faithful
      (reader.perform decoder operation state).2 := by
  cases operation with
  | nextFrame =>
      simp only [perform, nextFrame]
      cases finished : reader.done with
      | true =>
          rw [if_pos rfl]
          exact tuned
      | false =>
          obtain ⟨frame, ready, after, steps, kept, -⟩ := step_forward tuned
          rw [if_neg Bool.false_ne_true, steps]
          exact kept
  | prevFrame =>
      obtain ⟨frame, ready, after, steps, kept⟩ := step_backward tuned
      simp only [perform, prevFrame, steps]
      split
      · exact kept
      · exact kept
  | seek ms =>
      obtain ⟨frame, taken, after, found, kept, -⟩ := frame_at_tuned tuned ms
      simp only [perform, seek, found]
      cases frame with
      | some frame => exact kept
      | none => exact kept
  | frameAt ms =>
      obtain ⟨frame, taken, after, found, kept, -⟩ := frame_at_tuned tuned ms
      simp only [perform, found]
      exact kept
  | setPrevMs ms =>
      obtain ⟨pair, holds, sound, -⟩ := tuned
      exact ⟨pair, holds, sound, fun unforced => by cases unforced⟩
  | markDone => exact tuned
  | duration =>
      simp only [perform, duration]
      cases reader.knownDuration with
      | some known => exact tuned
      | none =>
          obtain ⟨reply, taken, after, asked, kept⟩ :=
            ask_tuned .any .duration tuned rfl
          simp only [asked]
          exact kept
  | frameOffsets =>
      simp only [perform, frameOffsets]
      cases reader.knownOffsets with
      | some known => exact tuned
      | none =>
          obtain ⟨reply, taken, after, asked, kept⟩ :=
            ask_tuned .random .frameOffsets tuned rfl
          simp only [asked]
          exact kept
  | nextFrameOffset =>
      obtain ⟨reply, taken, after, asked, kept⟩ :=
        ask_tuned .sequential .nextFrameOffset tuned rfl
      simp only [perform, nextFrameOffset, asked]
      exact kept
  | hasAudio =>
      obtain ⟨reply, taken, after, asked, kept⟩ := ask_tuned .any .hasAudio tuned rfl
      simp only [perform, hasAudio, asked]
      exact kept
  | inputSize =>
      obtain ⟨reply, taken, after, asked, kept⟩ := ask_tuned .any .inputSize tuned rfl
      simp only [perform, inputSize, asked]
      exact kept
  | setMute on =>
      obtain ⟨pair, holds, kept⟩ := settle_tuned tuned (.setMute on) rfl
      simp only [perform, setMute, holds, CursorPair.setMute]
      exact kept _ rfl rfl
  | setOutputSize width height =>
      obtain ⟨pair, holds, kept⟩ := settle_tuned tuned (.setOutputSize width height) rfl
      simp only [perform, setOutputSize, holds, CursorPair.setOutputSize]
      exact kept _ rfl rfl

theorem perform_all_tuned (operations : List Operation) (tuned : reader.Tuned faithful state) :
    (performAll decoder operations reader state).1.Tuned faithful
      (performAll decoder operations reader state).2 := by
  induction operations generalizing reader state with
  | nil => exact tuned
  | cons operation rest ih =>
      unfold performAll
      exact ih (perform_tuned operation tuned)

theorem open_clip_tuned {spec : OpenSpec} (faithful : Faithful decoder spec.path spec.startMs)
    (reader : Reader H) (state : σ) :
    ∃ opened after, reader.openClip decoder spec state = (true, opened, after) ∧
      opened.Tuned faithful after := by
  rcases closes : reader.close decoder state with ⟨closed, between⟩
  obtain ⟨handle, opens, -, live, -⟩ := faithful.opens spec between rfl rfl
  rcases reply : decoder.openClip spec between with ⟨outcome, after⟩
  rw [reply] at opens live
  subst opens
  have sound : CursorPair.Sound faithful ⟨spec, some handle, none, none⟩ after := by
    refine ⟨rfl, rfl, ?_, by simp [CursorPair.handles]⟩
    intro other member
    have same : other = handle := by simpa [CursorPair.handles] using member
    exact same ▸ live
  have forgotten : closed.cursorMs = none := by
    have same := congrArg (fun result => result.1.cursorMs) closes
    exact same.symm
  refine ⟨{ closed with
      muted := spec.options.audioMute
      pair := some ⟨spec, some handle, none, none⟩
      path := spec.path
      requestedSize := (spec.width, spec.height)
      firstMs := spec.startMs }, after, ?_, ⟨spec, some handle, none, none⟩, rfl, sound, ?_⟩
  · simp only [openClip, closes, CursorPair.openClip, reply]
  · intro _ ms noted
    rw [forgotten] at noted
    cases noted

theorem next_frame_tuned (tuned : reader.Tuned faithful state) (undone : reader.done = false)
    {ms : Int64} (last : reader.prevMs = some ms) :
    let (frame, after, _) := reader.nextFrame decoder state
    (∃ delivered, frame = some delivered ∧ FirstAfter faithful.times ms delivered.ms ∧
        after.prevMs = some delivered.ms ∧ after.done = false) ∨
      ((∀ time ∈ faithful.times, ¬ms < time) ∧ frame = none ∧
        after.prevMs = none ∧ after.done = true) := by
  obtain ⟨frame, ready, after, steps, -, done, follows⟩ := step_forward tuned
  have shown := follows ms last
  have replies : reader.nextFrame decoder state = (frame, ready.stepped true frame, after) := by
    unfold nextFrame
    rw [undone, if_neg Bool.false_ne_true, steps]
  rw [replies]
  cases frame with
  | some delivered =>
      left
      refine ⟨delivered, rfl, frame_after_count faithful.increasing shown.symm, rfl, ?_⟩
      simp [stepped, done, undone]
  | none =>
      right
      refine ⟨no_frame_after_count shown.symm, rfl, rfl, ?_⟩
      simp [stepped]

/-- However a clip was played, the next frame is the first one after the frame last delivered. -/
theorem next_frame_follows {spec : OpenSpec} (faithful : Faithful decoder spec.path spec.startMs)
    (reader : Reader H) (state : σ) (operations : List Operation) (ms : Int64) :
    let opened := (reader.openClip decoder spec state).2
    let played := performAll decoder operations opened.1 opened.2
    played.1.done = false → played.1.prevMs = some ms →
      let (frame, after, _) := played.1.nextFrame decoder played.2
      (∃ delivered, frame = some delivered ∧ FirstAfter faithful.times ms delivered.ms ∧
          after.prevMs = some delivered.ms ∧ after.done = false) ∨
        ((∀ time ∈ faithful.times, ¬ms < time) ∧ frame = none ∧
          after.prevMs = none ∧ after.done = true) := by
  intro opened played undone last
  obtain ⟨start, between, opens, tuned⟩ := open_clip_tuned faithful reader state
  have begun : opened = (start, between) := congrArg Prod.snd opens
  have tuned : played.1.Tuned faithful played.2 := by
    apply perform_all_tuned
    rw [begun]
    exact tuned
  exact next_frame_tuned tuned undone last

/-- After a jump into the middle of a clip the frame that follows the one found there is next. -/
theorem next_frame_follows_jump :
    let spec := OpenSpec.probe "clip.mp4"
    let tape := Tape.decoder [0, 100, 200]
    let opened := (Reader.openClip tape spec {} []).2
    let played := performAll tape [.nextFrame, .seek 150] opened.1 opened.2
    played.1.done = false ∧ played.1.prevMs = some 100 ∧
      (played.1.nextFrame tape played.2).1.map Frame.ms = some 200 := by
  intro spec tape opened played
  have increasing : [0, 100, 200].Pairwise (· < · : Int64 → Int64 → Prop) := by decide
  have undone : played.1.done = false := by decide
  have last : played.1.prevMs = some 100 := by decide
  refine ⟨undone, last, ?_⟩
  have follows := next_frame_follows (Tape.faithful increasing spec.path spec.startMs) {} []
    [.nextFrame, .seek 150] 100 undone last
  rcases follows with ⟨delivered, reply, first, -⟩ | ⟨none_later, -⟩
  · have listed : delivered.ms ∈ [0, 100, 200] := first.listed
    have later : 100 < delivered.ms := first.later
    have shown : delivered.ms = 200 := by
      simp only [List.mem_cons, List.not_mem_nil, or_false] at listed
      rcases listed with early | early | late
      · rw [early] at later
        cases later
      · rw [early] at later
        cases later
      · exact late
    have reply : (played.1.nextFrame tape played.2).1 = some delivered := reply
    rw [reply, Option.map_some, shown]
  · have listed : (200 : Int64) ∈ [0, 100, 200] := by decide
    exact absurd (by decide) (none_later 200 listed)

end Reader

end Footage.Playback
