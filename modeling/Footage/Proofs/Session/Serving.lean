import Footage.Proofs.Session.Hearing

/-!
# The parts of a session at work

For each part of a session: what it changes in the session, which jobs it gives to the mover, and
what is heard from the engine meanwhile. Closing is split where its action runs, so that what
holds there can be said whatever the action does.
-/

namespace Footage.Session

open Footage.Capture Footage.Clip Footage.Storage Footage.Services

set_option autoImplicit false

variable {σ H κ : Type}

/-- Everything that closing does before its action runs. -/
def conclude (services : Services σ H κ) (session : Session H κ) (state : σ) :
    Session H κ × σ :=
  let (session, state) := session.releaseStream services state
  session.storeRest services state

theorem close_with_closed (services : Services σ H κ) (killable : σ → σ) (state : σ)
    {session : Session H κ} (closed : session.phase = .closed) :
    session.closeWith services killable state = (session, state) := by
  simp [closeWith, closed]

theorem close_with_open (services : Services σ H κ) (killable : σ → σ) (state : σ)
    {session : Session H κ} (unclosed : session.phase ≠ .closed) :
    session.closeWith services killable state =
      ((session.conclude services state).1.reset,
        killable (session.conclude services state).2) := by
  simp [closeWith, conclude, unclosed]

def ended (size : Option Size) (session : Session H κ) : Session H κ :=
  { session with phase := .closing, stream := none, lastSize := size.or session.lastSize }

def closingWords (size : Option Size) : List Heard :=
  [.replied .flush (), .replied .processingSize size, .replied .close ()]

section Serving

variable {services : Services σ H κ} {recorder : Recorder services.storage}
  {submitted : List (MoveJob κ)} {heard : List Heard} {session : Session H κ}
  {state : σ × List Heard}

theorem finalize_any_serves (session : Session H κ) (segment : Option Segment)
    (serves : Serves recorder submitted heard session.mover state) :
    ∃ mover after,
      session.finalizeAny services.overheard segment state = ({ session with mover }, after) ∧
        Serves recorder (submitted ++ (segment.map (jobFor · session)).toList) heard mover
          after := by
  cases segment with
  | none =>
      refine ⟨session.mover, state, rfl, ?_⟩
      rw [Option.map_none, Option.toList_none, List.append_nil]
      exact serves
  | some segment => exact ⟨_, _, rfl, serves.submit (session.jobFor segment)⟩

theorem release_stream_serves (quiet : services.Quiet recorder) {stream : H}
    (opened : session.stream = some stream)
    (serves : Serves recorder submitted heard session.mover state) :
    ∃ size after,
      session.releaseStream services.overheard state = (session.ended size, after) ∧
        Serves recorder submitted (heard ++ closingWords size) session.mover after := by
  have flushed := serves.perform quiet stream .flush
  have asked := flushed.perform quiet stream .processingSize
  have closed := asked.perform quiet stream .close
  rw [List.append_assoc, List.append_assoc] at closed
  refine ⟨_, _, ?_, closed⟩
  simp only [releaseStream, opened]
  rfl

/-- Storing the rest submits the job of the segment in progress and leaves nothing in flight. -/
theorem store_rest_serves (session : Session H κ)
    (serves : Serves recorder submitted heard session.mover state) :
    ∃ mover after,
      session.storeRest services.overheard state =
          ({ session with tracker := { session.tracker with current := none }, mover },
            after) ∧
        mover.inFlight = false ∧
        Serves recorder
          (submitted ++ (session.tracker.current.map (jobFor · session)).toList) heard mover
          after := by
  obtain ⟨mover, after, handed, served⟩ := finalize_any_serves
    { session with tracker := { session.tracker with current := none } }
    session.tracker.current serves
  refine ⟨_, _, ?_, served.drain.2, served.drain.1⟩
  simp only [storeRest, Tracker.finish, handed]

/-- Concluding a session with a stream: the stream is closed, the job of the segment in progress
is submitted, and nothing is in flight. -/
theorem conclude_serves (quiet : services.Quiet recorder) {stream : H}
    (opened : session.stream = some stream)
    (serves : Serves recorder submitted heard session.mover state) :
    ∃ size mover after,
      session.conclude services.overheard state =
          ({ session.ended size with
              tracker := { session.tracker with current := none }, mover },
            after) ∧
        mover.inFlight = false ∧
        Serves recorder
          (submitted ++ (session.tracker.current.map (jobFor · (session.ended size))).toList)
          (heard ++ closingWords size) mover after := by
  obtain ⟨size, middle, released, told⟩ := release_stream_serves quiet opened serves
  obtain ⟨mover, after, stored, free, served⟩ :=
    store_rest_serves (session.ended size) told
  refine ⟨size, mover, after, ?_, free, served⟩
  simp only [conclude, released]
  exact stored

/-- A poll of a running session hears of a frame, whether the stream still runs, and its size. It
follows the frame, or closes the session when the stream has stopped. -/
theorem poll_frame_serves (quiet : services.Quiet recorder) (wantLarge : Bool) {stream : H}
    (running : session.phase = .running) (opened : session.stream = some stream)
    (serves : Serves recorder submitted heard session.mover state) :
    ∃ captured size mover after,
      (Serves recorder submitted
          (heard ++ [.replied (.pollFrame wantLarge) captured, .replied .isRunning true,
            .replied .processingSize size]) mover after ∧
        session.pollFrame services.overheard wantLarge state =
          match captured with
          | none => (none, { session with mover, lastSize := size.or session.lastSize }, after)
          | some captured =>
              (some captured.frame,
                { session with mover, lastSize := size.or session.lastSize }.follow
                  services.overheard captured after)) ∨
      (Serves recorder submitted
          (heard ++ [.replied (.pollFrame wantLarge) captured, .replied .isRunning false,
            .replied .processingSize size]) mover after ∧
        session.pollFrame services.overheard wantLarge state =
          (none, { session with mover }.close services.overheard after)) := by
  have polled := serves.perform quiet stream (.pollFrame wantLarge)
  rcases found : services.overheard.engine.perform stream (.pollFrame wantLarge) state with
    ⟨captured, first⟩
  rw [found] at polled
  have asked := polled.perform quiet stream .isRunning
  rcases told : services.overheard.engine.perform stream .isRunning first with ⟨runs, second⟩
  rw [told] at asked
  have sized := asked.perform quiet stream .processingSize
  rcases known : services.overheard.engine.perform stream .processingSize second with
    ⟨size, third⟩
  rw [known] at sized
  have reaped := sized.try_reap
  rcases collected : session.mover.tryReap services.overheard.storage third with
    ⟨outcome, mover, after⟩
  rw [collected, List.append_assoc, List.append_assoc] at reaped
  refine ⟨captured, size, mover, after, ?_⟩
  simp only [pollFrame, runningStream, isRunning, running, beq_self_eq_true, if_true, opened,
    found, told, known, collected]
  cases runs with
  | true =>
      refine .inl ⟨reaped, ?_⟩
      cases captured <;> rfl
  | false => exact .inr ⟨reaped, rfl⟩

theorem select_device_serves (quiet : services.Quiet recorder)
    (serves : Serves recorder submitted heard session.mover state) :
    Serves recorder submitted heard session.mover
      (session.selectDevice services.overheard state) := by
  simp only [selectDevice]
  split
  · exact serves
  · exact serves.set_hw_device quiet _

/-- Opening closes the session first, and is heard to succeed or to fail. -/
theorem open_stream_serves (quiet : services.Quiet recorder) (uri : String)
    (options : StreamOptions) {closed : Session H κ} {middle : σ × List Heard}
    (closes : session.close services.overheard state = (closed, middle))
    (serves : Serves recorder submitted heard closed.mover middle) :
    (∃ after,
      Serves recorder submitted (heard ++ [.opened false]) closed.mover after ∧
        session.openStream services.overheard uri options state = (false, closed, after)) ∨
    ∃ stream size after,
      Serves recorder submitted (heard ++ [.opened true, .replied .processingSize size])
          closed.mover after ∧
        session.openStream services.overheard uri options state =
          (true,
            { closed with
              phase := .running, stream := some stream, recording := options.record,
              lastSize := size },
            after) := by
  have selected := select_device_serves quiet serves
  have answered := selected.open_stream quiet (closed.openRequest uri options)
  rcases told : services.overheard.engine.openStream (closed.openRequest uri options)
    (closed.selectDevice services.overheard middle) with ⟨reply, second⟩
  rw [told] at answered
  simp only [openStream, closes, told]
  cases reply with
  | error cause => exact .inl ⟨second, answered, rfl⟩
  | ok stream =>
      have sized := answered.perform quiet stream .processingSize
      rw [List.append_assoc] at sized
      exact .inr ⟨stream, _, _, sized, rfl⟩

end Serving

end Footage.Session
