import Footage.Proofs.Session.Projection
import Footage.Proofs.Session.Serving
import Footage.Proofs.Storage.Keeping

/-!
# How a session treats its streams

An engine can be watched: every stream that it hands out and every call on a stream is noted, in
order. Such a log is a row of uses, one for each stream that was handed out, and nothing else. A
session holds at most the last of these streams, and exactly while it is running. Every other
stream was flushed, asked for its size and closed, and never called again.
-/

namespace Footage

open Footage.Capture Footage.Clip Footage.Storage

set_option autoImplicit false

variable {σ H κ : Type}

inductive StreamEvent (H : Type) where
  | handedOut (stream : H)
  | called (stream : H) (call : StreamCall)

def Capture.Engine.watched (engine : Engine σ H) : Engine (σ × List (StreamEvent H)) H where
  openStream := fun request (state, log) =>
    match engine.openStream request state with
    | (.ok stream, state) => (.ok stream, state, log ++ [.handedOut stream])
    | (.error cause, state) => (.error cause, state, log)
  setHwDevice := fun device (state, log) => (engine.setHwDevice device state, log)
  perform := fun stream call (state, log) =>
    let (reply, state) := engine.perform stream call state
    (reply, state, log ++ [.called stream call])

/-- A stream that was handed out, with all calls on it up to the next that is handed out. -/
structure Use (H : Type) where
  stream : H
  calls : List StreamCall

namespace Use

def events (use : Use H) : List (StreamEvent H) :=
  .handedOut use.stream :: use.calls.map (.called use.stream)

/-- The stream was closed once, right after a last flush, and not called afterwards. -/
def Released (use : Use H) : Prop :=
  ∃ early, .close ∉ early ∧ use.calls = early ++ [.flush, .processingSize, .close]

def Held (use : Use H) : Prop := .close ∉ use.calls

def call (call : StreamCall) (use : Use H) : Use H := { use with calls := use.calls ++ [call] }

theorem events_call (use : Use H) (call : StreamCall) :
    (use.call call).events = use.events ++ [.called use.stream call] := by
  simp [events, Use.call]

theorem Held.call {use : Use H} (held : use.Held) {call : StreamCall} (stays : call ≠ .close) :
    (use.call call).Held := by
  simp only [Held, Use.call, List.mem_append, List.mem_singleton, not_or]
  exact ⟨held, stays.symm⟩

def close (use : Use H) : Use H :=
  { use with calls := use.calls ++ [.flush, .processingSize, .close] }

theorem Held.close {use : Use H} (held : use.Held) : use.close.Released :=
  ⟨use.calls, held, rfl⟩

end Use

namespace Services

def watched (services : Services σ H κ) : Services (σ × List (StreamEvent H)) H κ where
  engine := services.engine.watched
  files := services.files.within Prod.fst setFirst
  storage := services.storage.beside _

theorem watched_projects (services : Services σ H κ) :
    Services.Projects Prod.fst services.watched services where
  open_stream := fun request state => by
    simp only [watched, Engine.watched]
    rcases services.engine.openStream request state.1 with ⟨reply, after⟩
    cases reply <;> rfl
  set_hw_device := fun _ _ => rfl
  perform := fun _ _ _ => rfl
  storage := { run := fun _ _ => rfl, pace := fun _ => rfl }

theorem watched_storage_keeps (services : Services σ H κ) (log : List (StreamEvent H)) :
    services.watched.storage.Keeps fun state => state.2 = log where
  run := fun _ _ same => same
  pace := fun _ same => same

theorem watched_open_stream (services : Services σ H κ) (request : OpenRequest)
    (state : σ × List (StreamEvent H)) :
    (services.watched.engine.openStream request state).2.2 =
      state.2 ++ ((services.watched.engine.openStream request state).1.toOption.map
        StreamEvent.handedOut).toList := by
  simp only [watched, Engine.watched]
  rcases services.engine.openStream request state.1 with ⟨reply, after⟩
  cases reply with
  | error cause => exact (List.append_nil _).symm
  | ok stream => rfl

end Services

/-- The log is a row of uses. Every stream of the past is released, and the session holds the
current one, if there is one, exactly while it is running. -/
structure Conduct (past : List (Use H)) (current : Option (Use H)) (session : Session H κ)
    (log : List (StreamEvent H)) : Prop where
  log_eq : log = (past ++ current.toList).flatMap Use.events
  released : ∀ use ∈ past, use.Released
  held : ∀ use ∈ current, use.Held
  stream : session.stream = current.map Use.stream
  phase : session.phase = if current.isSome then .running else .closed

namespace Conduct

variable (services : Services σ H κ) {past : List (Use H)} {current : Option (Use H)}
  {use : Use H} {session after : Session H κ} {state : σ × List (StreamEvent H)}
  {log later : List (StreamEvent H)}

theorem same (conduct : Conduct past current session log) (stream : after.stream = session.stream)
    (phase : after.phase = session.phase) (silent : later = log) :
    Conduct past current after later where
  log_eq := silent.trans conduct.log_eq
  released := conduct.released
  held := conduct.held
  stream := stream.trans conduct.stream
  phase := phase.trans conduct.phase

theorem closed_iff (conduct : Conduct past current session log) :
    session.phase = .closed ↔ current = none := by
  rw [conduct.phase]
  cases current <;> simp

theorem log_called (conduct : Conduct past (some use) session log) (call : StreamCall) :
    log ++ [.called use.stream call] =
      (past ++ (some (use.call call)).toList).flatMap Use.events := by
  rw [conduct.log_eq]
  simp [Use.events_call]

theorem tell {stream : H} (opened : session.stream = some stream) (call : StreamCall)
    (stays : call ≠ .close) (conduct : Conduct past (some use) session state.2) :
    Conduct past (some (use.call call)) session
      (services.watched.engine.perform stream call state).2.2 where
  log_eq := by
    have same : use.stream = stream := Option.some.inj (conduct.stream.symm.trans opened)
    rw [← same]
    exact conduct.log_called call
  released := conduct.released
  held := by
    rintro _ ⟨⟩
    exact (conduct.held use rfl).call stays
  stream := conduct.stream
  phase := conduct.phase

theorem handed_out (stream : H) (recording : Bool) (size : Option Size)
    (conduct : Conduct past none session log) :
    Conduct past (some ⟨stream, [.processingSize]⟩)
      { session with phase := .running, stream := some stream, recording, lastSize := size }
      (log ++ [.handedOut stream, .called stream .processingSize]) where
  log_eq := by
    rw [conduct.log_eq]
    simp [Use.events]
  released := conduct.released
  held := by
    rintro _ ⟨⟩
    simp [Use.Held]
  stream := rfl
  phase := rfl

end Conduct

namespace Session

variable (services : Services σ H κ) {past : List (Use H)} {current : Option (Use H)}
  {use : Use H} {session : Session H κ} {state : σ × List (StreamEvent H)}

theorem finalize_any_kept (session : Session H κ) (segment : Option Segment)
    (state : σ × List (StreamEvent H)) :
    let handed := session.finalizeAny services.watched segment state
    handed.1.stream = session.stream ∧ handed.1.phase = session.phase ∧ handed.2.2 = state.2 := by
  cases segment with
  | none => exact ⟨rfl, rfl, rfl⟩
  | some segment =>
      exact ⟨rfl, rfl,
        Mover.submit_keeps (services.watched_storage_keeps state.2) session.mover rfl _⟩

theorem follow_kept (captured : CapturedFrame) (session : Session H κ)
    (state : σ × List (StreamEvent H)) :
    let followed := session.follow services.watched captured state
    followed.1.stream = session.stream ∧ followed.1.phase = session.phase ∧
      followed.2.2 = state.2 := by
  simp only [follow]
  split
  · exact finalize_any_kept services { session with tracker := _ } _ state
  · exact ⟨rfl, rfl, rfl⟩

theorem store_rest_kept (session : Session H κ) (state : σ × List (StreamEvent H)) :
    let stored := session.storeRest services.watched state
    stored.1.stream = session.stream ∧ stored.2.2 = state.2 := by
  obtain ⟨stream, -, handed⟩ := finalize_any_kept services
    { session with tracker := session.tracker.finish.2 } session.tracker.finish.1 state
  refine ⟨stream, ?_⟩
  refine Eq.trans ?_ handed
  exact Mover.wait_keeps (services.watched_storage_keeps _) _ rfl

/-- Closing an open session makes the last three calls on its stream. -/
theorem close_with_conduct (killable : σ × List (StreamEvent H) → σ × List (StreamEvent H))
    (silent : ∀ state, (killable state).2 = state.2)
    (conduct : Conduct past current session state.2) :
    let closed := session.closeWith services.watched killable state
    Conduct (past ++ (current.map Use.close).toList) none closed.1 closed.2.2 := by
  cases current with
  | none =>
      rw [close_with_closed _ _ _ conduct.phase]
      exact (List.append_nil past).symm ▸ conduct
  | some use =>
      have opened : session.stream = some use.stream := conduct.stream
      have running : session.phase ≠ .closed := by
        intro closed
        cases conduct.closed_iff.mp closed
      rw [close_with_open _ _ _ running]
      obtain ⟨stream, stored⟩ := store_rest_kept services
        (session.releaseStream services.watched state).1
        (session.releaseStream services.watched state).2
      have released : (session.releaseStream services.watched state).2.2 =
          state.2 ++ [.called use.stream .flush, .called use.stream .processingSize,
            .called use.stream .close] := by
        simp [releaseStream, opened, Services.watched, Engine.watched, Engine.tell]
      exact {
        log_eq := by
          refine (silent _).trans (stored.trans ?_)
          rw [released, conduct.log_eq]
          simp [Use.events, Use.close]
        released := by
          simp only [Option.map_some, Option.toList_some, List.forall_mem_append,
            List.forall_mem_singleton]
          exact ⟨conduct.released, (conduct.held use rfl).close⟩
        held := by
          intro _ member
          cases member
        stream := by
          refine stream.trans ?_
          simp [releaseStream, opened]
        phase := rfl }

/-- Opening releases the stream before, and says whether there is a new one. -/
theorem open_stream_conduct (uri : String) (options : StreamOptions)
    (conduct : Conduct past current session state.2) :
    let reopened := session.openStream services.watched uri options state
    ∃ now, Conduct (past ++ (current.map Use.close).toList) now reopened.2.1 reopened.2.2.2 ∧
      now.isSome = reopened.1 := by
  have closed := close_with_conduct services id (fun _ => rfl) conduct
  simp only [openStream, close]
  rcases closes : session.closeWith services.watched id state with ⟨silent, middle⟩
  rw [closes] at closed
  have selected : (silent.selectDevice services.watched middle).2 = middle.2 := by
    simp only [selectDevice]
    split <;> rfl
  have answered := services.watched_open_stream (silent.openRequest uri options)
    (silent.selectDevice services.watched middle)
  rw [selected] at answered
  rcases told : services.watched.engine.openStream (silent.openRequest uri options)
    (silent.selectDevice services.watched middle) with ⟨reply, after⟩
  rw [told] at answered
  cases reply with
  | error cause =>
      refine ⟨none, ?_, rfl⟩
      exact closed.same rfl rfl (answered.trans (List.append_nil _))
  | ok stream =>
      refine ⟨some ⟨stream, [.processingSize]⟩, ?_, rfl⟩
      have begun := closed.handed_out stream options.record
        (services.watched.engine.perform stream .processingSize after).1
      refine begun.same rfl rfl ?_
      exact (congrArg (· ++ _) answered).trans (List.append_assoc _ _ _)

theorem poll_frame_conduct (wantLarge : Bool)
    (conduct : Conduct past current session state.2) :
    let polled := session.pollFrame services.watched wantLarge state
    ∃ past now, Conduct past now polled.2.1 polled.2.2.2 := by
  cases current with
  | none =>
      have phase : session.phase = .closed := conduct.phase
      refine ⟨past, none, ?_⟩
      simpa [pollFrame, runningStream, isRunning, phase] using conduct
  | some use =>
      have opened : session.stream = some use.stream := conduct.stream
      have polls : session.runningStream = some use.stream := by
        have phase : session.phase = .running := conduct.phase
        simp [runningStream, isRunning, phase, opened]
      have polled := conduct.tell services opened (.pollFrame wantLarge) (by simp)
      rcases found : services.watched.engine.perform use.stream (.pollFrame wantLarge) state with
        ⟨captured, first⟩
      rw [found] at polled
      have asked := polled.tell services opened .isRunning (by decide)
      rcases told : services.watched.engine.perform use.stream .isRunning first with
        ⟨runs, second⟩
      rw [told] at asked
      have sized := asked.tell services opened .processingSize (by decide)
      rcases known : services.watched.engine.perform use.stream .processingSize second with
        ⟨size, third⟩
      rw [known] at sized
      have silent := Mover.try_reap_keeps (services.watched_storage_keeps third.2)
        session.mover rfl
      rcases reaped : session.mover.tryReap services.watched.storage third with
        ⟨outcome, mover, after⟩
      rw [reaped] at silent
      simp only [pollFrame, polls, found, told, known, reaped]
      cases runs with
      | false =>
          have stopped : Conduct past _ { session with mover } after.2 :=
            sized.same rfl rfl silent
          exact ⟨_, _, close_with_conduct services id (fun _ => rfl) stopped⟩
      | true =>
          cases captured with
          | none => exact ⟨past, _, sized.same rfl rfl silent⟩
          | some captured =>
              obtain ⟨stream, running, followed⟩ := follow_kept services captured
                { session with mover, lastSize := size.or session.lastSize } after
              exact ⟨past, _, sized.same stream running (followed.trans silent)⟩

end Session

end Footage
