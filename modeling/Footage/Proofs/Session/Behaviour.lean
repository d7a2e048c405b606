import Footage.Proofs.Session.Conduct
import Footage.Proofs.Session.Rotation

/-!
# Every stream is released

Whatever a session is asked, however its streams behave and whichever way they end, it treats them
as its conduct says: it is closed or running between two requests, and by the time that it is
closed, opened again or given up, the stream before is flushed, closed once and never called
again. A closed session calls nothing and has nothing to do.
-/

namespace Footage.Rotation

open Footage.Capture Footage.Clip Footage.Storage Footage.Services

set_option autoImplicit false

variable {σ H κ : Type}

variable (services : Services σ H κ) {past : List (Use H)} {current : Option (Use H)}
  {session : Session H κ} {state : σ × List (StreamEvent H)}

theorem asked_conduct {stream : H} (opened : session.stream = some stream) (call : StreamCall)
    (stays : call ≠ .close) (conduct : Conduct past current session state.2) :
    ∃ past now, Conduct past now session
      (services.watched.engine.perform stream call state).2.2 := by
  cases current with
  | none => exact nomatch conduct.stream.symm.trans opened
  | some use => exact ⟨past, _, conduct.tell services opened call stays⟩

theorem opened_of_running_stream {stream : H} (polls : session.runningStream = some stream) :
    session.stream = some stream := by
  simp only [Session.runningStream] at polls
  split at polls
  · exact polls
  · cases polls

theorem Request.perform_conduct (request : Request σ κ)
    (conduct : Conduct past current session state.2) :
    let asked := (request.within Prod.fst setFirst).perform services.watched session state
    ∃ past now, Conduct past now asked.2.1 asked.2.2.2 := by
  cases request with
  | openStream uri options =>
      obtain ⟨now, opened, -⟩ := Session.open_stream_conduct services uri options
        conduct
      exact ⟨_, now, opened⟩
  | poll wantLarge => exact Session.poll_frame_conduct services wantLarge conduct
  | flush neededMs =>
      simp only [within, perform, Session.flush]
      split
      case h_1 stream opened =>
          split
          · exact ⟨past, current, conduct⟩
          · exact asked_conduct services opened .flush (by decide) conduct
      case h_2 => exact ⟨past, current, conduct⟩
  | close => exact ⟨_, none, Session.close_with_conduct services id (fun _ => rfl) conduct⟩
  | closeWith killable =>
      exact ⟨_, none, Session.close_with_conduct services
        (fun state => setFirst (killable state.1) state) (fun _ => rfl) conduct⟩
  | register callback => exact ⟨past, current, conduct.same rfl rfl rfl⟩
  | processingSize =>
      simp only [within, perform, Session.processingSize]
      split
      case h_1 stream polls =>
          exact asked_conduct services (opened_of_running_stream polls) .processingSize (by decide)
            conduct
      case h_2 => exact ⟨past, current, conduct⟩
  | frameRates =>
      simp only [within, perform, Session.frameRates]
      split
      case h_1 stream opened => exact asked_conduct services opened .frameRates (by decide) conduct
      case h_2 => exact ⟨past, current, conduct⟩
  | initialFrameBufferSize =>
      simp only [within, perform, Session.initialFrameBufferSize]
      split
      case h_1 stream polls =>
          exact asked_conduct services (opened_of_running_stream polls) .initialFrameBufferSize
            (by decide) conduct
      case h_2 => exact ⟨past, current, conduct⟩
  | largeFrame =>
      simp only [within, perform, Session.largeFrame]
      split
      case h_1 stream opened => exact asked_conduct services opened .largeFrame (by decide) conduct
      case h_2 => exact ⟨past, current, conduct⟩
  | work =>
      exact ⟨past, current, conduct.same rfl rfl
        (Worker.step_keeps (services.watched_storage_keeps state.2) _ rfl)⟩

theorem perform_all_conduct (requests : List (Request σ κ))
    (begun : Session H κ × σ × List (StreamEvent H))
    (conduct : Conduct past current begun.1 begun.2.2) :
    let played := performAll services.watched begun
      (requests.map (Request.within Prod.fst setFirst))
    ∃ past now, Conduct past now played.1 played.2.2 := by
  induction requests generalizing past current begun with
  | nil => exact ⟨past, current, conduct⟩
  | cons request requests ih =>
      obtain ⟨past, now, asked⟩ := request.perform_conduct services conduct
      exact ih _ asked

variable {services}

theorem Life.Agrees.at_rest {recorder : Recorder services.storage} {station : Station}
    {life : Life σ H κ} (agrees : life.Agrees recorder station)
    (closed : life.session.phase = .closed) :
    life.session.tracker = .new station.location ∧
      ∃ worker : Worker (MoveJob κ) MoveOutcome, worker.AtRest ∧
        life.session.mover = ⟨false, none, worker⟩ := by
  obtain ⟨collected, accounts⟩ := agrees.kept.serves.accounts
  have standing := agrees.kept.standing
  generalize life.chronicle.current = during at standing
  cases standing with
  | closed _ tracker free => exact ⟨tracker, accounts.steady.free_of_not_in_flight free⟩
  | running _ _ running => exact absurd (closed.symm.trans running) (by decide)

structure Behaves (services : Services σ H κ) (location : String) (session : Session H κ)
    (state : σ × List (StreamEvent H)) : Prop where
  settled : session.phase = .closed ∨ session.phase = .running
  holds : session.stream.isSome = session.isRunning
  /-- A closed session has no segment in progress, and neither its mover nor the worker of its
  mover has anything to do. -/
  rests : session.phase = .closed → session.tracker = .new location ∧
    ∃ worker : Worker (MoveJob κ) MoveOutcome, worker.AtRest ∧
      session.mover = ⟨false, none, worker⟩
  conduct : ∃ past current, Conduct past current session state.2
  opens : ∀ uri options,
    let reopened := session.openStream services.watched uri options state
    reopened.1 = reopened.2.1.isRunning ∧
      ∃ past current, Conduct past current reopened.2.1 reopened.2.2.2
  closes : ∀ killable, (session.closeWith services.watched killable state).1.phase = .closed
  /-- A closed session calls nothing and submits nothing. -/
  silent : session.phase = .closed →
    (∀ wantLarge, session.pollFrame services.watched wantLarge state = (none, session, state)) ∧
    (∀ neededMs, session.flush services.watched neededMs state = state) ∧
    session.close services.watched state = (session, state) ∧
    ∀ killable, session.closeWith services.watched killable state = (session, state)
  /-- A session that is given up has released every stream. -/
  dropped : ∃ past : List (Use H), (∀ use ∈ past, use.Released) ∧
    (session.drop services.watched state).2 = past.flatMap Use.events

theorem drop_releases (conduct : Conduct past current session state.2) :
    ∃ past : List (Use H), (∀ use ∈ past, use.Released) ∧
      (session.drop services.watched state).2 = past.flatMap Use.events := by
  have closed := Session.close_with_conduct services id (fun _ => rfl) conduct
  refine ⟨_, closed.released, ?_⟩
  refine (Mover.shutdown_keeps (services.watched_storage_keeps _) _ rfl).trans ?_
  exact closed.log_eq.trans (congrArg _ (List.append_nil _))

theorem closed_silent (conduct : Conduct past current session state.2)
    (closed : session.phase = .closed) :
    (∀ wantLarge, session.pollFrame services.watched wantLarge state = (none, session, state)) ∧
    (∀ neededMs, session.flush services.watched neededMs state = state) ∧
    session.close services.watched state = (session, state) ∧
    ∀ killable, session.closeWith services.watched killable state = (session, state) := by
  have unopened : session.stream = none := by
    rw [conduct.stream, conduct.closed_iff.mp closed]
    rfl
  refine ⟨fun wantLarge => ?_, fun neededMs => ?_, ?_, fun killable => ?_⟩
  · simp [Session.pollFrame, Session.runningStream, Session.isRunning, closed]
  · simp [Session.flush, unopened]
  · exact Session.close_with_closed _ _ _ closed
  · exact Session.close_with_closed _ _ _ closed

theorem conduct_behaves {location : String} (conduct : Conduct past current session state.2)
    (rests : session.phase = .closed → session.tracker = .new location ∧
      ∃ worker : Worker (MoveJob κ) MoveOutcome, worker.AtRest ∧
        session.mover = ⟨false, none, worker⟩) :
    Behaves services location session state where
  settled := by
    rw [conduct.phase]
    cases current <;> simp
  holds := by
    rw [conduct.stream, Session.isRunning, conduct.phase]
    cases current <;> rfl
  rests := rests
  conduct := ⟨past, current, conduct⟩
  opens := by
    intro uri options
    obtain ⟨now, reopened, success⟩ := Session.open_stream_conduct services uri
      options conduct
    refine ⟨?_, _, now, reopened⟩
    rw [← success, Session.isRunning, reopened.phase]
    cases now <;> rfl
  closes := by
    intro killable
    by_cases closed : session.phase = .closed
    · rw [Session.close_with_closed _ _ _ closed]
      exact closed
    · rw [Session.close_with_open _ _ _ closed]
      rfl
  silent := closed_silent conduct
  dropped := drop_releases conduct

/-- Over every engine, storage and pace, and for every sequence of requests: a new session closes
every stream that it is given once, after a last flush and when the stream is given up, and never
calls it again. The log that says so changes nothing. -/
theorem play_behaves (services : Services σ H κ) (config : Config.Recorder)
    (encoder : Except Config.ConfigError Config.Encoder) (location : String) (state : σ)
    (requests : List (Request σ κ)) :
    let played := performAll services.watched
      (Session.create services.watched config encoder location (state, []))
      (requests.map (Request.within Prod.fst setFirst))
    let plain := performAll services (Session.create services config encoder location state)
      requests
    (played.1, played.2.1) = plain ∧
      (played.1.drop services.watched played.2).1 = plain.1.drop services plain.2 ∧
      Behaves services location played.1 played.2 := by
  intro played plain
  have same : (played.1, played.2.1) = plain :=
    perform_all_project services.watched_projects (fun _ _ => rfl) _ _ requests
  have created : Conduct [] none
      (Session.create services.watched config encoder location (state, [])).1
      ([] : List (StreamEvent H)) :=
    ⟨rfl, fun _ member => (nomatch member), fun _ member => (nomatch member), rfl, rfl⟩
  obtain ⟨past, current, conduct⟩ := perform_all_conduct services requests _ created
  refine ⟨same, ?_, conduct_behaves conduct fun closed => ?_⟩
  · rw [← same]
    exact Session.drop_project services.watched_projects played.1 played.2
  · -- The record of jobs says the same of the session without the log.
    let life := (Life.begin services.recorded config encoder location (state, [])).play
      services.recorded (requests.map (Request.within Prod.fst setFirst))
    have agrees : life.Agrees services.recorder (stationOf config location) :=
      Life.play_agrees services.recorded_quiet _
        (Request.within_harmless services.recorder Prod.fst setFirst (fun _ _ => ⟨rfl, id⟩)
          requests)
        (Life.begin_agrees config encoder location state)
    have recorded : (life.session, life.state.1) = plain :=
      Life.play_plain services.recorded_projects (fun _ _ => rfl) _ requests
    have session : played.1 = life.session := congrArg Prod.fst (same.trans recorded.symm)
    rw [session] at closed ⊢
    exact agrees.at_rest closed

end Footage.Rotation
