import Footage.Proofs.Session.Rotation
import Footage.Proofs.Storage.Deeds

/-!
# Nothing is left behind when a session ends

Over storage that moves and commits, with a journal of its deeds: whenever a session is closed,
by its owner, by the engine, for another stream or in the end, every segment that was finished so
far was processed once and in order, with exactly the deeds that its job calls for. The same
holds where the action of a close runs.
-/

namespace Footage

open Footage.Capture Footage.Clip Footage.Storage Footage.Services

set_option autoImplicit false

variable {σ H κ : Type}

namespace Services

def ofBackend (engine : Engine σ H) (backend : Backend σ κ) (pace : σ → Nat × σ) :
    Services σ H κ where
  engine := engine
  files := backend.files
  storage := backend.runner pace

variable (engine : Engine σ H) (backend : Backend σ κ) (pace : σ → Nat × σ)

def journaled : Services (Journal σ κ) H κ where
  engine := engine.within Journal.state fun state journal => journal.setState state
  files := backend.logged.files
  storage := backend.journaled pace

def journal : Recorder (journaled engine backend pace).storage := backend.recorder pace

theorem journaled_quiet :
    (journaled engine backend pace).Quiet (journal engine backend pace) where
  open_stream := fun _ _ => ⟨rfl, id⟩
  set_hw_device := fun _ _ => ⟨rfl, id⟩
  perform := fun _ _ _ => ⟨rfl, id⟩

theorem journaled_projects :
    Services.Projects Journal.state (journaled engine backend pace)
      (ofBackend engine backend pace) where
  open_stream := fun _ _ => rfl
  set_hw_device := fun _ _ => rfl
  perform := fun _ _ _ => rfl
  storage := backend.journaled_projects pace

end Services

namespace Rotation

/-- These jobs, and no others, were processed once each and in order, with all their deeds. -/
structure Settled (backend : Backend σ κ) (jobs : List (MoveJob κ)) (journal : Journal σ κ) :
    Prop where
  processed : journal.starts.map Start.job = jobs
  deeds : journal.deeds = journal.starts.flatMap (Start.deeds backend)
  /-- The index was asked once for each segment that was moved, in order, and for no other. -/
  offered : journal.deeds.filterMap Deed.offered =
    (journal.starts.filter (Start.relocated backend)).map fun start => start.job.record
  /-- The callback was told once for each failure, in order, and of nothing else. -/
  told : journal.deeds.filterMap Deed.told =
    (journal.starts.filter (Start.failed backend)).filterMap fun start => start.job.notice

theorem Settled.of_started {backend : Backend σ κ} {pace : σ → Nat × σ}
    {jobs : List (MoveJob κ)} {journal : Journal σ κ}
    (faithful : (backend.recorder pace).Intact journal)
    (started : ((backend.recorder pace).attempts journal).map Attempt.job = jobs) :
    Settled backend jobs journal where
  processed := (backend.recorder_jobs pace journal).symm.trans started
  deeds := faithful
  offered := Journal.Faithful.offered faithful
  told := Journal.Faithful.told faithful

namespace Life

variable {engine : Engine σ H} {backend : Backend σ κ} {pace : σ → Nat × σ} {station : Station}
  {life : Life (Journal σ κ) H κ}

structure Stores (engine : Engine σ H) (backend : Backend σ κ) (pace : σ → Nat × σ)
    (station : Station) (life : Life (Journal σ κ) H κ) : Prop where
  /-- A session without a stream, however it lost it, has nothing in flight. -/
  idle : life.session.phase = .closed → life.session.mover.inFlight = false ∧
    Settled backend (life.chronicle.jobs station) life.state
  /-- When a close returns. -/
  close :
    let services := journaled engine backend pace
    let closed := life.ask services .close
    life.session.close services life.state = (closed.session, closed.state) ∧
      closed.session.phase = .closed ∧ closed.session.mover.inFlight = false ∧
      Settled backend (closed.chronicle.jobs station) closed.state
  /-- An action runs on exactly the state in which the close returns. -/
  action : life.session.phase ≠ .closed → ∀ killable : Journal σ κ → Journal σ κ,
    let services := journaled engine backend pace
    let closed := life.ask services .close
    life.session.closeWith services killable life.state = (closed.session, killable closed.state)
  /-- When the session is given up. -/
  dropped :
    let services := journaled engine backend pace
    let closed := life.ask services .close
    Settled backend (closed.chronicle.jobs station) (life.session.drop services life.state)

theorem Agrees.settled (agrees : life.Agrees (journal engine backend pace) station)
    (free : life.session.mover.inFlight = false) :
    Settled backend (life.chronicle.jobs station) life.state := by
  obtain ⟨collected, accounts⟩ := agrees.kept.serves.accounts
  exact .of_started accounts.balanced.intact (agrees.kept.serves.all_started free)

theorem Agrees.stores (agrees : life.Agrees (journal engine backend pace) station) :
    life.Stores engine backend pace station := by
  have quiet := journaled_quiet engine backend pace
  have closed := ask_agrees quiet .close trivial agrees
  have returns : life.session.close (journaled engine backend pace) life.state =
      ((life.ask (journaled engine backend pace) .close).session,
        (life.ask (journaled engine backend pace) .close).state) :=
    (Session.close_project (journaled engine backend pace).overheard_projects life.session
      (life.state, [])).symm
  have phase := agrees.closes quiet
  refine ⟨fun phase => ⟨agrees.free phase, agrees.settled (agrees.free phase)⟩,
    ⟨returns, phase, closed.free phase, closed.settled (closed.free phase)⟩, ?_, ?_⟩
  · intro unclosed killable services
    rw [Session.close, Session.close_with_open _ _ _ unclosed] at returns
    rw [Session.close_with_open _ _ _ unclosed]
    have sessions := congrArg Prod.fst returns
    have states := congrArg Prod.snd returns
    exact Prod.ext sessions (congrArg killable states)
  · obtain ⟨collected, accounts⟩ := closed.kept.serves.accounts
    obtain ⟨uncollected, -, balanced⟩ := accounts.shutdown
    have started := balanced.jobs
    rw [List.append_nil] at started
    simp only [Session.drop, returns]
    exact .of_started balanced.intact started

theorem begin_journaled_agrees (engine : Engine σ H) (backend : Backend σ κ)
    (pace : σ → Nat × σ) (config : Config.Recorder)
    (encoder : Except Config.ConfigError Config.Encoder) (location : String) (state : σ) :
    (begin (journaled engine backend pace) config encoder location { state }).Agrees
      (journal engine backend pace) (stationOf config location) :=
  fresh_agrees (journal engine backend pace) config encoder location { state } rfl rfl

/-- Over every engine, every outcome of moves and commits and every pace of the worker, and for
every sequence of requests: no segment is lost, stored twice or out of order by the time that a
session is closed or given up. The journal that says so changes nothing. -/
theorem play_stores (engine : Engine σ H) (backend : Backend σ κ) (pace : σ → Nat × σ)
    (config : Config.Recorder) (encoder : Except Config.ConfigError Config.Encoder)
    (location : String) (state : σ) (requests : List (Request σ κ)) :
    let services := journaled engine backend pace
    let life := (begin services config encoder location { state }).play services
      (requests.map (Request.within Journal.state fun state journal => journal.setState state))
    let plain := ofBackend engine backend pace
    let played :=
      performAll plain (Session.create plain config encoder location state) requests
    (life.session, life.state.state) = played ∧
      (life.session.drop services life.state).state = played.1.drop plain played.2 ∧
      life.Stores engine backend pace (stationOf config location) := by
  intro services life plain played
  have projects := journaled_projects engine backend pace
  have same : (life.session, life.state.state) = played :=
    play_plain projects (fun _ _ => rfl) _ requests
  refine ⟨same, ?_, ?_⟩
  · rw [← same]
    exact Session.drop_project projects life.session life.state
  · refine (play_agrees (journaled_quiet engine backend pace) _ ?_
      (begin_journaled_agrees engine backend pace config encoder location state)).stores
    exact Request.within_harmless (journal engine backend pace) Journal.state
      (fun state journal => journal.setState state) (fun _ _ => ⟨rfl, id⟩) requests

end Life

end Rotation

end Footage
