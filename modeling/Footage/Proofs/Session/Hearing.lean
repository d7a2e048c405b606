import Footage.Proofs.Storage.MoverAccounts
import Footage.Proofs.Storage.Within
import Footage.Session.Run

/-!
# What the engine said

Services can be overheard: whatever the engine answers is noted beside the state, in order.
Storage knows nothing of these notes, and the engine knows nothing of the record of jobs, so
while a session is served its mover's accounts and the notes grow independently.
-/

namespace Footage

open Footage.Capture Footage.Clip Footage.Storage

set_option autoImplicit false

variable {σ ε H κ J O : Type}

def Storage.Runner.beside (ε : Type) (runner : Runner σ J O) : Runner (σ × ε) J O where
  run := fun job (state, extra) =>
    let (outcome, state) := runner.run job state
    (outcome, state, extra)
  pace := fun (state, extra) =>
    let (count, state) := runner.pace state
    (count, state, extra)

def Storage.Recorder.beside {runner : Runner σ J O} (recorder : Recorder runner) (extra : ε) :
    Recorder (runner.beside ε) where
  attempts := fun whole => recorder.attempts whole.1
  Intact := fun whole => recorder.Intact whole.1 ∧ whole.2 = extra
  attempts_run := fun job whole => recorder.attempts_run job whole.1
  intact_run := fun job whole intact => ⟨recorder.intact_run job whole.1 intact.1, intact.2⟩
  attempts_pace := fun whole => recorder.attempts_pace whole.1
  intact_pace := fun whole intact => ⟨recorder.intact_pace whole.1 intact.1, intact.2⟩

def Capture.Engine.within {τ : Type} (engine : Engine σ H) (get : τ → σ) (set : σ → τ → τ) :
    Engine τ H where
  openStream := fun request whole =>
    let (reply, part) := engine.openStream request (get whole)
    (reply, set part whole)
  setHwDevice := fun device whole => set (engine.setHwDevice device (get whole)) whole
  perform := fun stream call whole =>
    let (reply, part) := engine.perform stream call (get whole)
    (reply, set part whole)

inductive Heard where
  /-- Whether a stream could be opened. -/
  | opened (success : Bool)
  | replied (call : StreamCall) (reply : call.Reply)

def Capture.Engine.overheard (engine : Engine σ H) : Engine (σ × List Heard) H where
  openStream := fun request (state, heard) =>
    let (reply, state) := engine.openStream request state
    (reply, state, heard ++ [.opened reply.isOk])
  setHwDevice := fun device (state, heard) => (engine.setHwDevice device state, heard)
  perform := fun stream call (state, heard) =>
    let (reply, state) := engine.perform stream call state
    (reply, state, heard ++ [.replied call reply])

namespace Services

def recorded (services : Services σ H κ) :
    Services (σ × List (Attempt (MoveJob κ) MoveOutcome)) H κ where
  engine := services.engine.within Prod.fst setFirst
  files := services.files.within Prod.fst setFirst
  storage := services.storage.recorded

def overheard (services : Services σ H κ) : Services (σ × List Heard) H κ where
  engine := services.engine.overheard
  files := services.files.within Prod.fst setFirst
  storage := services.storage.beside _

structure Quiet (services : Services σ H κ) (recorder : Recorder services.storage) : Prop where
  open_stream : ∀ request state,
    recorder.Untouched state (services.engine.openStream request state).2
  set_hw_device : ∀ device state,
    recorder.Untouched state (services.engine.setHwDevice device state)
  perform : ∀ stream call state,
    recorder.Untouched state (services.engine.perform stream call state).2

def recorder (services : Services σ H κ) : Recorder services.recorded.storage :=
  services.storage.recorder

theorem recorded_quiet (services : Services σ H κ) :
    services.recorded.Quiet services.recorder where
  open_stream := fun _ _ => ⟨rfl, id⟩
  set_hw_device := fun _ _ => ⟨rfl, id⟩
  perform := fun _ _ _ => ⟨rfl, id⟩

variable {services : Services σ H κ}

/-- These jobs were given to the mover, and this was heard from the engine. -/
def Serves (recorder : Recorder services.storage) (submitted : List (MoveJob κ))
    (heard : List Heard) (mover : SegmentMover κ) (state : σ × List Heard) : Prop :=
  ∃ collected, (recorder.beside heard).Accounts submitted collected mover state

variable {recorder : Recorder services.storage} {submitted : List (MoveJob κ)}
  {heard : List Heard} {mover : SegmentMover κ} {state : σ × List Heard}

theorem Serves.untouched (after : σ × List Heard) (news : List Heard)
    (serves : Serves recorder submitted heard mover state)
    (untouched : recorder.Untouched state.1 after.1) (noted : after.2 = state.2 ++ news) :
    Serves recorder submitted (heard ++ news) mover after := by
  obtain ⟨collected, steady, balanced⟩ := serves
  refine ⟨collected, steady, ?_⟩
  exact {
    intact := ⟨untouched.2 balanced.intact.1, by rw [noted, balanced.intact.2]⟩
    jobs := by
      rw [← balanced.jobs]
      exact congrArg (·.map Attempt.job ++ _) untouched.1
    outcomes := by
      rw [← balanced.outcomes]
      exact congrArg (·.filterMap Attempt.outcome) untouched.1 }

theorem Serves.anew (serves : Serves recorder submitted heard mover state) :
    Serves recorder submitted [] mover (state.1, []) := by
  obtain ⟨collected, steady, balanced⟩ := serves
  exact ⟨collected, steady, ⟨balanced.intact.1, rfl⟩, balanced.jobs, balanced.outcomes⟩

theorem Serves.perform (quiet : services.Quiet recorder) (stream : H) (call : StreamCall)
    (serves : Serves recorder submitted heard mover state) :
    Serves recorder submitted
      (heard ++ [.replied call (services.overheard.engine.perform stream call state).1]) mover
      (services.overheard.engine.perform stream call state).2 :=
  serves.untouched _ _ (quiet.perform stream call state.1) rfl

theorem Serves.open_stream (quiet : services.Quiet recorder) (request : OpenRequest)
    (serves : Serves recorder submitted heard mover state) :
    Serves recorder submitted
      (heard ++ [.opened (services.overheard.engine.openStream request state).1.isOk]) mover
      (services.overheard.engine.openStream request state).2 :=
  serves.untouched _ _ (quiet.open_stream request state.1) rfl

theorem Serves.set_hw_device (quiet : services.Quiet recorder) (device : String)
    (serves : Serves recorder submitted heard mover state) :
    Serves recorder submitted heard mover
      (services.overheard.engine.setHwDevice device state) := by
  have told := serves.untouched (services.overheard.engine.setHwDevice device state) []
    (quiet.set_hw_device device state.1) (List.append_nil _).symm
  rwa [List.append_nil] at told

theorem Serves.submit (job : MoveJob κ)
    (serves : Serves recorder submitted heard mover state) :
    Serves recorder (submitted ++ [job]) heard
      (mover.submit services.overheard.storage job state).2.1
      (mover.submit services.overheard.storage job state).2.2 := by
  obtain ⟨collected, accounts⟩ := serves
  exact ⟨_, accounts.submit job⟩

theorem Serves.try_reap (serves : Serves recorder submitted heard mover state) :
    Serves recorder submitted heard (mover.tryReap services.overheard.storage state).2.1
      (mover.tryReap services.overheard.storage state).2.2 := by
  obtain ⟨collected, accounts⟩ := serves
  exact ⟨_, accounts.try_reap⟩

theorem Serves.drain (serves : Serves recorder submitted heard mover state) :
    Serves recorder submitted heard (mover.drain services.overheard.storage state).2.1
        (mover.drain services.overheard.storage state).2.2 ∧
      (mover.drain services.overheard.storage state).2.1.inFlight = false := by
  obtain ⟨collected, accounts⟩ := serves
  exact ⟨⟨_, accounts.wait⟩, accounts.wait_not_in_flight⟩

theorem Serves.work (serves : Serves recorder submitted heard mover state) :
    Serves recorder submitted heard
      { mover with worker := (mover.worker.step services.overheard.storage state).1 }
      (mover.worker.step services.overheard.storage state).2 := by
  obtain ⟨collected, accounts⟩ := serves
  exact ⟨_, accounts.work⟩

/-- The jobs given to the mover were started once each and in order, but for the unfinished. -/
theorem Serves.started (serves : Serves recorder submitted heard mover state) :
    (recorder.attempts state.1).map Attempt.job ++ mover.worker.unfinished = submitted := by
  obtain ⟨collected, accounts⟩ := serves
  exact accounts.balanced.jobs

/-- Without the notes the accounts are those of the services themselves. -/
theorem Serves.accounts (serves : Serves recorder submitted heard mover state) :
    ∃ collected, recorder.Accounts submitted collected mover state.1 := by
  obtain ⟨collected, steady, balanced⟩ := serves
  exact ⟨collected, steady, balanced.intact.1, balanced.jobs, balanced.outcomes⟩

theorem Serves.heard_eq (serves : Serves recorder submitted heard mover state) :
    state.2 = heard := by
  obtain ⟨collected, accounts⟩ := serves
  exact accounts.balanced.intact.2

theorem Serves.all_started (serves : Serves recorder submitted heard mover state)
    (free : mover.inFlight = false) :
    (recorder.attempts state.1).map Attempt.job = submitted := by
  obtain ⟨collected, accounts⟩ := serves
  obtain ⟨worker, rest, rfl⟩ := accounts.steady.free_of_not_in_flight free
  have started := accounts.balanced.jobs
  rw [rest.unfinished_nil, List.append_nil] at started
  exact started

end Services

end Footage
