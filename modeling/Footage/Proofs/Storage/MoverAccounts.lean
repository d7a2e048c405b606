import Footage.Proofs.Storage.WorkerSteps
import Footage.Storage.Mover

/-!
# The accounts of a mover

A mover is free, has delegated one job to its worker, or keeps the outcome of a job that its
caller's thread ran. Every operation leads from one of these to another, and what was submitted,
started and collected stays in balance with what the mover still holds.
-/

namespace Footage.Storage

set_option autoImplicit false

variable {σ J O : Type}

namespace Mover

/-- Outcomes that the mover or its worker holds, the oldest first. -/
def uncollected (mover : Mover J O) : List O :=
  mover.finished.toList ++ mover.worker.uncollected

inductive Steady : Mover J O → Prop where
  | free {worker : Worker J O} (rest : worker.AtRest) : Steady ⟨false, none, worker⟩
  | delegated {worker : Worker J O} (busy : worker.OneJob) : Steady ⟨true, none, worker⟩
  | kept (outcome : O) : Steady ⟨true, some outcome, .absent⟩

variable {mover : Mover J O}

theorem Steady.free_of_not_in_flight (steady : mover.Steady) (free : mover.inFlight = false) :
    ∃ worker : Worker J O, worker.AtRest ∧ mover = ⟨false, none, worker⟩ := by
  cases steady with
  | free rest => exact ⟨_, rest, rfl⟩
  | delegated busy => cases free
  | kept outcome => cases free

theorem Steady.unfinished_length_le (steady : mover.Steady) :
    mover.worker.unfinished.length ≤ 1 := by
  cases steady with
  | free rest => simp [rest.unfinished_nil]
  | delegated busy => exact busy.unfinished_length_le
  | kept outcome => exact Nat.zero_le _

theorem Steady.uncollected_length_le (steady : mover.Steady) : mover.uncollected.length ≤ 1 := by
  cases steady with
  | free rest => simp [uncollected, rest.uncollected_nil]
  | delegated busy => cases busy <;> simp [uncollected, Worker.uncollected]
  | kept outcome => simp [uncollected, Worker.uncollected]

variable (runner : Runner σ J O) (job : J)

theorem dispatch_to_worker {worker : Worker J O} (rest : worker.AtRest) (alive : worker ≠ .dead [])
    (state : σ) :
    dispatch runner job ⟨false, none, worker⟩ state =
      (⟨true, none, .alive [job] .idle []⟩, (runner.pace state).2) := by
  have fresh : Worker.advance runner .fresh state = (.fresh, (runner.pace state).2) :=
    Worker.AtRest.idle.advance state
  cases rest with
  | absent => simp only [dispatch, employ, fresh]; rfl
  | idle => simp only [dispatch, employ, Worker.fresh] at fresh ⊢; rw [fresh]; rfl
  | dead => exact absurd rfl alive

/-- Where the worker is dead the job runs at once, and there is no worker any more. -/
theorem dispatch_to_caller (state : σ) :
    dispatch runner job ⟨false, none, .dead []⟩ state =
      (⟨(runner.run job (runner.pace state).2).1.isSome,
          (runner.run job (runner.pace state).2).1, .absent⟩,
        (runner.run job (runner.pace state).2).2) := by
  have gone : Worker.AtRest (.dead [] : Worker J O) := .dead
  simp only [dispatch, employ, gone.advance, Worker.send?, shutdown, gone.settle]

end Mover

namespace Recorder

variable {runner : Runner σ J O} {recorder : Recorder runner}

structure Accounts (recorder : Recorder runner) (submitted : List J) (collected : List O)
    (mover : Mover J O) (state : σ) : Prop where
  steady : mover.Steady
  balanced : recorder.Balanced submitted collected mover.worker.unfinished mover.uncollected state

variable {submitted : List J} {collected : List O} {mover : Mover J O} {worker : Worker J O}
  {state after : σ}

theorem Follows.accounts (follows : recorder.Follows submitted collected worker state) :
    recorder.Accounts submitted collected ⟨true, none, worker⟩ state :=
  ⟨.delegated follows.1, follows.2⟩

theorem Follows.collect (follows : recorder.Follows submitted collected worker state) :
    recorder.Accounts submitted
      (collected ++ (Mover.collect ⟨true, none, worker⟩).1.toList)
      (Mover.collect ⟨true, none, worker⟩).2 state := by
  obtain ⟨busy, balanced⟩ := follows
  have nothing := balanced
  rw [← List.append_nil collected] at nothing
  cases busy with
  | answered outcome => exact ⟨.free .idle, balanced.collect⟩
  | lost => exact ⟨.free .dead, nothing⟩
  | queued job => exact ⟨.delegated (.queued job), nothing⟩
  | held job => exact ⟨.delegated (.held job), nothing⟩
  | unsent outcome => exact ⟨.delegated (.unsent outcome), nothing⟩

/-- Receiving after waiting leaves nothing in flight, whatever the flag said before. -/
theorem Follows.collect_receipt (follows : recorder.Follows submitted collected worker state)
    (receipt : worker.hasReceipt = true) (inFlight : Bool) :
    Mover.collect ⟨inFlight, none, worker⟩ = Mover.collect ⟨true, none, worker⟩ ∧
      (Mover.collect ⟨true, none, worker⟩).2.inFlight = false := by
  obtain ⟨busy, -⟩ := follows
  cases busy <;> simp_all [Mover.collect, Worker.receive, Worker.hasReceipt]

theorem Accounts.try_reap (accounts : recorder.Accounts submitted collected mover state) :
    recorder.Accounts submitted (collected ++ (mover.tryReap runner state).1.toList)
      (mover.tryReap runner state).2.1 (mover.tryReap runner state).2.2 := by
  obtain ⟨steady, balanced⟩ := accounts
  cases steady with
  | free rest => exact ⟨.free rest, by simpa [Mover.tryReap] using balanced⟩
  | kept outcome => exact ⟨.free .absent, balanced.collect⟩
  | delegated busy =>
      have follows : recorder.Follows submitted collected _ state := ⟨busy, balanced⟩
      exact follows.advance.collect

/-- Waiting hands back the outcome in flight and leaves nothing in flight. -/
theorem Accounts.wait (accounts : recorder.Accounts submitted collected mover state) :
    recorder.Accounts submitted (collected ++ (mover.wait runner state).1.toList)
      (mover.wait runner state).2.1 (mover.wait runner state).2.2 := by
  obtain ⟨steady, balanced⟩ := accounts
  cases steady with
  | free rest => exact ⟨.free rest, by simpa [Mover.wait] using balanced⟩
  | kept outcome => exact ⟨.free .absent, balanced.collect⟩
  | delegated busy =>
      have follows : recorder.Follows submitted collected _ state := ⟨busy, balanced⟩
      have settled := follows.await.collect
      rw [← (follows.await.collect_receipt follows.await_receipt false).1] at settled
      exact settled

theorem Accounts.wait_not_in_flight (accounts : recorder.Accounts submitted collected mover state) :
    (mover.wait runner state).2.1.inFlight = false := by
  obtain ⟨steady, balanced⟩ := accounts
  cases steady with
  | free rest => rfl
  | kept outcome => rfl
  | delegated busy =>
      have follows : recorder.Follows submitted collected _ state := ⟨busy, balanced⟩
      have receipt := follows.await.collect_receipt follows.await_receipt false
      change (Mover.collect ⟨false, none, (Worker.await runner _ state).1⟩).2.inFlight = false
      rw [receipt.1]
      exact receipt.2

/-- A job that is dispatched while nothing is in flight is the only one in flight. -/
theorem Accounts.dispatch (job : J) (accounts : recorder.Accounts submitted collected mover state)
    (free : mover.inFlight = false) :
    recorder.Accounts (submitted ++ [job]) collected (mover.dispatch runner job state).1
      (mover.dispatch runner job state).2 := by
  obtain ⟨worker, rest, rfl⟩ := accounts.steady.free_of_not_in_flight free
  have balanced := (accounts.balanced.untouched (recorder.untouched_pace state)).submit job
  simp only [Mover.uncollected, rest.unfinished_nil, rest.uncollected_nil] at balanced
  by_cases alive : worker = .dead []
  · have ran := balanced.run
    rw [alive, Mover.dispatch_to_caller]
    cases reply : (runner.run job (runner.pace state).2).1 with
    | none =>
        rw [reply] at ran
        exact ⟨.free .absent, ran⟩
    | some outcome =>
        rw [reply] at ran
        exact ⟨.kept outcome, ran⟩
  · rw [Mover.dispatch_to_worker runner job rest alive]
    exact ⟨.delegated (.queued job), balanced⟩

theorem Accounts.submit (job : J) (accounts : recorder.Accounts submitted collected mover state) :
    recorder.Accounts (submitted ++ [job]) (collected ++ (mover.submit runner job state).1.toList)
      (mover.submit runner job state).2.1 (mover.submit runner job state).2.2 :=
  accounts.wait.dispatch job accounts.wait_not_in_flight

theorem Accounts.work (accounts : recorder.Accounts submitted collected mover state) :
    recorder.Accounts submitted collected
      { mover with worker := (mover.worker.step runner state).1 }
      (mover.worker.step runner state).2 := by
  obtain ⟨steady, balanced⟩ := accounts
  cases steady with
  | free rest => rw [rest.step]; exact ⟨.free rest, balanced⟩
  | kept outcome => exact ⟨.kept outcome, balanced⟩
  | delegated busy =>
      have follows : recorder.Follows submitted collected _ state := ⟨busy, balanced⟩
      exact follows.step.accounts

/-- Giving the mover up runs what was submitted; at most one outcome stays uncollected. -/
theorem Accounts.shutdown (accounts : recorder.Accounts submitted collected mover state) :
    ∃ uncollected : List O, uncollected.length ≤ 1 ∧
      recorder.Balanced submitted collected [] uncollected (mover.shutdown runner state).2 := by
  obtain ⟨steady, balanced⟩ := accounts
  cases steady with
  | free rest =>
      refine ⟨[], Nat.zero_le _, ?_⟩
      simpa [Mover.shutdown, Mover.uncollected, rest.settle, rest.unfinished_nil,
        rest.uncollected_nil] using balanced
  | kept outcome => exact ⟨[outcome], Nat.le_refl _, balanced⟩
  | delegated busy =>
      have follows : recorder.Follows submitted collected _ state := ⟨busy, balanced⟩
      have settled := follows.settle.accounts
      have counted := settled.balanced
      rw [follows.settle_unfinished] at counted
      exact ⟨_, settled.steady.uncollected_length_le, counted⟩

end Recorder

end Footage.Storage
