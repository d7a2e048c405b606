import Footage.Proofs.Storage.Attempts

/-!
# A worker with one job

A mover gives its worker one job at a time. From the moment a job is sent until its outcome is
received the worker is in one of five situations, and its steps lead from each to the next. In
each of them the job and its outcome are accounted for: queued or held, run with the outcome
still in the worker or waiting for the receiver, or lost with the worker.
-/

namespace Footage.Storage

set_option autoImplicit false

variable {σ J O : Type}

namespace Worker

/-- Outcomes that were not received yet, the oldest first. -/
def uncollected : Worker J O → List O
  | .alive _ (.ran outcome) sent => sent ++ [outcome]
  | .alive _ _ sent => sent
  | .dead sent => sent
  | .absent => []

inductive AtRest : Worker J O → Prop where
  | absent : AtRest .absent
  | idle : AtRest fresh
  | dead : AtRest (.dead [])

/-- One job was sent and its outcome was not received yet. -/
inductive OneJob : Worker J O → Prop where
  | queued (job : J) : OneJob (.alive [job] .idle [])
  | held (job : J) : OneJob (.alive [] (.holding job) [])
  | unsent (outcome : O) : OneJob (.alive [] (.ran outcome) [])
  | answered (outcome : O) : OneJob (.alive [] .idle [outcome])
  | lost : OneJob (.dead [])

theorem AtRest.unfinished_nil {worker : Worker J O} (rest : worker.AtRest) :
    worker.unfinished = [] := by
  cases rest <;> rfl

theorem AtRest.uncollected_nil {worker : Worker J O} (rest : worker.AtRest) :
    worker.uncollected = [] := by
  cases rest <;> rfl

theorem OneJob.unfinished_length_le {worker : Worker J O} (busy : worker.OneJob) :
    worker.unfinished.length ≤ 1 := by
  cases busy <;> simp [unfinished]

theorem OneJob.promises {worker : Worker J O} (busy : worker.OneJob) :
    worker.unfinished ≠ [] ∨ worker.uncollected ≠ [] ∨ worker = .dead [] := by
  cases busy <;> simp [unfinished, uncollected]

theorem OneJob.has_receipt {worker : Worker J O} (busy : worker.OneJob)
    (settled : worker.remaining = 0) : worker.hasReceipt = true := by
  cases busy <;> simp_all [hasReceipt, remaining]

theorem OneJob.unfinished_nil {worker : Worker J O} (busy : worker.OneJob)
    (settled : worker.remaining = 0) : worker.unfinished = [] := by
  cases busy <;> simp_all [unfinished, remaining]

variable (runner : Runner σ J O)

section Counting

theorem remaining_step_le (worker : Worker J O) (state : σ) :
    (worker.step runner state).1.remaining ≤ worker.remaining - 1 := by
  cases worker with
  | absent => exact Nat.zero_le _
  | dead sent => exact Nat.zero_le _
  | alive queue stage sent =>
      cases stage with
      | idle =>
          cases queue with
          | nil => exact Nat.zero_le _
          | cons job queue =>
              simp only [step, remaining, List.length_cons]
              omega
      | holding job =>
          simp only [step]
          split <;> simp only [remaining] <;> omega
      | ran outcome =>
          simp only [step, remaining]
          omega

theorem remaining_steps_le (count : Nat) (worker : Worker J O) (state : σ) :
    (worker.steps runner count state).1.remaining ≤ worker.remaining - count := by
  induction count generalizing worker state with
  | zero => simp [steps]
  | succ count ih =>
      have first := remaining_step_le runner worker state
      have later := ih (worker.step runner state).1 (worker.step runner state).2
      simp only [steps]
      omega

theorem remaining_settle (worker : Worker J O) (state : σ) :
    (worker.settle runner state).1.remaining = 0 := by
  have bound := remaining_steps_le runner worker.remaining worker state
  simp only [settle]
  omega

theorem await_within_stops (count : Nat) (worker : Worker J O) (state : σ)
    (enough : worker.remaining ≤ count) :
    (worker.awaitWithin runner count state).1.hasReceipt = true ∨
      (worker.awaitWithin runner count state).1.remaining = 0 := by
  induction count generalizing worker state with
  | zero =>
      right
      simp only [awaitWithin]
      omega
  | succ count ih =>
      have first := remaining_step_le runner worker state
      by_cases receipt : worker.hasReceipt = true
      · left
        simp only [awaitWithin, receipt, if_true]
      · simp only [awaitWithin, receipt]
        exact ih _ _ (by omega)

end Counting

section Preservation

variable {runner} {P : Worker J O → σ → Prop}

theorem steps_preserve
    (step : ∀ worker state, P worker state →
      P (worker.step runner state).1 (worker.step runner state).2)
    (count : Nat) (worker : Worker J O) (state : σ) (holds : P worker state) :
    P (worker.steps runner count state).1 (worker.steps runner count state).2 := by
  induction count generalizing worker state with
  | zero => exact holds
  | succ count ih => exact ih _ _ (step worker state holds)

theorem await_within_preserves
    (step : ∀ worker state, P worker state →
      P (worker.step runner state).1 (worker.step runner state).2)
    (count : Nat) (worker : Worker J O) (state : σ) (holds : P worker state) :
    P (worker.awaitWithin runner count state).1 (worker.awaitWithin runner count state).2 := by
  induction count generalizing worker state with
  | zero => exact holds
  | succ count ih =>
      simp only [awaitWithin]
      split
      · exact holds
      · exact ih _ _ (step worker state holds)

end Preservation

section Rest

variable {runner} {worker : Worker J O}

theorem AtRest.step (rest : worker.AtRest) (state : σ) :
    worker.step runner state = (worker, state) := by
  cases rest <;> rfl

theorem AtRest.steps (rest : worker.AtRest) (count : Nat) (state : σ) :
    worker.steps runner count state = (worker, state) := by
  induction count with
  | zero => rfl
  | succ count ih => simp only [Worker.steps, rest.step, ih]

theorem AtRest.advance (rest : worker.AtRest) (state : σ) :
    worker.advance runner state = (worker, (runner.pace state).2) :=
  rest.steps _ _

theorem AtRest.settle (rest : worker.AtRest) (state : σ) :
    worker.settle runner state = (worker, state) :=
  rest.steps _ _

end Rest

end Worker

namespace Recorder

variable {runner : Runner σ J O} {recorder : Recorder runner}

def Follows (recorder : Recorder runner) (submitted : List J) (collected : List O)
    (worker : Worker J O) (state : σ) : Prop :=
  worker.OneJob ∧
    recorder.Balanced submitted collected worker.unfinished worker.uncollected state

variable {submitted : List J} {collected : List O} {worker : Worker J O} {state : σ}

theorem Follows.untouched {after : σ} (follows : recorder.Follows submitted collected worker state)
    (untouched : recorder.Untouched state after) :
    recorder.Follows submitted collected worker after :=
  ⟨follows.1, follows.2.untouched untouched⟩

theorem Follows.step (follows : recorder.Follows submitted collected worker state) :
    recorder.Follows submitted collected (worker.step runner state).1
      (worker.step runner state).2 := by
  obtain ⟨busy, balanced⟩ := follows
  cases busy with
  | queued job => exact ⟨.held job, balanced⟩
  | held job =>
      have ran := balanced.run
      simp only [Worker.step]
      cases reply : runner.run job state with
      | mk outcome state =>
          rw [reply] at ran
          cases outcome with
          | none => exact ⟨.lost, ran⟩
          | some outcome => exact ⟨.unsent outcome, ran⟩
  | unsent outcome => exact ⟨.answered outcome, balanced⟩
  | answered outcome => exact ⟨.answered outcome, balanced⟩
  | lost => exact ⟨.lost, balanced⟩

theorem Follows.advance (follows : recorder.Follows submitted collected worker state) :
    recorder.Follows submitted collected (worker.advance runner state).1
      (worker.advance runner state).2 :=
  Worker.steps_preserve (fun _ _ => Follows.step) _ _ _
    (follows.untouched (recorder.untouched_pace state))

theorem Follows.await (follows : recorder.Follows submitted collected worker state) :
    recorder.Follows submitted collected (worker.await runner state).1
      (worker.await runner state).2 :=
  Worker.await_within_preserves (fun _ _ => Follows.step) _ _ _ follows

theorem Follows.settle (follows : recorder.Follows submitted collected worker state) :
    recorder.Follows submitted collected (worker.settle runner state).1
      (worker.settle runner state).2 :=
  Worker.steps_preserve (fun _ _ => Follows.step) _ _ _ follows

/-- Whoever waits for the job finds its outcome, or that the worker is gone. -/
theorem Follows.await_receipt (follows : recorder.Follows submitted collected worker state) :
    (worker.await runner state).1.hasReceipt = true := by
  rcases Worker.await_within_stops runner worker.remaining worker state (Nat.le_refl _) with
    receipt | settled
  · exact receipt
  · exact follows.await.1.has_receipt settled

theorem Follows.settle_unfinished (follows : recorder.Follows submitted collected worker state) :
    (worker.settle runner state).1.unfinished = [] :=
  follows.settle.1.unfinished_nil (Worker.remaining_settle runner worker state)

end Recorder

end Footage.Storage
