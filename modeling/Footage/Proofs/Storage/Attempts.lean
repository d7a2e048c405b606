import Footage.Storage.Worker

/-!
# Which jobs were started

The state that jobs work on can keep a record of every job that is started and of what it gave.
A recorder names that record. Nothing but running a job adds to it, so the record tells a job
that was started twice, or never, from one that was started once. Every runner can be recorded
without changing what it does.
-/

namespace Footage.Storage

set_option autoImplicit false

/-- A job that was started, and its outcome; none when it ended the thread that it ran on. -/
structure Attempt (J O : Type) where
  job : J
  outcome : Option O
deriving DecidableEq, Repr

variable {σ J O : Type}

/-- A record of all attempts in the state. `Intact` is what else holds of the state as long as
nothing but jobs and the pace of the worker changes it. -/
structure Recorder (runner : Runner σ J O) where
  attempts : σ → List (Attempt J O)
  Intact : σ → Prop
  attempts_run : ∀ job state,
    attempts (runner.run job state).2 = attempts state ++ [⟨job, (runner.run job state).1⟩]
  intact_run : ∀ job state, Intact state → Intact (runner.run job state).2
  attempts_pace : ∀ state, attempts (runner.pace state).2 = attempts state
  intact_pace : ∀ state, Intact state → Intact (runner.pace state).2

def Runner.recorded (runner : Runner σ J O) : Runner (σ × List (Attempt J O)) J O where
  run := fun job (state, attempts) =>
    let (outcome, state) := runner.run job state
    (outcome, state, attempts ++ [⟨job, outcome⟩])
  pace := fun (state, attempts) =>
    let (count, state) := runner.pace state
    (count, state, attempts)

def Runner.recorder (runner : Runner σ J O) : Recorder runner.recorded where
  attempts := Prod.snd
  Intact := fun _ => True
  attempts_run := fun _ _ => rfl
  intact_run := fun _ _ _ => trivial
  attempts_pace := fun _ => rfl
  intact_pace := fun _ _ => trivial

namespace Recorder

variable {runner : Runner σ J O} (recorder : Recorder runner)

/-- Every submitted job was started once and in order, except for the unfinished ones at the end;
every outcome was collected once and in order, except for the uncollected ones at the end. -/
structure Balanced (submitted : List J) (collected : List O) (unfinished : List J)
    (uncollected : List O) (state : σ) : Prop where
  intact : recorder.Intact state
  jobs : (recorder.attempts state).map Attempt.job ++ unfinished = submitted
  outcomes : (recorder.attempts state).filterMap Attempt.outcome = collected ++ uncollected

def Untouched (before after : σ) : Prop :=
  recorder.attempts after = recorder.attempts before ∧
    (recorder.Intact before → recorder.Intact after)

variable {recorder} {submitted : List J} {collected : List O} {unfinished : List J}
  {uncollected : List O} {state before after : σ}

theorem untouched_pace (state : σ) : recorder.Untouched state (runner.pace state).2 :=
  ⟨recorder.attempts_pace state, recorder.intact_pace state⟩

theorem Balanced.untouched
    (balanced : recorder.Balanced submitted collected unfinished uncollected before)
    (untouched : recorder.Untouched before after) :
    recorder.Balanced submitted collected unfinished uncollected after where
  intact := untouched.2 balanced.intact
  jobs := by rw [untouched.1]; exact balanced.jobs
  outcomes := by rw [untouched.1]; exact balanced.outcomes

/-- Running the first unfinished job starts it, and its outcome waits to be collected. -/
theorem Balanced.run {job : J}
    (balanced : recorder.Balanced submitted collected (job :: unfinished) [] state) :
    recorder.Balanced submitted collected unfinished (runner.run job state).1.toList
      (runner.run job state).2 where
  intact := recorder.intact_run job state balanced.intact
  jobs := by
    rw [recorder.attempts_run, List.map_append, List.append_assoc]
    exact balanced.jobs
  outcomes := by
    rw [recorder.attempts_run, List.filterMap_append, balanced.outcomes, List.append_nil]
    cases (runner.run job state).1 <;> rfl

theorem Balanced.collect {outcome : O}
    (balanced : recorder.Balanced submitted collected unfinished (outcome :: uncollected) state) :
    recorder.Balanced submitted (collected ++ [outcome]) unfinished uncollected state where
  intact := balanced.intact
  jobs := balanced.jobs
  outcomes := by rw [List.append_assoc]; exact balanced.outcomes

theorem Balanced.submit (job : J)
    (balanced : recorder.Balanced submitted collected unfinished uncollected state) :
    recorder.Balanced (submitted ++ [job]) collected (unfinished ++ [job]) uncollected state where
  intact := balanced.intact
  jobs := by rw [← List.append_assoc, balanced.jobs]
  outcomes := balanced.outcomes

end Recorder

end Footage.Storage
