import Footage.Storage.Mover

/-!
# What storage leaves alone

A property of the state that running a job and pacing keep is kept by everything that workers and
movers do. What lies beside the state of a runner is such a property, so storage that knows
nothing of some notes cannot touch them.
-/

namespace Footage.Storage

set_option autoImplicit false

variable {σ J O : Type}

structure Runner.Keeps (runner : Runner σ J O) (Holds : σ → Prop) : Prop where
  run : ∀ job state, Holds state → Holds (runner.run job state).2
  pace : ∀ state, Holds state → Holds (runner.pace state).2

variable {runner : Runner σ J O} {Holds : σ → Prop} (keeps : runner.Keeps Holds)

namespace Worker

variable (worker : Worker J O) {state : σ} (holds : Holds state)

include keeps holds

theorem step_keeps : Holds (worker.step runner state).2 := by
  cases worker with
  | absent => exact holds
  | dead sent => exact holds
  | alive queue stage sent =>
      cases stage with
      | idle => cases queue <;> exact holds
      | ran outcome => cases queue <;> exact holds
      | holding job =>
          have ran := keeps.run job state holds
          simp only [step]
          rcases reply : runner.run job state with ⟨outcome, after⟩
          rw [reply] at ran
          cases outcome <;> exact ran

theorem steps_keeps (count : Nat) : Holds (worker.steps runner count state).2 := by
  induction count generalizing worker state with
  | zero => exact holds
  | succ count ih => exact ih _ (step_keeps keeps worker holds)

theorem advance_keeps : Holds (worker.advance runner state).2 :=
  steps_keeps keeps worker (keeps.pace state holds) _

theorem await_keeps : Holds (worker.await runner state).2 := by
  simp only [await]
  generalize worker.remaining = count
  induction count generalizing worker state with
  | zero => exact holds
  | succ count ih =>
      simp only [awaitWithin]
      split
      · exact holds
      · exact ih _ (step_keeps keeps worker holds)

end Worker

namespace Mover

variable (mover : Mover J O) {state : σ} (holds : Holds state)

include keeps holds

theorem try_reap_keeps : Holds (mover.tryReap runner state).2.2 := by
  simp only [tryReap]
  split
  · split
    · exact holds
    · exact Worker.advance_keeps keeps _ holds
  · exact holds

theorem wait_keeps : Holds (mover.wait runner state).2.2 := by
  simp only [wait]
  split
  · split
    · exact holds
    · exact Worker.await_keeps keeps _ holds
  · exact holds

theorem shutdown_keeps : Holds (mover.shutdown runner state).2 :=
  Worker.steps_keeps keeps _ holds _

theorem dispatch_keeps (job : J) : Holds (mover.dispatch runner job state).2 := by
  have advanced := Worker.advance_keeps keeps mover.employ.worker holds
  simp only [dispatch]
  split
  · exact advanced
  · exact keeps.run job _ (shutdown_keeps keeps _ advanced)

theorem submit_keeps (job : J) : Holds (mover.submit runner job state).2.2 :=
  dispatch_keeps keeps _ (wait_keeps keeps mover holds) job

end Mover

end Footage.Storage
