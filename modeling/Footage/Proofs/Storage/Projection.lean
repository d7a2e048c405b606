import Footage.Proofs.Storage.Attempts
import Footage.Storage.Mover

/-!
# A record does not change what is recorded

A runner over a larger state projects onto a runner over a part of it when running a job and
pacing give the same reply and the same part. Then everything that workers and movers do projects
too. Recorded runners project onto the runners that they record, so what is proved with a record
holds of the same course without one.
-/

namespace Footage.Storage

set_option autoImplicit false

variable {τ σ J O : Type}

structure Runner.Projects (part : τ → σ) (whole : Runner τ J O) (runner : Runner σ J O) :
    Prop where
  run : ∀ job state, Prod.map id part (whole.run job state) = runner.run job (part state)
  pace : ∀ state, Prod.map id part (whole.pace state) = runner.pace (part state)

theorem Runner.recorded_projects (runner : Runner σ J O) :
    Runner.Projects Prod.fst runner.recorded runner where
  run := fun _ _ => rfl
  pace := fun _ => rfl

variable {part : τ → σ} {whole : Runner τ J O} {runner : Runner σ J O}

namespace Worker

variable (projects : Runner.Projects part whole runner) (worker : Worker J O) (state : τ)

include projects

theorem step_project :
    Prod.map id part (worker.step whole state) = worker.step runner (part state) := by
  cases worker with
  | absent => rfl
  | dead sent => rfl
  | alive queue stage sent =>
      cases stage with
      | idle => cases queue <;> rfl
      | ran outcome => cases queue <;> rfl
      | holding job =>
          simp only [step]
          rw [← projects.run job state]
          rcases whole.run job state with ⟨outcome, after⟩
          cases outcome <;> rfl

theorem steps_project (count : Nat) :
    Prod.map id part (worker.steps whole count state) =
      worker.steps runner count (part state) := by
  induction count generalizing worker state with
  | zero => rfl
  | succ count ih =>
      simp only [steps]
      rw [← step_project projects worker state]
      exact ih _ _

theorem advance_project :
    Prod.map id part (worker.advance whole state) = worker.advance runner (part state) := by
  change Prod.map id part (worker.steps whole (whole.pace state).1 (whole.pace state).2) =
    worker.steps runner (runner.pace (part state)).1 (runner.pace (part state)).2
  rw [← projects.pace state]
  exact steps_project projects worker _ _

theorem settle_project :
    Prod.map id part (worker.settle whole state) = worker.settle runner (part state) :=
  steps_project projects worker state _

theorem await_project :
    Prod.map id part (worker.await whole state) = worker.await runner (part state) := by
  simp only [await]
  generalize worker.remaining = count
  induction count generalizing worker state with
  | zero => rfl
  | succ count ih =>
      simp only [awaitWithin]
      rw [← step_project projects worker state]
      split
      · rfl
      · exact ih _ _

end Worker

namespace Mover

variable (projects : Runner.Projects part whole runner) (mover : Mover J O) (state : τ)

include projects

theorem try_reap_project :
    Prod.map id (Prod.map id part) (mover.tryReap whole state) =
      mover.tryReap runner (part state) := by
  simp only [tryReap]
  rw [← Worker.advance_project projects mover.worker state]
  split
  · split <;> rfl
  · rfl

theorem wait_project :
    Prod.map id (Prod.map id part) (mover.wait whole state) = mover.wait runner (part state) := by
  simp only [wait]
  rw [← Worker.await_project projects mover.worker state]
  split
  · split <;> rfl
  · rfl

theorem shutdown_project :
    Prod.map id part (mover.shutdown whole state) = mover.shutdown runner (part state) := by
  simp only [shutdown]
  rw [← Worker.settle_project projects mover.worker state]
  rfl

theorem dispatch_project (job : J) :
    Prod.map id part (mover.dispatch whole job state) =
      mover.dispatch runner job (part state) := by
  simp only [dispatch]
  rw [← Worker.advance_project projects mover.employ.worker state]
  rcases mover.employ.worker.advance whole state with ⟨worker, after⟩
  simp only [Prod.map_apply, id_eq]
  cases worker.send? job with
  | some worker => rfl
  | none =>
      rw [← shutdown_project projects _ after]
      rcases Mover.shutdown whole _ after with ⟨mover, last⟩
      have ran := projects.run job last
      rcases reply : whole.run job last with ⟨outcome, final⟩
      rw [reply] at ran
      simp only [Prod.map_apply, id_eq, reply, ← ran]

theorem submit_project (job : J) :
    Prod.map id (Prod.map id part) (mover.submit whole job state) =
      mover.submit runner job (part state) := by
  simp only [submit]
  rw [← wait_project projects mover state]
  simp only [Prod.map_fst, Prod.map_snd, id_eq]
  rw [← dispatch_project projects _ _ job]
  rfl

end Mover

end Footage.Storage
