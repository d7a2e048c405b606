import Footage.Proofs.Storage.MoverAccounts
import Footage.Proofs.Storage.Projection

/-!
# Every course of a mover is orderly

A course is a sequence of turns, each taken by the caller of a mover or by its worker. The worker
also moves inside an operation: as often as the pace wants before the caller sends or polls, and
as long as the caller waits. Runner and pace are arbitrary, so courses are all interleavings of
the two parties. In each of them there is never more than one unfinished job, jobs start in the
order of submission, outcomes come back in that order, and nobody waits in vain.
-/

namespace Footage.Storage

set_option autoImplicit false

variable {σ J O : Type}

/-- What happens next: the caller calls an operation, or the worker takes a step of its own. -/
inductive Turn (J : Type) where
  | submit (job : J)
  | tryReap
  | wait
  | drain
  | work
deriving DecidableEq, Repr

structure Course (σ J O : Type) where
  mover : Mover J O
  state : σ
  submitted : List J
  collected : List O

namespace Course

def start (state : σ) : Course σ J O := ⟨{}, state, [], []⟩

def after (course : Course σ J O) (jobs : List J) (reply : Option O × Mover J O × σ) :
    Course σ J O where
  mover := reply.2.1
  state := reply.2.2
  submitted := course.submitted ++ jobs
  collected := course.collected ++ reply.1.toList

def take (runner : Runner σ J O) (course : Course σ J O) : Turn J → Course σ J O
  | .submit job => course.after [job] (course.mover.submit runner job course.state)
  | .tryReap => course.after [] (course.mover.tryReap runner course.state)
  | .wait => course.after [] (course.mover.wait runner course.state)
  | .drain => course.after [] (course.mover.drain runner course.state)
  | .work =>
      let (worker, state) := course.mover.worker.step runner course.state
      { course with mover := { course.mover with worker }, state }

def play (runner : Runner σ J O) (course : Course σ J O) (turns : List (Turn J)) :
    Course σ J O :=
  turns.foldl (take runner) course

section Projecting

variable {τ : Type} {part : τ → σ} {whole : Runner τ J O} {runner : Runner σ J O}
  (projects : Runner.Projects part whole runner) (course : Course τ J O)

def project (part : τ → σ) (course : Course τ J O) : Course σ J O :=
  { course with state := part course.state }

include projects

theorem take_project (turn : Turn J) :
    (course.take whole turn).project part = (course.project part).take runner turn := by
  cases turn with
  | submit job =>
      simp only [take, project, after]
      rw [← Mover.submit_project projects course.mover course.state job]
      rfl
  | tryReap =>
      simp only [take, project, after]
      rw [← Mover.try_reap_project projects course.mover course.state]
      rfl
  | wait =>
      simp only [take, project, after]
      rw [← Mover.wait_project projects course.mover course.state]
      rfl
  | drain =>
      simp only [take, project, after, Mover.drain]
      rw [← Mover.wait_project projects course.mover course.state]
      rfl
  | work =>
      simp only [take, project]
      rw [← Worker.step_project projects course.mover.worker course.state]
      rfl

theorem play_project (turns : List (Turn J)) :
    (course.play whole turns).project part = (course.project part).play runner turns := by
  induction turns generalizing course with
  | nil => rfl
  | cons turn turns ih =>
      simp only [play, List.foldl_cons]
      rw [← take_project projects course turn]
      exact ih _

end Projecting

variable {runner : Runner σ J O}

/-- The record accounts for everything that happened in the course. -/
def Accounted (recorder : Recorder runner) (course : Course σ J O) : Prop :=
  recorder.Accounts course.submitted course.collected course.mover course.state

variable {recorder : Recorder runner} {course : Course σ J O}

theorem take_accounted (turn : Turn J) (accounted : course.Accounted recorder) :
    (course.take runner turn).Accounted recorder := by
  have same : course.submitted = course.submitted ++ [] := (List.append_nil _).symm
  cases turn with
  | submit job => exact Recorder.Accounts.submit job accounted
  | tryReap =>
      have reaped := Recorder.Accounts.try_reap accounted
      rw [same] at reaped
      exact reaped
  | wait =>
      have waited := Recorder.Accounts.wait accounted
      rw [same] at waited
      exact waited
  | drain =>
      have drained := Recorder.Accounts.wait accounted
      rw [same] at drained
      exact drained
  | work => exact Recorder.Accounts.work accounted

theorem play_accounted (turns : List (Turn J)) (accounted : course.Accounted recorder) :
    (course.play runner turns).Accounted recorder := by
  induction turns generalizing course with
  | nil => exact accounted
  | cons turn turns ih => exact ih (take_accounted turn accounted)

theorem start_accounted (state : σ) (intact : recorder.Intact state)
    (unrecorded : recorder.attempts state = []) :
    (start state : Course σ J O).Accounted recorder where
  steady := .free .absent
  balanced := {
    intact
    jobs := by simp [start, unrecorded, Worker.unfinished]
    outcomes := by simp [start, unrecorded, Mover.uncollected, Worker.uncollected] }

structure Orderly (recorder : Recorder runner) (course : Course σ J O) : Prop where
  /-- At most one job is queued or running. -/
  one_unfinished : course.mover.worker.unfinished.length ≤ 1
  /-- When a submit has waited, and before it starts its job, the worker has nothing to do. -/
  rest_before_start : (course.mover.wait runner course.state).2.1.worker.AtRest
  /-- Every submitted job was started once and in order, apart from the one still unfinished. -/
  started : (recorder.attempts course.state).map Attempt.job ++ course.mover.worker.unfinished =
    course.submitted
  /-- A job goes to the worker, or, when the worker is dead, runs on the thread of the caller,
  where its outcome is kept. -/
  place : ∀ job,
    let waited := course.mover.wait runner course.state
    let submitted := course.mover.submit runner job course.state
    (waited.2.1.worker ≠ .dead [] ∧ submitted.2.1.worker = .alive [job] .idle [] ∧
        recorder.attempts submitted.2.2 = recorder.attempts waited.2.2) ∨
      (waited.2.1.worker = .dead [] ∧ submitted.2.1.worker = .absent ∧
        recorder.attempts submitted.2.2 =
          recorder.attempts waited.2.2 ++ [⟨job, submitted.2.1.finished⟩])
  /-- Outcomes were handed back once each and in order, apart from the one still uncollected; a
  job that ended its thread has none. -/
  handed_back : (recorder.attempts course.state).filterMap Attempt.outcome =
    course.collected ++ course.mover.uncollected
  one_uncollected : course.mover.uncollected.length ≤ 1
  /-- Where the caller is about to receive, a job is queued or running, or an outcome is on its
  way, or the worker is dead; and the receiving comes to an end. -/
  receives : course.mover.inFlight = true → course.mover.finished = none →
    (course.mover.worker.unfinished ≠ [] ∨ course.mover.worker.uncollected ≠ [] ∨
        course.mover.worker = .dead []) ∧
      (course.mover.worker.await runner course.state).1.hasReceipt = true
  /-- After waiting or draining nothing is in flight, unfinished or uncollected. -/
  waited :
    let waited := course.mover.wait runner course.state
    waited.2.1.inFlight = false ∧ waited.2.1.worker.unfinished = [] ∧
      waited.2.1.uncollected = [] ∧ course.mover.drain runner course.state = waited
  /-- When the mover is given up everything that was submitted was started, and at most the
  outcome of the last job was not handed back. -/
  dropped :
    let dropped := course.mover.shutdown runner course.state
    dropped.1.worker = .absent ∧
      (recorder.attempts dropped.2).map Attempt.job = course.submitted ∧
      ∃ uncollected : List O, uncollected.length ≤ 1 ∧
        (recorder.attempts dropped.2).filterMap Attempt.outcome =
          course.collected ++ uncollected

theorem Accounted.free_after_wait (accounted : course.Accounted recorder) :
    ∃ worker : Worker J O, worker.AtRest ∧
      (course.mover.wait runner course.state).2.1 = ⟨false, none, worker⟩ :=
  (Recorder.Accounts.wait accounted).steady.free_of_not_in_flight
    (Recorder.Accounts.wait_not_in_flight accounted)

theorem Accounted.place (accounted : course.Accounted recorder) (job : J) :
    let waited := course.mover.wait runner course.state
    let submitted := course.mover.submit runner job course.state
    (waited.2.1.worker ≠ .dead [] ∧ submitted.2.1.worker = .alive [job] .idle [] ∧
        recorder.attempts submitted.2.2 = recorder.attempts waited.2.2) ∨
      (waited.2.1.worker = .dead [] ∧ submitted.2.1.worker = .absent ∧
        recorder.attempts submitted.2.2 =
          recorder.attempts waited.2.2 ++ [⟨job, submitted.2.1.finished⟩]) := by
  obtain ⟨worker, rest, free⟩ := accounted.free_after_wait
  intro waited submitted
  have split : submitted.2 = waited.2.1.dispatch runner job waited.2.2 := rfl
  rw [free] at split
  by_cases alive : worker = .dead []
  · right
    rw [alive, Mover.dispatch_to_caller] at split
    refine ⟨by rw [free, alive], by rw [split], ?_⟩
    rw [split, recorder.attempts_run, recorder.attempts_pace]
  · left
    rw [Mover.dispatch_to_worker runner job rest alive] at split
    refine ⟨by rw [free]; exact alive, by rw [split], ?_⟩
    rw [split, recorder.attempts_pace]

theorem Accounted.receives (accounted : course.Accounted recorder)
    (inFlight : course.mover.inFlight = true) (unkept : course.mover.finished = none) :
    course.mover.worker.OneJob ∧
      (course.mover.worker.await runner course.state).1.hasReceipt = true := by
  obtain ⟨mover, state, submitted, collected⟩ := course
  obtain ⟨steady, balanced⟩ := accounted
  cases steady with
  | free rest => cases inFlight
  | kept outcome => cases unkept
  | delegated busy =>
      have follows : recorder.Follows submitted collected _ state := ⟨busy, balanced⟩
      exact ⟨busy, follows.await_receipt⟩

theorem Accounted.orderly (accounted : course.Accounted recorder) : course.Orderly recorder where
  one_unfinished := accounted.steady.unfinished_length_le
  rest_before_start := by
    obtain ⟨worker, rest, free⟩ := accounted.free_after_wait
    rw [free]
    exact rest
  started := accounted.balanced.jobs
  place := accounted.place
  handed_back := accounted.balanced.outcomes
  one_uncollected := accounted.steady.uncollected_length_le
  receives := fun inFlight unkept =>
    have receives := accounted.receives inFlight unkept
    ⟨receives.1.promises, receives.2⟩
  waited := by
    obtain ⟨worker, rest, free⟩ := accounted.free_after_wait
    intro waited
    refine ⟨by rw [free], by rw [free]; exact rest.unfinished_nil, ?_, rfl⟩
    rw [free]
    exact rest.uncollected_nil
  dropped := by
    obtain ⟨uncollected, bound, balanced⟩ := Recorder.Accounts.shutdown accounted
    refine ⟨rfl, ?_, uncollected, bound, balanced.outcomes⟩
    rw [← balanced.jobs, List.append_nil]

/-- Whatever the caller does and however the worker's steps fall in between, jobs that may kill
their thread included, a mover keeps one job in flight and starts and reports jobs in order. The
record that says so changes nothing. -/
theorem course_orderly (runner : Runner σ J O) (state : σ) (turns : List (Turn J)) :
    let course := (start (state, [])).play runner.recorded turns
    course.project Prod.fst = (start state).play runner turns ∧
      course.Orderly runner.recorder :=
  ⟨play_project runner.recorded_projects _ turns,
    (play_accounted turns (start_accounted (state, []) trivial rfl)).orderly⟩

end Course

end Footage.Storage
