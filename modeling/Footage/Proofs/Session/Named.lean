import Footage.Proofs.Session.Runs

/-!
# What runs and jobs tell of the frames

The shots of an episode are its frames with a file name. The runs begin and end at shots of one
file and no name gets lost among them, and the jobs of a stream that was closed name the files and
the ends of its runs.
-/

namespace Footage.Capture

set_option autoImplicit false

/-- The engine wrote the frame into a file. -/
def CapturedFrame.isNamed (captured : CapturedFrame) : Bool := !captured.fileName.isEmpty

end Footage.Capture

namespace Footage.Rotation

open Footage.Capture Footage.Clip Footage.Storage

set_option autoImplicit false

variable {κ : Type}

section Runs

variable {taken : List (Shot κ)} {run : Run κ}

/-- Induction on the shots: one more lengthens the last run or begins a run of its own. -/
theorem runs_induction {motive : List (Shot κ) → List (Run κ) → Prop} (nil : motive [] [])
    (extend : ∀ taken shot earlier run, runs taken = earlier ++ [run] →
      run.last.fileName = shot.fileName → motive taken (earlier ++ [run]) →
      motive (taken ++ [shot]) (earlier ++ [{ run with last := shot }]))
    (begins : ∀ taken shot, motive taken (runs taken) →
      motive (taken ++ [shot]) (runs taken ++ [⟨shot, shot⟩]))
    (taken : List (Shot κ)) : motive taken (runs taken) := by
  induction taken using List.reverseRecOn with
  | nil => exact nil
  | append_singleton taken shot ih =>
      rcases List.eq_nil_or_concat (runs taken) with none | ⟨earlier, run, split⟩
      · rw [runs_begin taken shot (by simp [shots_nil none])]
        exact begins taken shot ih
      · rw [List.concat_eq_append] at split
        by_cases same : run.last.fileName = shot.fileName
        · rw [runs_extend split same]
          rw [split] at ih
          exact extend taken shot earlier run split same ih
        · rw [runs_begin taken shot (by simpa [last_shot_of_runs split] using same)]
          exact begins taken shot ih

structure Run.Within (taken : List (Shot κ)) (run : Run κ) : Prop where
  first : run.first ∈ taken
  last : run.last ∈ taken
  same : run.first.fileName = run.last.fileName

theorem Run.Within.later (within : run.Within taken) (shot : Shot κ) :
    run.Within (taken ++ [shot]) where
  first := List.mem_append_left _ within.first
  last := List.mem_append_left _ within.last
  same := within.same

theorem run_within (taken : List (Shot κ)) : ∀ run ∈ runs taken, run.Within taken := by
  apply runs_induction (motive := fun taken all => ∀ run ∈ all, run.Within taken)
  case nil => exact fun _ member => nomatch member
  case extend =>
    intro taken shot earlier before _ same ih
    rw [List.forall_mem_append, List.forall_mem_singleton] at ih ⊢
    exact ⟨fun run inside => (ih.1 run inside).later shot,
      (ih.2.later shot).first, by simp, ih.2.same.trans same⟩
  case begins =>
    intro taken shot ih
    rw [List.forall_mem_append, List.forall_mem_singleton]
    exact ⟨fun run inside => (ih run inside).later shot, by simp, by simp, rfl⟩

theorem shot_in_run (taken : List (Shot κ)) :
    ∀ shot ∈ taken, shot.fileName ∈ (runs taken).map fun run => run.first.fileName := by
  apply runs_induction (motive := fun taken all =>
    ∀ shot ∈ taken, shot.fileName ∈ all.map fun run => run.first.fileName)
  case nil => exact fun _ member => nomatch member
  case extend =>
    intro taken shot earlier run split same ih
    have within := run_within taken run (by simp [split])
    rw [List.map_append] at ih ⊢
    rw [List.forall_mem_append, List.forall_mem_singleton]
    refine ⟨ih, ?_⟩
    rw [← same, ← within.same]
    simp
  case begins =>
    intro taken shot ih
    rw [List.map_append, List.forall_mem_append, List.forall_mem_singleton]
    exact ⟨fun other inside => List.mem_append_left _ (ih other inside), by simp⟩

theorem last_run_last (taken : List (Shot κ)) :
    (runs taken).getLast?.map Run.last = taken.getLast? := by
  rcases List.eq_nil_or_concat (runs taken) with none | ⟨earlier, run, split⟩
  · rw [none, shots_nil none]
    rfl
  · rw [List.concat_eq_append] at split
    rw [split, last_shot_of_runs split, List.getLast?_concat, Option.map_some]

end Runs

section Jobs

variable {station : Station} {job : MoveJob κ}

/-- What of a job does not depend on the ending of its run, for all runs of a closed stream. -/
theorem jobs_map {β : Type} (ofJob : MoveJob κ → β) (ofRun : Run κ → β)
    (same : ∀ (run : Run κ) before ending, ofJob (run.job station before ending) = ofRun run)
    (ending : Ending κ) (before : Option (Run κ)) (all : List (Run κ)) :
    (jobs station (some ending) before all).map ofJob = all.map ofRun := by
  induction all generalizing before with
  | nil => rfl
  | cons run later ih =>
      cases later with
      | nil => simp [jobs, same]
      | cons next later =>
          rw [jobs, List.map_cons, same, ih]
          rfl

theorem job_of_run (ending : Option (Ending κ)) (before : Option (Run κ)) (all : List (Run κ))
    (member : job ∈ jobs station ending before all) :
    ∃ run ∈ all, ∃ previous ending, job = run.job station previous ending := by
  induction all generalizing before with
  | nil => cases member
  | cons run later ih =>
      cases later with
      | nil =>
          cases ending with
          | none => cases member
          | some ending =>
              have only : job = run.job station before ending := by simpa [jobs] using member
              exact ⟨run, by simp, before, ending, only⟩
      | cons next later =>
          rw [jobs, List.mem_cons] at member
          rcases member with this | other
          · exact ⟨run, by simp, before, next.first.ending, this⟩
          · obtain ⟨found, inside, rest⟩ := ih (some run) other
            exact ⟨found, List.mem_cons_of_mem _ inside, rest⟩

end Jobs

theorem Episode.mem_recorded_runs {episode : Episode κ} {run : Run κ} :
    run ∈ episode.recordedRuns ↔ episode.recording = true ∧ run ∈ episode.runs := by
  unfold Episode.recordedRuns
  split
  case isTrue recorded => simp [recorded]
  case isFalse unrecorded => simp [unrecorded]

section Shots

theorem shots_frames (known : Option Size) (moments : List (Moment κ)) :
    (shots known moments).map (fun shot => (shot.fileName, shot.ms)) =
      ((moments.filterMap Moment.captured).filter CapturedFrame.isNamed).map
        fun captured => (captured.fileName, captured.frame.ms) := by
  induction moments generalizing known with
  | nil => rfl
  | cons moment later ih =>
      rw [shots, List.map_append, ih, List.filterMap_cons]
      cases found : moment.captured with
      | none => simp [Moment.shot?, found]
      | some captured =>
          cases named : captured.fileName.isEmpty <;>
            simp [Moment.shot?, found, named, CapturedFrame.isNamed]

theorem shot_named (known : Option Size) (moments : List (Moment κ)) :
    ∀ shot ∈ shots known moments, shot.fileName ≠ "" := by
  intro shot member
  have told : (shot.fileName, shot.ms) ∈
      (shots known moments).map fun shot => (shot.fileName, shot.ms) :=
    List.mem_map_of_mem member
  rw [shots_frames, List.mem_map] at told
  obtain ⟨captured, found, same⟩ := told
  rw [List.mem_filter] at found
  have name : captured.fileName = shot.fileName := congrArg Prod.fst same
  rw [← name]
  simpa [CapturedFrame.isNamed] using found.2

end Shots

end Footage.Rotation
