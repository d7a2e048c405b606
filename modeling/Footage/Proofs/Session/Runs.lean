import Footage.Clip.Segment
import Footage.Proofs.Session.Episode

/-!
# Runs grow at their end

One more shot either joins the last run or begins a new one, and accordingly the jobs stay as
they are or grow by the job of the run that has ended. A tracker that observes the shots holds
the segment of the last run all the time.
-/

namespace Footage.Rotation

open Footage.Capture Footage.Clip Footage.Storage

set_option autoImplicit false

variable {κ : Type}

section Splitting

variable {α : Type} {related : α → α → Bool} {items : List α} {groups : List (List α)}
  {group : List α} {item : α}

theorem split_by_concat_related (item : α) (split : items.splitBy related = groups ++ [group])
    (joins : ∀ last ∈ group.getLast?, related last item = true) :
    (items ++ [item]).splitBy related = groups ++ [group ++ [item]] := by
  obtain ⟨flat, nonempty, chains, apart⟩ := List.splitBy_eq_iff.mp split
  rw [List.splitBy_eq_iff]
  refine ⟨by simp [flat], ?_, ?_, ?_⟩
  · intro member
    rcases List.mem_append.mp member with inside | last
    · exact nonempty (List.mem_append_left _ inside)
    · simp at last
  · intro each member
    rcases List.mem_append.mp member with inside | last
    · exact chains each (List.mem_append_left _ inside)
    · rw [List.mem_singleton.mp last]
      refine List.IsChain.append (chains group (by simp)) (List.isChain_singleton item) ?_
      intro before isLast after isHead
      rw [List.head?_singleton, Option.mem_some_iff] at isHead
      exact isHead ▸ joins before isLast
  · have groupNonempty : group ≠ [] := fun empty => nonempty (by simp [empty])
    rw [List.isChain_append] at apart ⊢
    refine ⟨apart.1, List.isChain_singleton _, ?_⟩
    intro before isLast after isHead
    rw [List.head?_singleton, Option.mem_some_iff] at isHead
    obtain ⟨beforeNonempty, _, differs⟩ := apart.2.2 before isLast group (by simp)
    subst isHead
    exact ⟨beforeNonempty, by simp, by rwa [List.head_append_of_ne_nil groupNonempty]⟩

end Splitting

section Growing

variable {taken : List (Shot κ)} {earlier : List (Run κ)} {run next : Run κ} {shot : Shot κ}

theorem of_shots_concat (shot : Shot κ) {group : List (Shot κ)}
    (made : Run.ofShots? group = some run) :
    group.getLast? = some run.last ∧
      Run.ofShots? (group ++ [shot]) = some { run with last := shot } := by
  cases group with
  | nil => cases made
  | cons first later =>
      cases made
      simp [Run.ofShots?, List.getLast?_cons]

theorem runs_split (split : runs taken = earlier ++ [run]) :
    ∃ groups group, taken.splitBy Shot.sameFile = groups ++ [group] ∧
      groups.filterMap Run.ofShots? = earlier ∧ Run.ofShots? group = some run := by
  rcases List.eq_nil_or_concat (taken.splitBy Shot.sameFile) with empty | ⟨groups, group, parts⟩
  · simp [runs, empty] at split
  · rw [List.concat_eq_append] at parts
    refine ⟨groups, group, parts, ?_⟩
    cases group with
    | nil => exact absurd (parts ▸ by simp) (List.nil_notMem_splitBy Shot.sameFile taken)
    | cons first later =>
        rw [runs, parts, List.filterMap_append] at split
        simpa [Run.ofShots?] using List.append_inj' split rfl

theorem shots_nil (split : runs taken = []) : taken = [] := by
  rcases List.eq_nil_or_concat (taken.splitBy Shot.sameFile) with empty | ⟨groups, group, parts⟩
  · exact List.splitBy_eq_nil.mp empty
  · rw [List.concat_eq_append] at parts
    cases group with
    | nil => exact absurd (parts ▸ by simp) (List.nil_notMem_splitBy Shot.sameFile taken)
    | cons first later => simp [runs, parts, Run.ofShots?] at split

theorem last_shot_of_runs (split : runs taken = earlier ++ [run]) :
    taken.getLast? = some run.last := by
  obtain ⟨groups, group, parts, -, made⟩ := runs_split split
  have last := (of_shots_concat run.last made).1
  rw [← List.flatten_splitBy Shot.sameFile taken, parts, List.flatten_append]
  simp [List.getLast?_append, last]

theorem runs_extend (split : runs taken = earlier ++ [run])
    (same : run.last.fileName = shot.fileName) :
    runs (taken ++ [shot]) = earlier ++ [{ run with last := shot }] := by
  obtain ⟨groups, group, parts, rfl, made⟩ := runs_split split
  have joined := split_by_concat_related shot parts (by
    intro last isLast
    rw [(of_shots_concat shot made).1, Option.mem_some_iff] at isLast
    simp [Shot.sameFile, ← isLast, same])
  rw [runs, joined, List.filterMap_append]
  simp [(of_shots_concat shot made).2]

theorem runs_begin (taken : List (Shot κ)) (shot : Shot κ)
    (differs : ∀ last ∈ taken.getLast?, last.fileName ≠ shot.fileName) :
    runs (taken ++ [shot]) = runs taken ++ [⟨shot, shot⟩] := by
  have apart := List.splitBy_append_cons (r := Shot.sameFile) (a := shot) [] (l := taken) (by
    intro last isLast
    simpa [Shot.sameFile] using differs last isLast)
  rw [runs, apart, List.filterMap_append]
  rfl

end Growing

section Jobs

variable (station : Station) (before : Option (Run κ)) (earlier : List (Run κ))
  (run next : Run κ)

theorem last_run_cons (first : Run κ) :
    (first :: earlier).getLast?.or before = earlier.getLast?.or (some first) := by
  rw [List.getLast?_cons]
  cases earlier.getLast? <;> rfl

theorem jobs_append (ending : Option (Ending κ)) (later : List (Run κ)) :
    jobs station ending before (earlier ++ run :: later) =
      jobs station none before (earlier ++ [run]) ++
        jobs station ending (earlier.getLast?.or before) (run :: later) := by
  induction earlier generalizing before with
  | nil => rfl
  | cons first rest ih =>
      have tail := ih (some first)
      rw [last_run_cons]
      cases rest with
      | nil => exact congrArg (first.job station before run.first.ending :: ·) tail
      | cons second rest =>
          exact congrArg (first.job station before second.first.ending :: ·) tail

theorem jobs_begin :
    jobs station none before (earlier ++ [run] ++ [next]) =
      jobs station none before (earlier ++ [run]) ++
        [run.job station (earlier.getLast?.or before) next.first.ending] := by
  rw [List.append_assoc]
  exact jobs_append station before earlier run none [next]

theorem jobs_close (ending : Ending κ) :
    jobs station (some ending) before (earlier ++ [run]) =
      jobs station none before (earlier ++ [run]) ++
        [run.job station (earlier.getLast?.or before) ending] :=
  jobs_append station before earlier run (some ending) []

theorem jobs_extend (shot : Shot κ) :
    jobs station none before (earlier ++ [{ run with last := shot }]) =
      jobs station none before (earlier ++ [run]) := by
  induction earlier generalizing before with
  | nil => rfl
  | cons first rest ih =>
      have tail := ih (some first)
      cases rest with
      | nil => rfl
      | cons second rest =>
          exact congrArg (first.job station before second.first.ending :: ·) tail

theorem length_jobs_ended (ending : Ending κ) (all : List (Run κ)) :
    (jobs station (some ending) before all).length = all.length := by
  induction all generalizing before with
  | nil => rfl
  | cons first rest ih =>
      cases rest with
      | nil => rfl
      | cons second rest => exact congrArg (· + 1) (ih (some first))

theorem length_jobs_unended (all : List (Run κ)) :
    (jobs station none before all).length = all.length - 1 := by
  induction all generalizing before with
  | nil => rfl
  | cons first rest ih =>
      cases rest with
      | nil => rfl
      | cons second rest => exact congrArg (· + 1) (ih (some first))

end Jobs

section Following

/-- What a tracker holds after the runs: the segment of the last of them. -/
inductive Tracks (station : Station) : List (Run κ) → Option Segment → Prop where
  | nothing : Tracks station [] none
  | segment (earlier : List (Run κ)) (run : Run κ)
      (same : run.last.fileName = run.first.fileName) :
      Tracks station (earlier ++ [run]) (some (run.segment station earlier.getLast?))

variable {station : Station} {taken : List (Shot κ)} {current : Option Segment}

/-- Observing one more shot, the tracker holds the segment of the last run again. Either no
segment has ended and there is no new job, or the new job is that of the segment that has. -/
theorem Tracks.observe (tracks : Tracks station (runs taken) current) (shot : Shot κ) :
    let observed := Tracker.observe ⟨station.location, current⟩ shot.fileName shot.ms
    let before := jobs station none none (runs taken)
    let after := jobs station none none (runs (taken ++ [shot]))
    observed.2.location = station.location ∧
      Tracks station (runs (taken ++ [shot])) observed.2.current ∧
      (observed.1 = none ∧ after = before ∨
        ∃ previous run, observed.1 = some (Run.segment station previous run) ∧
          after = before ++ [run.job station previous shot.ending]) := by
  generalize split : runs taken = all at tracks
  cases tracks with
  | nothing =>
      have begins : runs (taken ++ [shot]) = [⟨shot, shot⟩] := by
        rw [shots_nil split]
        rfl
      rw [begins]
      exact ⟨rfl, .segment [] ⟨shot, shot⟩ rfl, .inl ⟨rfl, rfl⟩⟩
  | segment earlier run same =>
      by_cases joins : run.first.fileName = shot.fileName
      · have observed : Tracker.observe ⟨station.location, some (run.segment station
            earlier.getLast?)⟩ shot.fileName shot.ms =
            (none, ⟨station.location, some ({ run with last := shot }.segment station
              earlier.getLast?)⟩) := by
          simp only [Tracker.observe, Run.segment, joins, if_true]
        rw [runs_extend split (same.trans joins), observed]
        exact ⟨rfl, .segment earlier _ joins.symm,
          .inl ⟨rfl, jobs_extend station none earlier run shot⟩⟩
      · have observed : Tracker.observe ⟨station.location, some (run.segment station
            earlier.getLast?)⟩ shot.fileName shot.ms =
            (some (run.segment station earlier.getLast?), ⟨station.location,
              some (Run.segment station (some run) ⟨shot, shot⟩)⟩) := by
          simp only [Tracker.observe, Run.segment, joins, if_false]
          rfl
        have begins := runs_begin taken shot (by
          intro last isLast
          rw [last_shot_of_runs split, Option.mem_some_iff] at isLast
          rwa [← isLast, same])
        have tracks : Tracks station (earlier ++ [run] ++ [⟨shot, shot⟩]) _ :=
          .segment (earlier ++ [run]) ⟨shot, shot⟩ rfl
        rw [List.getLast?_concat] at tracks
        rw [begins, split, jobs_begin, observed, Option.or_none]
        exact ⟨rfl, tracks, .inr ⟨earlier.getLast?, run, rfl, rfl⟩⟩

/-- Ending the last run: without a segment in progress there is no new job, and otherwise the new
job is that of the segment. -/
theorem Tracks.close {all : List (Run κ)} (tracks : Tracks station all current)
    (ending : Ending κ) :
    current = none ∧ jobs station (some ending) none all = jobs station none none all ∨
      ∃ previous run, current = some (Run.segment station previous run) ∧
        jobs station (some ending) none all =
          jobs station none none all ++ [run.job station previous ending] := by
  cases tracks with
  | nothing => exact .inl ⟨rfl, rfl⟩
  | segment earlier run same =>
      rw [jobs_close, Option.or_none]
      exact .inr ⟨earlier.getLast?, run, rfl, rfl⟩

end Following

end Footage.Rotation
