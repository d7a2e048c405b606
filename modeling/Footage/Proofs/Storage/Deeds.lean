import Footage.Proofs.Storage.Projection
import Footage.Proofs.Storage.Within

/-!
# What storing segments did

A journal keeps, beside the state, every job that was started with the state that it found, and
every deed that others can see: a record offered to the index and a callback told of a failure.
What a job has to do follows from the state that it found, and running jobs does that and no
more, so the deeds of a journal are those of its jobs, one job after the other.
-/

namespace Footage.Storage

open Footage.Clip Footage.Files

set_option autoImplicit false

variable {σ κ : Type}

/-- What storing a segment does for others to see. -/
inductive Deed (κ : Type) where
  | commit (record : Record)
  | notify (callback : κ) (path : String)

def Deed.offered : Deed κ → Option Record
  | .commit record => some record
  | .notify _ _ => none

def Deed.told : Deed κ → Option (κ × String)
  | .commit _ => none
  | .notify callback path => some (callback, path)

structure Start (σ κ : Type) where
  job : MoveJob κ
  state : σ

structure Journal (σ κ : Type) where
  state : σ
  starts : List (Start σ κ) := []
  deeds : List (Deed κ) := []

namespace Journal

def setState (journal : Journal σ κ) (state : σ) : Journal σ κ := { journal with state }

def begin (job : MoveJob κ) (journal : Journal σ κ) : Journal σ κ :=
  { journal with starts := journal.starts ++ [⟨job, journal.state⟩] }

def add (deed : Deed κ) (journal : Journal σ κ) : Journal σ κ :=
  { journal with deeds := journal.deeds ++ [deed] }

theorem state_is_part : IsPart (Journal.state : Journal σ κ → σ)
    fun state journal => journal.setState state where
  get_set := fun _ _ => rfl
  set_get := fun _ => rfl
  set_set := fun _ _ _ => rfl

end Journal

namespace Backend

def logged (backend : Backend σ κ) : Backend (Journal σ κ) κ where
  files := backend.files.within Journal.state fun state journal => journal.setState state
  engineMove := fun source target journal =>
    let (outcome, state) := backend.engineMove source target journal.state
    (outcome, journal.setState state)
  commit := fun record journal =>
    let (reply, state) := backend.commit record journal.state
    (reply, (journal.setState state).add (.commit record))
  notify := fun callback path journal =>
    (journal.setState (backend.notify callback path journal.state)).add (.notify callback path)

def journaled (backend : Backend σ κ) (pace : σ → Nat × σ) :
    Runner (Journal σ κ) (MoveJob κ) MoveOutcome where
  run := fun job journal => job.run backend.logged (journal.begin job)
  pace := fun journal =>
    let (count, state) := pace journal.state
    (count, journal.setState state)

end Backend

def MoveJob.notice (job : MoveJob κ) : Option (κ × String) :=
  job.onFailed.map fun callback => (callback, job.segment.logicalPath)

namespace Start

variable (backend : Backend σ κ) (start : Start σ κ)

/-- The answer of the index, which is asked only if the segment could be moved. -/
def reply : Option CommitReply :=
  match start.job.relocate backend start.state with
  | (.error _, _) => none
  | (.ok (), state) => some (backend.commit start.job.record state).1

/-- The segment could be moved to its place. -/
def relocated : Bool := (start.job.relocate backend start.state).1.isOk

def failed : Bool :=
  match start.reply backend with
  | none | some (.rejected _) => true
  | some .accepted | some .crashed => false

def deeds : List (Deed κ) :=
  let complaint := (start.job.notice.map fun notice => Deed.notify notice.1 notice.2).toList
  match start.reply backend with
  | none => complaint
  | some (.rejected _) => .commit start.job.record :: complaint
  | some .accepted | some .crashed => [.commit start.job.record]

theorem relocated_eq : start.relocated backend = (start.reply backend).isSome := by
  simp only [relocated, reply]
  cases start.job.relocate backend start.state with
  | mk moved after => cases moved <;> rfl

/-- A record is offered once if its segment was moved, and else not at all. -/
theorem deeds_offered :
    (start.deeds backend).filterMap Deed.offered =
      if start.relocated backend then [start.job.record] else [] := by
  have silent : (start.job.notice.map fun notice => Deed.notify notice.1 notice.2).toList.filterMap
      Deed.offered = [] := by
    cases start.job.notice <;> rfl
  rw [relocated_eq]
  cases asked : start.reply backend with
  | none => simpa [deeds, asked] using silent
  | some reply =>
      cases reply with
      | rejected cause => simpa [deeds, asked, Deed.offered] using silent
      | accepted => simp [deeds, asked, Deed.offered]
      | crashed => simp [deeds, asked, Deed.offered]

/-- The callback is told once if moving or committing failed, and else not at all. -/
theorem deeds_told :
    (start.deeds backend).filterMap Deed.told =
      if start.failed backend then start.job.notice.toList else [] := by
  have loud : (start.job.notice.map fun notice => Deed.notify notice.1 notice.2).toList.filterMap
      Deed.told = start.job.notice.toList := by
    cases start.job.notice <;> rfl
  cases asked : start.reply backend with
  | none => simpa [deeds, failed, asked] using loud
  | some reply =>
      cases reply with
      | rejected cause => simpa [deeds, failed, asked, List.filterMap_cons, Deed.told] using loud
      | accepted => simp [deeds, failed, asked, Deed.told]
      | crashed => simp [deeds, failed, asked, Deed.told]

end Start

section Running

variable (backend : Backend σ κ) (job : MoveJob κ) (journal : Journal σ κ)

theorem relocate_logged :
    job.relocate backend.logged journal =
      Prod.map id journal.setState (job.relocate backend journal.state) :=
  relocate_within Journal.state_is_part backend.files backend.engineMove job.source job.target
    journal job.relocator

theorem notify_failed_logged :
    job.notifyFailed backend.logged journal =
      { journal with
        state := job.notifyFailed backend journal.state
        deeds := journal.deeds ++
          (job.notice.map fun notice => Deed.notify notice.1 notice.2).toList } := by
  simp only [MoveJob.notifyFailed, MoveJob.notice]
  cases job.onFailed with
  | none =>
      rw [Option.map_none, Option.map_none, Option.toList_none, List.append_nil]
  | some callback => rfl

theorem run_logged :
    job.run backend.logged journal =
      ((job.run backend journal.state).1,
        { journal with
          state := (job.run backend journal.state).2
          deeds := journal.deeds ++ Start.deeds backend ⟨job, journal.state⟩ }) := by
  simp only [MoveJob.run, MoveJob.store, relocate_logged, Start.deeds, Start.reply]
  rcases job.relocate backend journal.state with ⟨moved, middle⟩
  cases moved with
  | error cause =>
      simp only [Prod.map_apply, id_eq, notify_failed_logged]
      rfl
  | ok done =>
      have offered : backend.logged.commit job.record (journal.setState middle) =
          ((backend.commit job.record middle).1,
            (journal.setState (backend.commit job.record middle).2).add
              (.commit job.record)) := rfl
      simp only [Prod.map_apply, id_eq, offered]
      rcases backend.commit job.record middle with ⟨reply, after⟩
      cases reply with
      | accepted => rfl
      | crashed => rfl
      | rejected cause =>
          simp only [notify_failed_logged, Journal.add, Journal.setState, List.append_assoc]
          rfl

end Running

namespace Journal

def Faithful (backend : Backend σ κ) (journal : Journal σ κ) : Prop :=
  journal.deeds = journal.starts.flatMap (Start.deeds backend)

variable {backend : Backend σ κ} {journal : Journal σ κ}

/-- Exactly the records of the moved segments were offered, once each and in order. -/
theorem Faithful.offered (faithful : journal.Faithful backend) :
    journal.deeds.filterMap Deed.offered =
      (journal.starts.filter (Start.relocated backend)).map fun start => start.job.record := by
  rw [faithful]
  induction journal.starts with
  | nil => rfl
  | cons start starts ih =>
      rw [List.flatMap_cons, List.filterMap_append, Start.deeds_offered, ih, List.filter_cons]
      cases start.relocated backend <;> rfl

/-- Exactly the callbacks of the failed jobs were told, once each and in order. -/
theorem Faithful.told (faithful : journal.Faithful backend) :
    journal.deeds.filterMap Deed.told =
      (journal.starts.filter (Start.failed backend)).filterMap fun start => start.job.notice := by
  rw [faithful]
  induction journal.starts with
  | nil => rfl
  | cons start starts ih =>
      rw [List.flatMap_cons, List.filterMap_append, Start.deeds_told, ih, List.filter_cons]
      cases start.failed backend with
      | false => rfl
      | true =>
          simp only [if_true, List.filterMap_cons]
          cases start.job.notice <;> rfl

end Journal

namespace Backend

variable (backend : Backend σ κ) (pace : σ → Nat × σ)

theorem journaled_run (job : MoveJob κ) (journal : Journal σ κ) :
    (backend.journaled pace).run job journal =
      ((job.run backend journal.state).1,
        { state := (job.run backend journal.state).2
          starts := journal.starts ++ [⟨job, journal.state⟩]
          deeds := journal.deeds ++ Start.deeds backend ⟨job, journal.state⟩ }) :=
  run_logged backend job (journal.begin job)

def recorder : Recorder (backend.journaled pace) where
  attempts := fun journal =>
    journal.starts.map fun start => ⟨start.job, (start.job.run backend start.state).1⟩
  Intact := Journal.Faithful backend
  attempts_run := fun job journal => by
    rw [journaled_run, List.map_append]
    rfl
  intact_run := fun job journal faithful => by
    rw [journaled_run, Journal.Faithful, List.flatMap_append, ← faithful,
      List.flatMap_singleton]
  attempts_pace := fun _ => rfl
  intact_pace := fun _ faithful => faithful

theorem recorder_jobs (journal : Journal σ κ) :
    ((backend.recorder pace).attempts journal).map Attempt.job = journal.starts.map Start.job := by
  simp only [recorder, List.map_map]
  rfl

theorem journaled_projects :
    Runner.Projects Journal.state (backend.journaled pace) (backend.runner pace) where
  run := fun job journal => by
    rw [journaled_run]
    rfl
  pace := fun _ => rfl

end Backend

end Footage.Storage
