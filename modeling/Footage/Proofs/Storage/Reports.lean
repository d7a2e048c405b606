import Footage.Proofs.Files.Safekeeping
import Footage.Proofs.Storage.Deeds
import Footage.Proofs.Storage.Targets
import Footage.Proofs.Storage.Within

/-!
# Where a report of a failure finds the recording

A callback is told of a segment that could not be stored, and what it is told can be noted with
the state of that moment. A segment that could not be moved is still where it was recorded. One
that only the index rejected is in its place in storage, where its name is in lower case; the
report has the name as the engine gave it, so it leads there only if that is lower case already.
-/

namespace Footage.Place

set_option autoImplicit false

/-- Two paths that are both absolute or both relative meet below a base only if they are equal. -/
theorem join_inj {base path later : String} (kind : isAbsolute path = isAbsolute later) :
    join base path = join base later ↔ path = later := by
  cases absolute : isAbsolute later with
  | true => rw [join_absolute base (kind.trans absolute), join_absolute base absolute]
  | false =>
      rw [join_relative base (kind.trans absolute), join_relative base absolute,
        String.append_right_inj]

end Footage.Place

namespace Footage.Storage

open Footage.Clip Footage.Files Footage.Place

set_option autoImplicit false

variable {σ κ φ α : Type}

structure Report (σ κ : Type) where
  callback : κ
  path : String
  moment : σ

def Backend.reporting (backend : Backend σ κ) : Backend (σ × List (Report σ κ)) κ where
  files := backend.files.within Prod.fst setFirst
  engineMove := backend.engineMove.within Prod.fst setFirst
  commit := fun record whole =>
    let (reply, state) := backend.commit record whole.1
    (reply, setFirst state whole)
  notify := fun callback path (state, reports) =>
    (backend.notify callback path state, reports ++ [⟨callback, path, state⟩])

namespace MoveJob

variable (backend : Backend σ κ) (job : MoveJob κ) (state moved : σ)

def reports : List (Report σ κ) := (job.run backend.reporting (state, [])).2.2

def complaint (moment : σ) : List (Report σ κ) :=
  (job.notice.map fun notice => ⟨notice.1, notice.2, moment⟩).toList

theorem relocate_reporting (notes : List (Report σ κ)) :
    job.relocate backend.reporting (state, notes) =
      Prod.map id (·, notes) (job.relocate backend state) :=
  relocate_within first_is_part backend.files backend.engineMove job.source job.target
    (state, notes) job.relocator

theorem notify_failed_reporting (notes : List (Report σ κ)) :
    job.notifyFailed backend.reporting (state, notes) =
      (job.notifyFailed backend state, notes ++ job.complaint state) := by
  unfold notifyFailed complaint notice
  cases job.onFailed with
  | none => exact congrArg (Prod.mk state) (List.append_nil notes).symm
  | some callback => rfl

variable {backend job state moved} {cause : RelocateError} {report : Report σ κ}

theorem mem_complaint {moment : σ} (member : report ∈ job.complaint moment) :
    report.path = job.segment.logicalPath ∧ report.moment = moment := by
  unfold complaint notice at member
  cases told : job.onFailed with
  | none => simp [told] at member
  | some callback =>
      rw [told] at member
      cases List.mem_singleton.mp member
      exact ⟨rfl, rfl⟩

theorem complaint_told (job : MoveJob κ) (moment : σ) :
    (job.complaint moment).map (fun report => (report.callback, report.path)) =
      job.notice.toList := by
  unfold complaint
  cases job.notice <;> rfl

theorem reports_unmoved (relocates : job.relocate backend state = (.error cause, moved)) :
    job.reports backend state = job.complaint moved := by
  unfold reports run store
  rw [relocate_reporting, relocates]
  simp only [Prod.map_apply, id_eq, notify_failed_reporting, List.nil_append]

theorem reports_moved (relocates : job.relocate backend state = (.ok (), moved)) :
    job.reports backend state =
      match backend.commit job.record moved with
      | (.rejected _, after) => job.complaint after
      | _ => [] := by
  have offered : backend.reporting.commit job.record (moved, []) =
      Prod.map id (·, []) (backend.commit job.record moved) := rfl
  unfold reports run store
  rw [relocate_reporting, relocates]
  simp only [Prod.map_apply, id_eq, offered]
  rcases backend.commit job.record moved with ⟨reply, after⟩
  cases reply with
  | rejected cause => simp only [Prod.map_apply, id_eq, notify_failed_reporting, List.nil_append]
  | _ => rfl

theorem reply_unmoved (relocates : job.relocate backend state = (.error cause, moved)) :
    Start.reply backend ⟨job, state⟩ = none := by
  simp only [Start.reply, relocates]

theorem reply_moved (relocates : job.relocate backend state = (.ok (), moved)) :
    Start.reply backend ⟨job, state⟩ = some (backend.commit job.record moved).1 := by
  simp only [Start.reply, relocates]

/-- The callback of a job is told once if the segment could not be moved or its record was
rejected, and else not at all. -/
theorem reports_told (backend : Backend σ κ) (job : MoveJob κ) (state : σ) :
    (job.reports backend state).map (fun report => (report.callback, report.path)) =
      if Start.failed backend ⟨job, state⟩ then job.notice.toList else [] := by
  rcases relocates : job.relocate backend state with ⟨outcome, moved⟩
  cases outcome with
  | error cause =>
      rw [reports_unmoved relocates, complaint_told, Start.failed, reply_unmoved relocates]
      rfl
  | ok =>
      rw [reports_moved relocates, Start.failed, reply_moved relocates]
      rcases backend.commit job.record moved with ⟨answer, after⟩
      cases answer with
      | rejected reason => exact complaint_told job after
      | accepted => rfl
      | crashed => rfl

/-- A report is made when the segment could not be moved, or after its record was rejected. -/
theorem mem_reports (member : report ∈ job.reports backend state) :
    report.path = job.segment.logicalPath ∧
      ((∃ cause, job.relocate backend state = (.error cause, report.moment)) ∨
        ∃ moved reason, job.relocate backend state = (.ok (), moved) ∧
          backend.commit job.record moved = (.rejected reason, report.moment)) := by
  rcases relocates : job.relocate backend state with ⟨outcome, moved⟩
  cases outcome with
  | error cause =>
      rw [reports_unmoved relocates] at member
      obtain ⟨path, moment⟩ := mem_complaint member
      exact ⟨path, .inl ⟨cause, by rw [moment]⟩⟩
  | ok =>
      rw [reports_moved relocates] at member
      rcases commits : backend.commit job.record moved with ⟨answer, after⟩
      rw [commits] at member
      cases answer with
      | rejected reason =>
          obtain ⟨path, moment⟩ := mem_complaint member
          exact ⟨path, .inr ⟨moved, reason, rfl, by rw [moment, commits]⟩⟩
      | accepted => exact absurd member List.not_mem_nil
      | crashed => exact absurd member List.not_mem_nil

/-- The place that a report names is the one that the segment is moved to exactly when the name of
its file is in lower case. -/
theorem target_eq_reported (job : MoveJob κ) :
    job.target = join job.storageDir job.segment.logicalPath ↔
      Text.lower job.segment.fileName = job.segment.fileName := by
  have filled : job.segment.dir ++ "/" ≠ "" := by
    intro empty
    have characters := congrArg String.toList empty
    simp [to_list_slash] at characters
  have kind : isAbsolute job.segment.storagePath = isAbsolute job.segment.logicalPath := by
    rw [Segment.storagePath, Segment.logicalPath, is_absolute_append _ _ filled,
      is_absolute_append _ _ filled]
  rw [target, join_inj kind, Segment.storagePath, Segment.logicalPath, String.append_right_inj]

section Recording

variable {view : View σ φ α} {recording : α} (documented : view.Documented backend.files)
  (oneName : view.OneName backend.files job.source job.target)
  (moves : job.relocator = .filesystem)
  (recorded : view.content state (view.file job.source) = some recording)

include documented oneName moves recorded

theorem unmoved_recording (relocates : job.relocate backend state = (.error cause, moved)) :
    view.content moved (view.file job.source) = some recording := by
  have relocating : Relocator.filesystem.relocate backend.files backend.engineMove job.source
      job.target state = (.error cause, moved) := moves ▸ relocates
  obtain ⟨-, still | ⟨crossed, written⟩⟩ := documented.relocate_keeps oneName relocating
  · exact (still.all _).trans recorded
  · exact (written.kept (oneName _ crossed)).trans recorded

theorem moved_recording (relocates : job.relocate backend state = (.ok (), moved)) :
    view.content moved (view.file job.target) = some recording := by
  have relocating : Relocator.filesystem.relocate backend.files backend.engineMove job.source
      job.target state = (.ok (), moved) := moves ▸ relocates
  exact (documented.relocate_moves oneName relocating).there.trans recorded

end Recording

/-- A callback is told of a segment exactly when it could not be moved or its record was rejected.
The recording is then where it was recorded, or else at its place in storage, which is where the
report leads if and only if the name of the file is in lower case. -/
theorem report_locates_recording {view : View σ φ α} (documented : view.Documented backend.files)
    (oneName : view.OneName backend.files job.source job.target)
    (elsewhere : ∀ before, view.content (backend.commit job.record before).2
      (view.file job.target) = view.content before (view.file job.target))
    (moves : job.relocator = .filesystem) {recording : α}
    (recorded : view.content state (view.file job.source) = some recording) :
    let start : Start σ κ := ⟨job, state⟩
    (job.reports backend state).map (fun report => (report.callback, report.path)) =
        (if start.failed backend then job.notice.toList else []) ∧
      ∀ report ∈ job.reports backend state, report.path = job.segment.logicalPath ∧
        (start.relocated backend = false ∧
            view.content report.moment (view.file (join job.recordDir job.segment.fileName)) =
              some recording ∨
          (∃ reason, start.reply backend = some (.rejected reason)) ∧
            view.content report.moment
                (view.file (join job.storageDir job.segment.storagePath)) = some recording ∧
            (join job.storageDir job.segment.storagePath = join job.storageDir report.path ↔
              Text.lower job.segment.fileName = job.segment.fileName)) := by
  intro start
  refine ⟨reports_told backend job state, fun report member => ?_⟩
  obtain ⟨path, ⟨cause, relocates⟩ | ⟨moved, reason, relocates, rejects⟩⟩ := mem_reports member
  · have unmoved : start.relocated backend = false := by
      rw [Start.relocated_eq, reply_unmoved relocates]
      rfl
    exact ⟨path, .inl ⟨unmoved, unmoved_recording documented oneName moves recorded relocates⟩⟩
  · have reply : start.reply backend = some (.rejected reason) := by
      rw [reply_moved relocates, rejects]
    have kept := elsewhere moved
    rw [rejects] at kept
    have there := moved_recording documented oneName moves recorded relocates
    exact ⟨path, .inr ⟨⟨reason, reply⟩, kept.trans there, path ▸ target_eq_reported job⟩⟩

end MoveJob

/-- A frail disk with an index that rejects every record, and a callback that does nothing. -/
def rejecting : Backend (FrailDisk String) String where
  files := FrailDisk.system
  engineMove := fun _ _ disk => (.ok (), disk)
  commit := fun _ disk => (.rejected (.unavailable "read-only"), disk)
  notify := fun _ _ disk => disk

def firstOfYard (fileName : String) : MoveJob String where
  segment := .start "yard" fileName 0 ""
  recordDir := "rec"
  storageDir := "store"
  relocator := .filesystem
  onFailed := some "keeper"

def recordedAs (fileName : String) : FrailDisk String where
  held := fun path => if path = "rec/" ++ fileName then some "frames" else none

namespace MoveJob

/-- A segment with a name in lower case that was copied to another device: the report leads to
it. -/
theorem report_locates_recording_late :
    let view : View (FrailDisk String) String String := FrailDisk.view
    let disk := { recordedAs "late.mp4" with fates := [.works, .fails .crossDevice none] }
    let job := firstOfYard "late.mp4"
    view.Documented rejecting.files ∧ view.OneName rejecting.files job.source job.target ∧
      view.content disk (view.file job.source) = some "frames" ∧
      (job.reports rejecting disk).length = 1 ∧
      ∀ report ∈ job.reports rejecting disk,
        view.content report.moment (view.file (join job.storageDir report.path)) =
          some "frames" := by
  intro view disk job
  have documented : view.Documented rejecting.files := FrailDisk.documented
  have oneName : view.OneName rejecting.files job.source job.target :=
    fun _ _ => by decide +kernel
  have recorded : view.content disk (view.file job.source) = some "frames" := by decide +kernel
  have located := report_locates_recording documented oneName (fun _ => rfl) rfl recorded
  refine ⟨documented, oneName, recorded, by decide +kernel, fun report member => ?_⟩
  obtain ⟨-, ⟨unmoved, -⟩ | ⟨-, there, leads⟩⟩ := located.2 report member
  · exact absurd unmoved (by decide +kernel)
  · rw [← leads.mpr (by decide +kernel)]
    exact there

/-- With a capital in the name the recording is neither where it was nor where the report leads. -/
theorem report_misses_recording :
    let disk := recordedAs "Late.mp4"
    let job := firstOfYard "Late.mp4"
    disk.held job.source = some "frames" ∧
      Start.reply rejecting ⟨job, disk⟩ = some (.rejected (.unavailable "read-only")) ∧
      (job.reports rejecting disk).map (fun report =>
          (report.path, report.moment.held (join job.recordDir job.segment.fileName),
            report.moment.held (join job.storageDir report.path),
            report.moment.held "store/yard/late./late.mp4")) =
        [("yard/late./Late.mp4", none, none, some "frames")] := by
  decide +kernel

end MoveJob

end Footage.Storage
