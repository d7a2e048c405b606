import Footage.Storage.Relocation
import Mathlib.Data.List.Basic

/-!
# A file is moved whole or not at all

Files are a map from what paths name to what is held there. Renaming moves a file at once or
changes nothing; copying may leave anything at its target when it fails; removing fails without
effect. Moving a file is made of these, and whichever of them fail, one whole copy is left: at the
target after a success, at the source after a failure.
-/

namespace Footage.Files

open Footage.Storage

set_option autoImplicit false

variable {σ φ α : Type}

section Course

variable {files : FileSystem σ} {engineMove : EngineMove σ} {source target : String}
  {state after : σ} {outcome : Except FileError Unit} {failure : RelocateError}

/-- Moving a file is answered by the renaming, or between devices by a copying that failed or else
by the removing. -/
theorem move_file_cases (moves : files.moveFile source target state = (outcome, after)) :
    files.rename source target state = (outcome, after) ∨
      ∃ first, files.rename source target state = (.error .crossDevice, first) ∧
        ((∃ cause, outcome = .error cause ∧
            files.copy source target first = (.error cause, after)) ∨
          ∃ second, files.copy source target first = (.ok (), second) ∧
            files.remove source second = (outcome, after)) := by
  unfold FileSystem.moveFile at moves
  split at moves
  · rename_i first crossed
    refine .inr ⟨first, crossed, ?_⟩
    split at moves
    · rename_i second copied
      exact .inr ⟨second, copied, moves⟩
    · rename_i cause last copied
      cases moves
      exact .inl ⟨cause, rfl, copied⟩
  · exact .inl moves

theorem relocate_done
    (done : Relocator.filesystem.relocate files engineMove source target state =
      (.ok (), after)) :
    files.moveFile source target (makeParent files target state) = (.ok (), after) := by
  unfold Relocator.relocate at done
  rcases moved : files.moveFile source target (makeParent files target state) with ⟨answer, last⟩
  simp only [moved] at done
  cases answer with
  | error cause => cases done
  | ok =>
      cases done
      rfl

theorem relocate_failed
    (failed : Relocator.filesystem.relocate files engineMove source target state =
      (.error failure, after)) :
    ∃ cause, failure = .move source target cause ∧
      files.moveFile source target (makeParent files target state) = (.error cause, after) := by
  unfold Relocator.relocate at failed
  rcases moved : files.moveFile source target (makeParent files target state) with ⟨answer, last⟩
  simp only [moved] at failed
  cases answer with
  | ok => cases failed
  | error cause =>
      cases failed
      exact ⟨cause, rfl, rfl⟩

end Course

structure View (σ φ α : Type) where
  file : String → φ
  content : σ → φ → Option α

namespace View

variable (view : View σ φ α)

def Spares (touched : List φ) (before after : σ) : Prop :=
  ∀ file, file ∉ touched → view.content after file = view.content before file

structure Moved (source target : String) (before after : σ) : Prop where
  filled : (view.content before (view.file source)).isSome
  there : view.content after (view.file target) = view.content before (view.file source)
  gone : view.file source ≠ view.file target → view.content after (view.file source) = none
  spares : view.Spares [view.file source, view.file target] before after

/-- What is documented of the operations, whatever makes them fail. -/
structure Documented (files : FileSystem σ) : Prop where
  make_dirs : ∀ dir state, view.Spares [] state (files.makeDirs dir state).2
  rename_done : ∀ {source target : String} {before after : σ},
    files.rename source target before = (.ok (), after) → view.Moved source target before after
  rename_failed : ∀ {source target : String} {before after : σ} {cause : FileError},
    files.rename source target before = (.error cause, after) → view.Spares [] before after
  copy_done : ∀ {source target : String} {before after : σ},
    view.file source ≠ view.file target → files.copy source target before = (.ok (), after) →
      (view.content before (view.file source)).isSome ∧
        view.content after (view.file target) = view.content before (view.file source) ∧
        view.Spares [view.file target] before after
  copy_failed : ∀ {source target : String} {before after : σ} {cause : FileError},
    files.copy source target before = (.error cause, after) →
      view.Spares [view.file target] before after
  remove_done : ∀ {path : String} {before after : σ},
    files.remove path before = (.ok (), after) →
      view.content after (view.file path) = none ∧ view.Spares [view.file path] before after
  remove_failed : ∀ {path : String} {before after : σ} {cause : FileError},
    files.remove path before = (.error cause, after) → view.Spares [] before after

/-- A path on another device does not name the file itself. -/
def OneName (files : FileSystem σ) (source target : String) : Prop :=
  ∀ state, (files.rename source target state).1 = .error .crossDevice →
    view.file source ≠ view.file target

variable {view} {files : FileSystem σ} {engineMove : EngineMove σ}
  {touched more : List φ} {source target : String} {before middle after : σ}
  {failure : RelocateError} {cause : FileError}

theorem Spares.refl (state : σ) : view.Spares touched state state := fun _ _ => rfl

theorem Spares.mono (spares : view.Spares touched before after) (within : touched ⊆ more) :
    view.Spares more before after :=
  fun file outside => spares file fun inside => outside (within inside)

theorem Spares.trans (first : view.Spares touched before middle)
    (second : view.Spares touched middle after) : view.Spares touched before after :=
  fun file outside => (second file outside).trans (first file outside)

theorem Spares.all (spares : view.Spares [] before after) (file : φ) :
    view.content after file = view.content before file :=
  spares file List.not_mem_nil

theorem Spares.kept (spares : view.Spares [view.file target] before after)
    (apart : view.file source ≠ view.file target) :
    view.content after (view.file source) = view.content before (view.file source) :=
  spares _ (by simpa using apart)

theorem Moved.later (spares : view.Spares [] before middle)
    (moved : view.Moved source target middle after) : view.Moved source target before after where
  filled := spares.all (view.file source) ▸ moved.filled
  there := moved.there.trans (spares.all _)
  gone := moved.gone
  spares := (spares.mono (List.nil_subset _)).trans moved.spares

namespace Documented

variable (documented : view.Documented files)

include documented

theorem copy_remove_moves (apart : view.file source ≠ view.file target)
    (copied : files.copy source target before = (.ok (), middle))
    (removed : files.remove source middle = (.ok (), after)) :
    view.Moved source target before after := by
  obtain ⟨filled, there, others⟩ := documented.copy_done apart copied
  obtain ⟨gone, rest⟩ := documented.remove_done removed
  refine ⟨filled, ?_, fun _ => gone, ?_⟩
  · exact (rest.kept apart.symm).trans there
  · exact (others.mono (by simp)).trans (rest.mono (by simp))

theorem move_file_moves
    (oneName : (files.rename source target before).1 = .error .crossDevice →
      view.file source ≠ view.file target)
    (done : files.moveFile source target before = (.ok (), after)) :
    view.Moved source target before after := by
  rcases move_file_cases done with
    renamed | ⟨first, crossed, ⟨cause, impossible, -⟩ | ⟨second, copied, removed⟩⟩
  · exact documented.rename_done renamed
  · cases impossible
  · have apart := oneName (congrArg Prod.fst crossed)
    exact .later (documented.rename_failed crossed)
      (documented.copy_remove_moves apart copied removed)

/-- A failure leaves every file as it is, except that the target may have been written on the way
from one device to another. -/
theorem move_file_keeps
    (oneName : (files.rename source target before).1 = .error .crossDevice →
      view.file source ≠ view.file target)
    (failed : files.moveFile source target before = (.error cause, after)) :
    view.Spares [] before after ∨
      (files.rename source target before).1 = .error .crossDevice ∧
        view.Spares [view.file target] before after := by
  rcases move_file_cases failed with renamed | ⟨first, crossed, broken⟩
  · exact .inl (documented.rename_failed renamed)
  have across := congrArg Prod.fst crossed
  have still := (documented.rename_failed crossed).mono (List.nil_subset [view.file target])
  refine .inr ⟨across, still.trans ?_⟩
  rcases broken with ⟨cause, -, broken⟩ | ⟨second, copied, unremoved⟩
  · exact documented.copy_failed broken
  · have written := (documented.copy_done (oneName across) copied).2.2
    exact written.trans ((documented.remove_failed unremoved).mono (List.nil_subset _))

theorem make_parent_spares (target : String) (state : σ) :
    view.Spares [] state (makeParent files target state) := by
  unfold makeParent
  cases Place.parent? target with
  | some dir => exact documented.make_dirs dir state
  | none => exact Spares.refl state

theorem relocate_moves (oneName : view.OneName files source target)
    (done : Relocator.filesystem.relocate files engineMove source target before =
      (.ok (), after)) :
    view.Moved source target before after := by
  exact .later (documented.make_parent_spares target before)
    (documented.move_file_moves (oneName _) (relocate_done done))

theorem relocate_keeps (oneName : view.OneName files source target)
    (failed : Relocator.filesystem.relocate files engineMove source target before =
      (.error failure, after)) :
    (∃ cause, failure = .move source target cause) ∧
      (view.Spares [] before after ∨
        (files.rename source target (makeParent files target before)).1 = .error .crossDevice ∧
          view.Spares [view.file target] before after) := by
  have prepared := documented.make_parent_spares target before
  obtain ⟨cause, named, unmoved⟩ := relocate_failed failed
  refine ⟨⟨cause, named⟩, ?_⟩
  rcases documented.move_file_keeps (oneName _) unmoved with still | ⟨crossed, written⟩
  · exact .inl (prepared.trans still)
  · exact .inr ⟨crossed, (prepared.mono (List.nil_subset _)).trans written⟩

end Documented

/-- Relocating a file to another one, whatever fails on the way. After a success the source is
gone and the target holds what it held; after a failure the source is as it was. No other file
changes, and the target of a failure only if the two are on different devices. -/
theorem relocation_keeps_recording (documented : view.Documented files)
    (engineMove : EngineMove σ) (apart : view.file source ≠ view.file target) (state : σ) :
    match Relocator.filesystem.relocate files engineMove source target state with
    | (.ok (), after) =>
        (view.content state (view.file source)).isSome ∧
          view.content after (view.file source) = none ∧
          view.content after (view.file target) = view.content state (view.file source) ∧
          ∀ other, other ≠ view.file source → other ≠ view.file target →
            view.content after other = view.content state other
    | (.error failure, after) =>
        (∃ cause, failure = .move source target cause) ∧
          view.content after (view.file source) = view.content state (view.file source) ∧
          (∀ other, other ≠ view.file source → other ≠ view.file target →
            view.content after other = view.content state other) ∧
          (view.content after (view.file target) = view.content state (view.file target) ∨
            (files.rename source target (makeParent files target state)).1 =
              .error .crossDevice) := by
  have oneName : view.OneName files source target := fun _ _ => apart
  rcases relocates : Relocator.filesystem.relocate files engineMove source target state with
    ⟨outcome, after⟩
  cases outcome with
  | ok =>
      have moved := documented.relocate_moves oneName relocates
      exact ⟨moved.filled, moved.gone apart, moved.there,
        fun other notSource notTarget => moved.spares other (by simp [notSource, notTarget])⟩
  | error failure =>
      obtain ⟨cause, still | ⟨crossed, written⟩⟩ := documented.relocate_keeps oneName relocates
      · exact ⟨cause, still.all _, fun other _ _ => still.all other, .inl (still.all _)⟩
      · exact ⟨cause, written.kept apart,
          fun other _ notTarget => written other (by simpa using notTarget), .inr crossed⟩

end View

/-- What becomes of an operation: it works, or it fails and, if it is a copy, leaves something or
nothing at its target. -/
inductive Fate (α : Type) where
  | works
  | fails (cause : FileError) (left : Option α)

/-- Contents by path, and the fates of the operations to come; those after them work. -/
structure FrailDisk (α : Type) where
  held : String → Option α
  fates : List (Fate α) := []

namespace FrailDisk

variable {α : Type}

def fate (disk : FrailDisk α) : Fate α := disk.fates.headD .works

def spent (disk : FrailDisk α) : FrailDisk α := { disk with fates := disk.fates.tail }

def set (path : String) (content : Option α) (disk : FrailDisk α) : FrailDisk α :=
  { disk with held := fun other => if other = path then content else disk.held other }

def attempt (source : String) (disk : FrailDisk α) (work : α → FrailDisk α → FrailDisk α)
    (spoil : Option α → FrailDisk α → FrailDisk α) : Outcome (FrailDisk α) :=
  match disk.fate, disk.held source with
  | .fails cause left, _ => (.error cause, spoil left disk.spent)
  | .works, none => (.error .notFound, disk.spent)
  | .works, some content => (.ok (), work content disk.spent)

def makeDirs (disk : FrailDisk α) : Outcome (FrailDisk α) :=
  match disk.fate with
  | .works => (.ok (), disk.spent)
  | .fails cause _ => (.error cause, disk.spent)

def rename (source target : String) (disk : FrailDisk α) : Outcome (FrailDisk α) :=
  disk.attempt source (fun content disk => (disk.set source none).set target (some content))
    fun _ disk => disk

def copy (source target : String) (disk : FrailDisk α) : Outcome (FrailDisk α) :=
  disk.attempt source (fun content disk => disk.set target (some content))
    fun left disk => disk.set target left

def remove (path : String) (disk : FrailDisk α) : Outcome (FrailDisk α) :=
  disk.attempt path (fun _ disk => disk.set path none) fun _ disk => disk

def system : FileSystem (FrailDisk α) where
  makeDirs := fun _ => makeDirs
  rename := rename
  copy := copy
  remove := remove

def view : View (FrailDisk α) String α where
  file := id
  content := FrailDisk.held

variable {source target : String} {disk after : FrailDisk α} {cause : FileError}
  {work : α → FrailDisk α → FrailDisk α} {spoil : Option α → FrailDisk α → FrailDisk α}

theorem attempt_done (done : disk.attempt source work spoil = (.ok (), after)) :
    ∃ content, disk.held source = some content ∧ after = work content disk.spent := by
  unfold attempt at done
  split at done
  · cases done
  · cases done
  · rename_i content _ there
    cases done
    exact ⟨content, there, rfl⟩

theorem attempt_failed (failed : disk.attempt source work spoil = (.error cause, after)) :
    after = disk.spent ∨ ∃ left, after = spoil left disk.spent := by
  unfold attempt at failed
  split at failed
  · rename_i left _
    cases failed
    exact .inr ⟨left, rfl⟩
  · cases failed
    exact .inl rfl
  · cases failed

theorem attempt_unspoiled
    (failed : disk.attempt source work (fun _ disk => disk) = (.error cause, after)) :
    view.Spares [] disk after := by
  rcases attempt_failed failed with rfl | ⟨left, rfl⟩
  · exact fun _ _ => rfl
  · exact fun _ _ => rfl

theorem set_spares (path : String) (content : Option α) (disk : FrailDisk α) :
    view.Spares [path] disk (disk.set path content) := by
  intro file outside
  exact if_neg (by simpa using outside)

theorem set_there (path : String) (content : Option α) (disk : FrailDisk α) :
    (disk.set path content).held path = content := if_pos rfl

theorem documented : view.Documented (system : FileSystem (FrailDisk α)) where
  make_dirs := by
    intro dir disk
    simp only [system, makeDirs]
    cases disk.fate <;> exact fun _ _ => rfl
  rename_done := by
    intro source target disk after done
    obtain ⟨content, there, rfl⟩ := attempt_done (show rename source target disk = _ from done)
    refine ⟨by simp [view, there], ?_, ?_, ?_⟩
    · exact (set_there target _ _).trans there.symm
    · intro apart
      exact ((set_spares target _ _).kept apart).trans (set_there source _ _)
    · exact ((set_spares source none disk.spent).mono (by simp [view])).trans
        ((set_spares target _ _).mono (by simp [view]))
  rename_failed := by
    intro source target disk after cause failed
    exact attempt_unspoiled (show rename source target disk = _ from failed)
  copy_done := by
    intro source target disk after apart done
    obtain ⟨content, there, rfl⟩ := attempt_done done
    exact ⟨by simp [view, there], (set_there target _ _).trans there.symm,
      set_spares target _ disk.spent⟩
  copy_failed := by
    intro source target disk after cause failed
    rcases attempt_failed failed with rfl | ⟨left, rfl⟩
    · exact fun _ _ => rfl
    · exact set_spares target left disk.spent
  remove_done := by
    intro path disk after done
    obtain ⟨content, there, rfl⟩ := attempt_done (show remove path disk = _ from done)
    exact ⟨set_there path none disk.spent, set_spares path none disk.spent⟩
  remove_failed := by
    intro path disk after cause failed
    exact attempt_unspoiled (show remove path disk = _ from failed)

end FrailDisk

/-- No directory could be made, the two places are on different devices, and there the copy broke
off after the first letters. -/
theorem relocation_keeps_recording_broken_off :
    let view : View (FrailDisk String) String String := FrailDisk.view
    let files : FileSystem (FrailDisk String) := FrailDisk.system
    let disk : FrailDisk String :=
      { held := fun path => if path = "rec/a.mp4" then some "frames" else none
        fates := [.fails .notDirectory none, .fails .crossDevice none,
          .fails (.other "No space left on device (os error 28)") (some "fra")] }
    let relocated := Relocator.filesystem.relocate files (fun _ _ disk => (.ok (), disk))
      "rec/a.mp4" "store/a.mp4" disk
    view.Documented files ∧ view.file "rec/a.mp4" ≠ view.file "store/a.mp4" ∧
      relocated.1.isOk = false ∧ relocated.2.held "store/a.mp4" = some "fra" ∧
      relocated.2.held "rec/a.mp4" = disk.held "rec/a.mp4" := by
  intro view files disk relocated
  have documented : view.Documented files := FrailDisk.documented
  have apart : view.file "rec/a.mp4" ≠ view.file "store/a.mp4" := by decide
  have kept := View.relocation_keeps_recording documented (fun _ _ disk => (.ok (), disk)) apart
    disk
  exact ⟨documented, apart, rfl, rfl, kept.2.1⟩

end Footage.Files
