import Footage.Proofs.Place.Parts
import Footage.Proofs.Text.Lowering
import Footage.Storage.Job

/-!
# Where segments are stored

The path of a segment in storage is three names in lower case: the location, the first characters
of the file name, and the file name. Below the root of the storage the three names can be read off
again, so segments meet in storage only where lower case makes all three equal. A segment without
a location is not stored below the root at all.
-/

namespace Footage.Text

set_option autoImplicit false

theorem is_absolute_lower (text : String) :
    Place.isAbsolute (lower text) = Place.isAbsolute text := by
  simp only [Place.isAbsolute, lower, lowerChars, String.toList_ofList]
  cases text.toList with
  | nil => rfl
  | cons char rest =>
      obtain ⟨first, others, made⟩ := List.exists_cons_of_ne_nil (lowered_ne_nil [] rest char)
      have slash := mark_mem_lowered (.inl rfl) [] rest char
      have single : char = '/' → first = '/' := by
        rintro rfl
        have same : partner '/' = '/' := by decide +kernel
        simp only [lowered, same] at made
        exact (List.cons.inj made).1.symm
      have first_slash : first = '/' → char = '/' := by
        rintro rfl
        exact slash.mp (by simp [made])
      rw [lower_after_cons, made, List.cons_append, List.head?_cons, List.head?_cons,
        Bool.eq_iff_iff, beq_iff_eq, beq_iff_eq, Option.some.injEq, Option.some.injEq]
      exact ⟨first_slash, single⟩

theorem lower_is_name {name : String} (isName : Place.IsName name) :
    Place.IsName (lower name) where
  filled := fun empty => isName.filled (lower_eq_empty.mp empty)
  whole := fun slash => isName.whole ((mark_mem_lower (.inl rfl) name).mp slash)
  notHere := fun here =>
    isName.notHere ((lower_eq_marks (.inr rfl) 1 here).trans here)
  notAbove := fun above =>
    isName.notAbove ((lower_eq_marks (.inr rfl) 2 above).trans above)

end Footage.Text

namespace Footage.Clip

open Footage.Text Footage.Place

set_option autoImplicit false

def stem (fileName : String) : String := String.ofList (fileName.toList.take stemLength)

theorem stem_whole {fileName : String} (whole : '/' ∉ fileName.toList) :
    '/' ∉ (stem fileName).toList := by
  rw [stem, String.toList_ofList]
  exact fun slash => whole (List.mem_of_mem_take slash)

theorem stem_short {fileName : String} (short : (stem fileName).toList.length < stemLength) :
    stem fileName = fileName := by
  rw [stem, String.toList_ofList, List.length_take] at short
  rw [stem, List.take_of_length_le (by omega), String.ofList_toList]

theorem stem_is_name {fileName : String} (isName : IsName fileName) : IsName (stem fileName) where
  filled := fun empty =>
    isName.filled ((stem_short (by rw [empty]; decide)).symm.trans empty)
  whole := stem_whole isName.whole
  notHere := fun here => isName.notHere ((stem_short (by rw [here]; decide)).symm.trans here)
  notAbove := fun above => isName.notAbove ((stem_short (by rw [above]; decide)).symm.trans above)

/-- The segment has the directory that its location and its name call for. -/
def Segment.Addressed (segment : Segment) : Prop :=
  segment.dir = storageDirFor segment.location segment.fileName

theorem Segment.start_addressed (location fileName prevPath : String) (startMs : Int64) :
    (Segment.start location fileName startMs prevPath).Addressed := rfl

theorem Segment.Addressed.storage_path {segment : Segment} (addressed : segment.Addressed) :
    segment.storagePath = lower segment.location ++ "/" ++ lower (stem segment.fileName) ++ "/" ++
      lower segment.fileName := by
  rw [Segment.storagePath, addressed, storageDirFor, lower_slash, stem]

end Footage.Clip

namespace Footage.Storage

open Footage.Text Footage.Place Footage.Clip

set_option autoImplicit false

variable {κ : Type}

namespace MoveJob

variable {job first second : MoveJob κ}

def sole (location fileName storageDir : String) : MoveJob Unit where
  segment := Segment.start location fileName 0 ""
  recordDir := ""
  storageDir := storageDir
  relocator := .filesystem
  onFailed := none

/-- What stands before the two names at the end of the target. -/
def root (job : MoveJob κ) : String :=
  if job.segment.location = "" then ""
  else job.storageDir ++ gap job.storageDir ++ lower job.segment.location

theorem target_eq (addressed : job.segment.Addressed)
    (relative : isAbsolute job.segment.location = false) :
    job.target = job.root ++ "/" ++ lower (stem job.segment.fileName) ++ "/" ++
      lower job.segment.fileName := by
  rw [target, addressed.storage_path, root]
  split
  case isTrue nowhere =>
    have empty : lower job.segment.location = "" := lower_eq_empty.mpr nowhere
    have absolute (rest : String) : isAbsolute ("/" ++ rest) = true := by
      simp [isAbsolute, to_list_slash]
    rw [empty, String.empty_append, String.append_assoc, String.append_assoc,
      join_absolute _ (absolute _)]
  case isFalse somewhere =>
    have filled : lower job.segment.location ≠ "" := fun empty =>
      somewhere (lower_eq_empty.mp empty)
    have relativePath (rest : String) :
        isAbsolute (lower job.segment.location ++ rest) = false := by
      rw [is_absolute_append _ _ filled, is_absolute_lower, relative]
    simp only [String.append_assoc]
    rw [join_relative _ (relativePath _)]
    simp only [String.append_assoc]

theorem root_eq_empty (job : MoveJob κ) : job.root = "" ↔ job.segment.location = "" := by
  unfold root
  split
  case isTrue nowhere => simp [nowhere]
  case isFalse somewhere =>
    constructor
    · intro empty
      have nothing := congrArg String.toList empty
      simp only [String.toList_append, String.toList_empty, List.append_eq_nil_iff] at nothing
      exact absurd (lower_eq_empty.mp (String.toList_injective nothing.2)) somewhere
    · intro nowhere
      exact absurd nowhere somewhere

theorem root_eq_iff (storage : first.storageDir = second.storageDir) :
    first.root = second.root ↔ lower first.segment.location = lower second.segment.location := by
  have emptied : lower "" = "" := lower_eq_empty.mpr rfl
  by_cases firstNowhere : first.segment.location = ""
  · rw [(root_eq_empty first).mpr firstNowhere, firstNowhere, emptied, eq_comm,
      root_eq_empty second, ← lower_eq_empty, eq_comm]
  by_cases secondNowhere : second.segment.location = ""
  · rw [(root_eq_empty second).mpr secondNowhere, secondNowhere, emptied, root_eq_empty first,
      lower_eq_empty]
  · rw [root, if_neg firstNowhere, root, if_neg secondNowhere, storage]
    constructor
    · intro same
      have characters := congrArg String.toList same
      simp only [String.toList_append] at characters
      exact String.toList_injective (List.append_cancel_left characters)
    · intro same
      rw [same]

/-- Targets in one storage are equal only where lower case makes all their names equal. -/
theorem target_eq_iff (storage : first.storageDir = second.storageDir)
    (firstAddressed : first.segment.Addressed) (secondAddressed : second.segment.Addressed)
    (firstWhole : '/' ∉ first.segment.fileName.toList)
    (secondWhole : '/' ∉ second.segment.fileName.toList)
    (firstRelative : isAbsolute first.segment.location = false)
    (secondRelative : isAbsolute second.segment.location = false) :
    first.target = second.target ↔
      lower first.segment.location = lower second.segment.location ∧
        lower (stem first.segment.fileName) = lower (stem second.segment.fileName) ∧
        lower first.segment.fileName = lower second.segment.fileName := by
  have whole (name : String) (unmarked : '/' ∉ name.toList) : '/' ∉ (lower name).toList :=
    fun slash => unmarked ((mark_mem_lower (.inl rfl) name).mp slash)
  rw [target_eq firstAddressed firstRelative, target_eq secondAddressed secondRelative,
    ← root_eq_iff storage]
  constructor
  · intro same
    have names := last_slash_unique (whole _ firstWhole) (whole _ secondWhole) same
    have stems := last_slash_unique (whole _ (stem_whole firstWhole))
      (whole _ (stem_whole secondWhole)) names.1
    exact ⟨stems.1, stems.2, names.2⟩
  · rintro ⟨roots, stems, names⟩
    rw [roots, stems, names]

/-- Where a job stores its segment: below the root of the storage by three names if the location
has a name. A segment without a location is stored below the root of the file system, wherever the
storage is. -/
theorem target_below_storage (addressed : job.segment.Addressed)
    (named : IsName job.segment.fileName) :
    (IsName job.segment.location →
      Below job.storageDir [lower job.segment.location, lower (stem job.segment.fileName),
        lower job.segment.fileName] job.target) ∧
    (job.segment.location = "" →
      job.target = "/" ++ lower (stem job.segment.fileName) ++ "/" ++
        lower job.segment.fileName) := by
  have stemName : IsName (lower (stem job.segment.fileName)) :=
    lower_is_name (stem_is_name named)
  have fileName : IsName (lower job.segment.fileName) := lower_is_name named
  constructor
  · intro located
    have location : IsName (lower job.segment.location) := lower_is_name located
    have relative : isAbsolute job.segment.storagePath = false := by
      rw [addressed.storage_path, String.append_assoc, String.append_assoc, String.append_assoc,
        is_absolute_append _ _ location.filled, location.relative]
    apply below_join job.storageDir relative
    · rw [addressed.storage_path, parts_slash, parts_slash, location.parts, stemName.parts,
        fileName.parts]
      rfl
    · simp [location, stemName, fileName]
  · intro nowhere
    have relative : isAbsolute job.segment.location = false := by rw [nowhere]; rfl
    have unrooted : job.root = "" := by rw [root, if_pos nowhere]
    rw [target_eq addressed relative, unrooted, String.empty_append]

theorem target_below_storage_front_door :
    (sole "Front Door" "Clip001.MP4" "/var/clips").segment.Addressed ∧
      IsName "Clip001.MP4" ∧ IsName "Front Door" ∧
      Below "/var/clips" [lower "Front Door", lower (stem "Clip001.MP4"), lower "Clip001.MP4"]
        (sole "Front Door" "Clip001.MP4" "/var/clips").target := by
  have addressed : (sole "Front Door" "Clip001.MP4" "/var/clips").segment.Addressed :=
    Segment.start_addressed "Front Door" "Clip001.MP4" "" 0
  have named : IsName "Clip001.MP4" := by decide
  have located : IsName "Front Door" := by decide
  exact ⟨addressed, named, located, (target_below_storage addressed named).1 located⟩

/-- Without a location a segment is stored outside a relative storage directory. -/
theorem target_escapes_storage :
    ¬ ∀ job : MoveJob Unit, job.segment.Addressed → IsName job.segment.fileName →
      (job.segment.location = "" ∨ IsName job.segment.location) →
      job.storageDir.toList <+: job.target.toList := by
  intro extended
  have inside := extended (sole "" "clip001.mp4" "store") (Segment.start_addressed _ _ _ _)
    (by decide) (.inl rfl)
  revert inside
  decide +kernel

end MoveJob

end Footage.Storage
