import Footage.Index.Memory
import Footage.Proofs.Files.Safekeeping
import Footage.Proofs.Session.Episode
import Footage.Proofs.Storage.Deeds
import Footage.Proofs.Storage.Targets

/-!
# Segments side by side in storage

What files hold, which paths name the same file and which rows an index has is read off a state.
File systems, engines and indices are known by what they document of success. As long as the
names of the segments differ in lower case, storing one segment leaves the files and the rows of
those before it alone.
-/

namespace Footage.Index.Rows

open Footage.Clip

set_option autoImplicit false

variable {record : Record} {rows : Rows} {path : String}

def of (path : String) (rows : Rows) : Rows := rows.filter fun record => record.path == path

theorem of_commit (record : Record) (rows : Rows) :
    (rows.commit record).of record.path = [record] := by
  have erased : (rows.erase record.path).of record.path = [] := by
    unfold of erase
    rw [List.filter_filter, List.filter_eq_nil_iff]
    intro other _
    simp
  unfold commit of
  rw [List.filter_cons, if_pos (by simp)]
  exact congrArg (record :: ·) erased

theorem of_commit_other (elsewhere : path ≠ record.path) :
    (rows.commit record).of path = rows.of path := by
  unfold commit of erase
  rw [List.filter_cons, if_neg (by simpa using elsewhere.symm), List.filter_filter]
  apply List.filter_congr
  intro other _
  by_cases here : other.path = path
  · simp [here, elsewhere]
  · simp [here]

end Footage.Index.Rows

namespace Footage.Storage

open Footage.Clip Footage.Files Footage.Place Footage.Rotation

set_option autoImplicit false

variable {σ κ α : Type}

structure Reading (σ α : Type) where
  /-- What the file at a path holds. -/
  content : σ → String → Option α
  rows : σ → Index.Rows
  /-- The two paths name one entry of one directory. -/
  same : String → String → Prop

namespace Reading

variable (reading : Reading σ α)

structure Spared (kept : String → Prop) (before after : σ) : Prop where
  rows : reading.rows after = reading.rows before
  files : ∀ path, kept path → reading.content after path = reading.content before path

/-- The file at the source is at the target now, and no other file has changed. -/
structure Moved (source target : String) (before after : σ) : Prop where
  there : reading.content after target = reading.content before source
  spared : reading.Spared (fun path => ¬ reading.same path source ∧ ¬ reading.same path target)
    before after

/-- What is documented of the file system, the engine and the index, where no file has a second
name and the index lies outside of the kept files. Names may be told apart by case or not. -/
structure Lawful (backend : Backend σ κ) (kept : String → Prop) : Prop where
  same_name : ∀ {path other name otherName : String}, reading.same path other →
    (parts path).getLast? = some name → (parts other).getLast? = some otherName →
    IsName name → IsName otherName → Text.lower name = Text.lower otherName
  /-- What these two names end in is a directory. -/
  undotted : ∀ {state : σ} {path : String}, (reading.content state path).isSome →
    (parts path).getLast? ≠ some "." ∧ (parts path).getLast? ≠ some ".."
  make_dirs : ∀ dir state,
    reading.Spared (fun _ => True) state (backend.files.makeDirs dir state).2
  rename : ∀ {source target : String} {state after : σ}, (reading.content state source).isSome →
    backend.files.rename source target state = (.ok (), after) →
    reading.Moved source target state after
  /-- A path on another device names another file. -/
  across : ∀ {source target : String} {state after : σ},
    backend.files.rename source target state = (.error .crossDevice, after) →
    ¬ reading.same target source ∧ reading.Spared (fun _ => True) state after
  copy : ∀ {source target : String} {state after : σ}, (reading.content state source).isSome →
    ¬ reading.same target source → backend.files.copy source target state = (.ok (), after) →
    reading.content after target = reading.content state source ∧
      reading.Spared (fun path => ¬ reading.same path target) state after
  remove : ∀ {path : String} {state after : σ},
    backend.files.remove path state = (.ok (), after) →
    reading.Spared (fun other => ¬ reading.same other path) state after
  engine_move : ∀ {source target : String} {state after : σ},
    (reading.content state source).isSome →
    backend.engineMove source target state = (.ok (), after) →
    reading.Moved source target state after
  commit : ∀ {record : Record} {state after : σ},
    backend.commit record state = (.accepted, after) →
    reading.rows after = (reading.rows state).commit record ∧
      ∀ path, kept path → reading.content after path = reading.content state path

section Moving

variable {reading} {backend : Backend σ κ} {kept : String → Prop} {source target : String}
  {state middle after : σ}

theorem Moved.later (spared : reading.Spared (fun _ => True) state middle)
    (moved : reading.Moved source target middle after) :
    reading.Moved source target state after where
  there := moved.there.trans (spared.files source trivial)
  spared := {
    rows := moved.spared.rows.trans spared.rows
    files := fun path apart =>
      (moved.spared.files path apart).trans (spared.files path trivial) }

theorem Lawful.move_file (lawful : reading.Lawful backend kept)
    (filled : (reading.content state source).isSome)
    (done : backend.files.moveFile source target state = (.ok (), after)) :
    reading.Moved source target state after := by
  rcases move_file_cases done with
    renamed | ⟨first, crossed, ⟨cause, impossible, -⟩ | ⟨second, copied, removed⟩⟩
  · exact lawful.rename filled renamed
  · cases impossible
  obtain ⟨apart, untouched⟩ := lawful.across crossed
  have still : (reading.content first source).isSome := by
    rwa [untouched.files source trivial]
  obtain ⟨there, others⟩ := lawful.copy still apart copied
  have removal := lawful.remove removed
  apply Moved.later untouched
  constructor
  · rw [removal.files target apart, there]
  · constructor
    · rw [removal.rows, others.rows]
    · rintro path ⟨notSource, notTarget⟩
      rw [removal.files path notSource, others.files path notTarget]

theorem Lawful.make_parent (lawful : reading.Lawful backend kept) (target : String)
    (state : σ) :
    reading.Spared (fun _ => True) state (makeParent backend.files target state) := by
  unfold makeParent
  cases parent? target with
  | some dir => exact lawful.make_dirs dir state
  | none => exact ⟨rfl, fun _ _ => rfl⟩

theorem Lawful.relocate (lawful : reading.Lawful backend kept) {job : MoveJob κ}
    (filled : (reading.content state job.source).isSome)
    (done : job.relocate backend state = (.ok (), after)) :
    reading.Moved job.source job.target state after := by
  have prepared := lawful.make_parent job.target state
  have still :
      (reading.content (makeParent backend.files job.target state) job.source).isSome := by
    rwa [prepared.files job.source trivial]
  apply Moved.later prepared
  unfold MoveJob.relocate at done
  generalize job.relocator = relocator at done
  cases relocator with
  | filesystem => exact lawful.move_file still (relocate_done done)
  | engine =>
      unfold Relocator.relocate at done
      generalize makeParent backend.files job.target state = middle at done still
      rcases moved : backend.engineMove job.source job.target middle with ⟨outcome, last⟩
      simp only [moved] at done
      cases outcome with
      | error cause => simp [Except.mapError] at done
      | ok =>
          cases done
          exact lawful.engine_move still moved

end Moving

end Reading

/-- A job whose record was accepted has relocated its segment and committed the record. -/
theorem Start.accepted {backend : Backend σ κ} {start : Start σ κ}
    (accepted : start.reply backend = some .accepted) :
    ∃ moved after, start.job.relocate backend start.state = (.ok (), moved) ∧
      backend.commit start.job.record moved = (.accepted, after) ∧
      (start.job.run backend start.state).2 = after := by
  unfold Start.reply at accepted
  rcases relocated : start.job.relocate backend start.state with ⟨outcome, moved⟩
  rw [relocated] at accepted
  cases outcome with
  | error cause => cases accepted
  | ok =>
      have answer : (backend.commit start.job.record moved).1 = .accepted :=
        Option.some.inj accepted
      rcases committed : backend.commit start.job.record moved with ⟨reply, after⟩
      rw [committed] at answer
      subst answer
      refine ⟨moved, after, rfl, committed, ?_⟩
      simp only [MoveJob.run, MoveJob.store, relocated, committed]

namespace MoveJob

variable {job : MoveJob κ}

structure Placed (station : Station) (job : MoveJob κ) : Prop where
  recordDir : job.recordDir = station.recordDir
  storageDir : job.storageDir = station.storageDir
  location : job.segment.location = station.location
  addressed : job.segment.Addressed
  named : job.segment.fileName ≠ ""

theorem last_part_name {name : String} (isName : IsName name) (base : String) :
    (parts (join base name)).getLast? = some name := by
  rw [last_part_join base (by simp [isName.parts]), isName.parts]
  rfl

theorem last_part_source (isName : IsName job.segment.fileName) :
    (parts job.source).getLast? = some job.segment.fileName :=
  last_part_name isName job.recordDir

theorem last_part_target (isName : IsName job.segment.fileName) :
    (parts job.target).getLast? = some (Text.lower job.segment.fileName) := by
  have name := (Text.lower_is_name isName).parts
  have ends : parts job.segment.storagePath =
      parts job.segment.dir ++ [Text.lower job.segment.fileName] := by
    rw [Segment.storagePath, parts_slash, name]
  rw [target, last_part_join _ (by simp [ends]), ends, List.getLast?_concat]

end MoveJob

/-- The places in storage that the segments of a station can have. -/
def Stored (station : Station) (path : String) : Prop :=
  ∃ fileName : String, '/' ∉ fileName.toList ∧ path = join station.storageDir
    (storageDirFor station.location fileName ++ "/" ++ Text.lower fileName)

theorem MoveJob.Placed.stored {station : Station} {job : MoveJob κ}
    (placed : job.Placed station) (whole : '/' ∉ job.segment.fileName.toList) :
    Stored station job.target := by
  refine ⟨job.segment.fileName, whole, ?_⟩
  have addressed : job.segment.dir = storageDirFor job.segment.location job.segment.fileName :=
    placed.addressed
  rw [MoveJob.target, placed.storageDir, Segment.storagePath, addressed, placed.location]

/-- Jobs of a station that find their files and succeed, for files whose names have no slashes and
differ in lower case. -/
structure Fortunate (reading : Reading σ α) (backend : Backend σ κ) (station : Station)
    (starts : List (Start σ κ)) : Prop where
  placed : ∀ start ∈ starts, start.job.Placed station
  whole : ∀ start ∈ starts, '/' ∉ start.job.segment.fileName.toList
  apart : (starts.map fun start => Text.lower start.job.segment.fileName).Nodup
  filled : ∀ start ∈ starts, (reading.content start.state start.job.source).isSome
  accepted : ∀ start ∈ starts, start.reply backend = some .accepted

structure Shelved (reading : Reading σ α) (starts : List (Start σ κ)) (state : σ) : Prop where
  files : ∀ start ∈ starts,
    reading.content state (join start.job.storageDir start.job.record.path) =
      reading.content start.state start.job.source
  rows : ∀ start ∈ starts,
    (reading.rows state).of start.job.record.path = [start.job.record]
  paths : (starts.map fun start => start.job.record.path).Nodup

section Shelving

variable {reading : Reading σ α} {backend : Backend σ κ} {station : Station}
  {starts : List (Start σ κ)} {job : MoveJob κ} {state : σ}

theorem Fortunate.is_name {kept : String → Prop} (lawful : reading.Lawful backend kept)
    (fortunate : Fortunate reading backend station starts) :
    ∀ start ∈ starts, IsName start.job.segment.fileName := by
  intro start member
  have named := (fortunate.placed start member).named
  have whole := fortunate.whole start member
  have single : parts start.job.segment.fileName = [start.job.segment.fileName] :=
    parts_whole named whole
  have last : (parts start.job.source).getLast? = some start.job.segment.fileName := by
    rw [MoveJob.source, last_part_join _ (by simp [single]), single]
    rfl
  have undotted := lawful.undotted (fortunate.filled start member)
  rw [last] at undotted
  exact ⟨named, whole, fun here => undotted.1 (congrArg some here),
    fun above => undotted.2 (congrArg some above)⟩

theorem Fortunate.stored (fortunate : Fortunate reading backend station starts) :
    ∀ start ∈ starts, Stored station start.job.target :=
  fun start member => (fortunate.placed start member).stored (fortunate.whole start member)

theorem Fortunate.earlier {later : List (Start σ κ)}
    (fortunate : Fortunate reading backend station (starts ++ later)) :
    Fortunate reading backend station starts where
  placed := fun start member => fortunate.placed start (List.mem_append_left _ member)
  whole := fun start member => fortunate.whole start (List.mem_append_left _ member)
  apart := by
    have apart := fortunate.apart
    rw [List.map_append, List.nodup_append] at apart
    exact apart.1
  filled := fun start member => fortunate.filled start (List.mem_append_left _ member)
  accepted := fun start member => fortunate.accepted start (List.mem_append_left _ member)

theorem record_path_ne {first second : MoveJob κ}
    (firstName : IsName first.segment.fileName) (secondName : IsName second.segment.fileName)
    (differ : Text.lower first.segment.fileName ≠ Text.lower second.segment.fileName) :
    first.record.path ≠ second.record.path := by
  intro same
  have cut := last_slash_unique (Text.lower_is_name firstName).whole
    (Text.lower_is_name secondName).whole same
  exact differ cut.2

/-- The place of a segment is neither the place nor the recorded file of one whose name differs
in lower case, whether names are told apart by case or not. -/
theorem Reading.Lawful.apart {kept : String → Prop} (lawful : reading.Lawful backend kept)
    {first second : MoveJob κ} (firstName : IsName first.segment.fileName)
    (secondName : IsName second.segment.fileName)
    (differ : Text.lower first.segment.fileName ≠ Text.lower second.segment.fileName) :
    ¬ reading.same first.target second.source ∧ ¬ reading.same first.target second.target := by
  have place := MoveJob.last_part_target firstName
  have lowered := Text.lower_is_name firstName
  constructor
  · intro same
    have names := lawful.same_name same place (MoveJob.last_part_source secondName) lowered
      secondName
    rw [Text.lower_lower] at names
    exact differ names
  · intro same
    have names := lawful.same_name same place (MoveJob.last_part_target secondName) lowered
      (Text.lower_is_name secondName)
    rw [Text.lower_lower, Text.lower_lower] at names
    exact differ names

theorem Fortunate.differ
    (fortunate : Fortunate reading backend station (starts ++ [⟨job, state⟩])) :
    ∀ start ∈ starts,
      Text.lower start.job.segment.fileName ≠ Text.lower job.segment.fileName := by
  intro start member
  have apart := fortunate.apart
  rw [List.map_append, List.nodup_append] at apart
  exact apart.2.2 _ (List.mem_map_of_mem member) _ (by simp)

theorem Shelved.run (lawful : reading.Lawful backend (Stored station))
    (fortunate : Fortunate reading backend station (starts ++ [⟨job, state⟩]))
    (shelved : Shelved reading starts state) :
    Shelved reading (starts ++ [⟨job, state⟩]) (job.run backend state).2 := by
  have newest : (⟨job, state⟩ : Start σ κ) ∈ starts ++ [⟨job, state⟩] := by simp
  have names := fortunate.is_name lawful
  have filled := fortunate.filled _ newest
  obtain ⟨moved, after, relocated, committed, ran⟩ :=
    Start.accepted (fortunate.accepted _ newest)
  have move := lawful.relocate filled relocated
  obtain ⟨rows, kept⟩ := lawful.commit committed
  have differ := fortunate.differ
  have jobName : IsName job.segment.fileName := names _ newest
  have stored := fortunate.stored
  rw [ran]
  constructor
  · intro start member
    rw [List.mem_append, List.mem_singleton] at member
    rcases member with before | rfl
    · have startName := names start (List.mem_append_left _ before)
      have elsewhere := lawful.apart startName jobName (differ start before)
      calc reading.content after start.job.target
          = reading.content moved start.job.target :=
            kept _ (stored start (List.mem_append_left _ before))
        _ = reading.content state start.job.target :=
            move.spared.files _ elsewhere
        _ = reading.content start.state start.job.source := shelved.files start before
    · exact (kept _ (stored _ newest)).trans move.there
  · intro start member
    rw [rows, move.spared.rows]
    rw [List.mem_append, List.mem_singleton] at member
    rcases member with before | rfl
    · have elsewhere := record_path_ne (names start (List.mem_append_left _ before)) jobName
        (differ start before)
      rw [Index.Rows.of_commit_other elsewhere]
      exact shelved.rows start before
    · exact Index.Rows.of_commit job.record (reading.rows state)
  · rw [List.map_append, List.nodup_append]
    refine ⟨shelved.paths, by simp, ?_⟩
    intro path member other single
    obtain ⟨start, before, rfl⟩ := List.mem_map.mp member
    rw [List.map_singleton, List.mem_singleton] at single
    subst single
    exact record_path_ne (names start (List.mem_append_left _ before)) jobName
      (differ start before)

theorem Shelved.spared {before after : σ}
    (fortunate : Fortunate reading backend station starts)
    (spared : reading.Spared (Stored station) before after)
    (shelved : Shelved reading starts before) : Shelved reading starts after where
  files := by
    intro start member
    have stored : Stored station (join start.job.storageDir start.job.record.path) :=
      fortunate.stored start member
    rw [spared.files _ stored]
    exact shelved.files start member
  rows := by
    rw [spared.rows]
    exact shelved.rows
  paths := shelved.paths

end Shelving

end Footage.Storage
