import Footage.Proofs.Session.Spans
import Footage.Proofs.Storage.Shelving

/-!
# Where the segments of a session are in the end

When a session is closed, every segment whose job succeeded is at the place that its record names,
and its record is the only one with this path, as long as the names of the files have no slashes
and differ in lower case. Names that differ only by case share a place: the later segment takes
that of the earlier one and its row in the index, and every job has succeeded.
-/

namespace Footage

open Footage.Capture Footage.Clip Footage.Files Footage.Place Footage.Storage Footage.Services

set_option autoImplicit false

variable {σ α H κ : Type}

structure Capture.Engine.Spares (engine : Engine σ H) (reading : Reading σ α)
    (kept : String → Prop) : Prop where
  open_stream : ∀ request state, reading.Spared kept state (engine.openStream request state).2
  set_hw_device : ∀ device state, reading.Spared kept state (engine.setHwDevice device state)
  perform : ∀ stream call state, reading.Spared kept state (engine.perform stream call state).2

namespace Rotation

def Request.Spares (reading : Reading σ α) (kept : String → Prop) : Request σ κ → Prop
  | .closeWith killable => ∀ state, reading.Spared kept state (killable state)
  | _ => True

section Recording

variable {reading : Reading σ α} {backend : Backend σ κ} {pace : σ → Nat × σ} {station : Station}

/-- The journal as a record of jobs: what is stored stays as long as every job succeeds. -/
def shelf (engine : Engine σ H) (lawful : reading.Lawful backend (Stored station))
    (paced : ∀ state, reading.Spared (Stored station) state (pace state).2) :
    Recorder (journaled engine backend pace).storage where
  attempts := (backend.recorder pace).attempts
  Intact := fun journal =>
    Fortunate reading backend station journal.starts →
      Shelved reading journal.starts journal.state
  attempts_run := (backend.recorder pace).attempts_run
  intact_run := by
    intro job journal intact
    have ran : (journaled engine backend pace).storage.run job journal = _ :=
      backend.journaled_run pace job journal
    rw [ran]
    intro fortunate
    exact (intact fortunate.earlier).run lawful fortunate
  attempts_pace := fun _ => rfl
  intact_pace := fun journal intact fortunate =>
    (intact fortunate).spared fortunate (paced journal.state)

variable {engine : Engine σ H} (lawful : reading.Lawful backend (Stored station))
  (paced : ∀ state, reading.Spared (Stored station) state (pace state).2)

theorem shelf_untouched (journal : Journal σ κ) (after : σ)
    (spared : reading.Spared (Stored station) journal.state after) :
    (shelf engine lawful paced).Untouched journal (journal.setState after) :=
  ⟨rfl, fun intact fortunate => (intact fortunate).spared fortunate spared⟩

theorem shelf_quiet (spares : engine.Spares reading (Stored station)) :
    (journaled engine backend pace).Quiet (shelf engine lawful paced) where
  open_stream := fun request journal =>
    shelf_untouched lawful paced journal _ (spares.open_stream request journal.state)
  set_hw_device := fun device journal =>
    shelf_untouched lawful paced journal _ (spares.set_hw_device device journal.state)
  perform := fun stream call journal =>
    shelf_untouched lawful paced journal _ (spares.perform stream call journal.state)

theorem shelf_harmless {requests : List (Request σ κ)}
    (asked : ∀ request ∈ requests, request.Spares reading (Stored station)) :
    ∀ request ∈ requests.map
        (Request.within Journal.state fun state journal => journal.setState state),
      request.Harmless (shelf engine lawful paced) := by
  rw [List.forall_mem_map]
  intro request member
  cases request with
  | closeWith killable =>
      intro journal
      have spared : ∀ state, reading.Spared (Stored station) state (killable state) :=
        asked _ member
      exact shelf_untouched lawful paced journal _ (spared journal.state)
  | _ => trivial

end Recording

theorem Chronicle.job_placed {station : Station} (chronicle : Chronicle κ) :
    ∀ job ∈ chronicle.jobs station, job.Placed station := by
  intro job submitted
  obtain ⟨episode, -, inside⟩ := List.mem_flatMap.mp submitted
  obtain ⟨run, found, before, ending, rfl⟩ := job_of_run _ _ _ inside
  obtain ⟨-, member⟩ := Episode.mem_recorded_runs.mp found
  have named : run.first.fileName ≠ "" :=
    shot_named _ _ run.first (run_within _ run member).first
  exact ⟨rfl, rfl, rfl, rfl, named⟩

namespace Life

theorem play_concat (services : Services σ H κ) (life : Life σ H κ)
    (requests : List (Request σ κ)) (last : Request σ κ) :
    life.play services (requests ++ [last]) = (life.play services requests).ask services last :=
  List.foldl_concat ..

section Shelving

variable {reading : Reading σ α} {engine : Engine σ H} {backend : Backend σ κ}
  {pace : σ → Nat × σ} {station : Station} {life : Life (Journal σ κ) H κ}
  {lawful : reading.Lawful backend (Stored station)}
  {paced : ∀ state, reading.Spared (Stored station) state (pace state).2}

/-- A session that is closed has started a job for each of its segments. -/
theorem Agrees.all_started (agrees : life.Agrees (shelf engine lawful paced) station)
    (phase : life.session.phase = .closed) :
    life.state.starts.map Start.job = life.chronicle.jobs station := by
  rw [← backend.recorder_jobs pace life.state]
  exact agrees.kept.serves.all_started (agrees.free phase)

theorem Agrees.shelved (agrees : life.Agrees (shelf engine lawful paced) station)
    (phase : life.session.phase = .closed)
    (whole : ∀ job ∈ life.chronicle.jobs station, '/' ∉ job.segment.fileName.toList)
    (apart : ((life.chronicle.jobs station).map fun job =>
      Text.lower job.segment.fileName).Nodup)
    (succeeded : ∀ start ∈ life.state.starts,
      (reading.content start.state start.job.source).isSome ∧
        start.reply backend = some .accepted) :
    Shelved reading life.state.starts life.state.state := by
  have started := agrees.all_started phase
  have inside : ∀ start ∈ life.state.starts, start.job ∈ life.chronicle.jobs station := by
    intro start member
    rw [← started]
    exact List.mem_map_of_mem member
  obtain ⟨collected, accounts⟩ := agrees.kept.serves.accounts
  apply accounts.balanced.intact
  constructor
  · exact fun start member => life.chronicle.job_placed _ (inside start member)
  · exact fun start member => whole _ (inside start member)
  · rw [← started, List.map_map] at apart
    exact apart
  · exact fun start member => (succeeded start member).1
  · exact fun start member => (succeeded start member).2

end Shelving

/-- Two segments share a place in storage only where lower case makes their names equal. So after
a close each segment of the session is at its place, if the names of the files differ in lower
case and every segment could be stored. -/
theorem play_shelves :
    (∀ first second : MoveJob κ, first.storageDir = second.storageDir →
      first.segment.Addressed → second.segment.Addressed →
      '/' ∉ first.segment.fileName.toList → '/' ∉ second.segment.fileName.toList →
      isAbsolute first.segment.location = false → isAbsolute second.segment.location = false →
      (first.target = second.target ↔
        Text.lower first.segment.location = Text.lower second.segment.location ∧
          Text.lower (stem first.segment.fileName) = Text.lower (stem second.segment.fileName) ∧
          Text.lower first.segment.fileName = Text.lower second.segment.fileName)) ∧
    ∀ (reading : Reading σ α) (engine : Engine σ H) (backend : Backend σ κ) (pace : σ → Nat × σ)
      (config : Config.Recorder) (encoder : Except Config.ConfigError Config.Encoder)
      (location : String) (state : σ) (requests : List (Request σ κ)),
      let stored := Stored (stationOf config location)
      reading.Lawful backend stored → engine.Spares reading stored →
      (∀ state, reading.Spared stored state (pace state).2) →
      (∀ request ∈ requests, request.Spares reading stored) →
      let services := journaled engine backend pace
      let life := (begin services config encoder location { state }).play services
        ((requests ++ [Request.close]).map
          (Request.within Journal.state fun state journal => journal.setState state))
      let plain := ofBackend engine backend pace
      let jobs := life.chronicle.jobs (stationOf config location)
      (life.session, life.state.state) =
          performAll plain (Session.create plain config encoder location state)
            (requests ++ [Request.close]) ∧
        life.session.phase = .closed ∧ life.state.starts.map Start.job = jobs ∧
        ((∀ job ∈ jobs, '/' ∉ job.segment.fileName.toList) →
          (jobs.map fun job => Text.lower job.segment.fileName).Nodup →
          (∀ start ∈ life.state.starts,
            (reading.content start.state start.job.source).isSome ∧
              start.reply backend = some .accepted) →
          Shelved reading life.state.starts life.state.state) := by
  constructor
  · intro first second storage firstAddressed secondAddressed
    exact MoveJob.target_eq_iff storage firstAddressed secondAddressed
  intro reading engine backend pace config encoder location state requests stored lawful spares
    paced asked services life plain jobs
  have quiet : services.Quiet (shelf engine lawful paced) := shelf_quiet lawful paced spares
  let earlier := (begin services config encoder location { state }).play services
    (requests.map (Request.within Journal.state fun state journal => journal.setState state))
  have before : earlier.Agrees (shelf engine lawful paced) (stationOf config location) := by
    apply play_agrees quiet _ (shelf_harmless lawful paced asked)
    apply fresh_agrees (shelf engine lawful paced)
    · rfl
    · intro _
      constructor
      · exact fun _ member => (nomatch member)
      · exact fun _ member => (nomatch member)
      · exact .nil
  have closes : life = earlier.ask services .close := by
    simp only [life, List.map_append]
    exact play_concat services _ _ .close
  have agrees : life.Agrees (shelf engine lawful paced) (stationOf config location) := by
    rw [closes]
    exact ask_agrees quiet .close trivial before
  have phase : life.session.phase = .closed := by
    rw [closes]
    exact before.closes quiet
  refine ⟨?_, phase, agrees.all_started phase, agrees.shelved phase⟩
  exact play_plain (journaled_projects engine backend pace) (fun _ _ => rfl) _ _

end Life

end Rotation

structure Disk where
  script : Rotation.Script
  files : String → Option String
  rows : Index.Rows := []

namespace Disk

open Footage.Rotation

def dotted (path : String) : Bool :=
  (parts path).getLast? == some "." || (parts path).getLast? == some ".."

def read (disk : Disk) (path : String) : Option String :=
  if dotted path then none else disk.files path

def change (path : String) (content : Option String) (disk : Disk) : Disk :=
  { disk with files := fun other => if other = path then content else disk.files other }

def rename (source target : String) (disk : Disk) : Outcome Disk :=
  match disk.read source with
  | some content =>
      if dotted target then (.error .isDirectory, disk)
      else (.ok (), (disk.change source none).change target (some content))
  | none => (.error .notFound, disk)

def copy (source target : String) (disk : Disk) : Outcome Disk :=
  match disk.read source with
  | some content =>
      if dotted target then (.error .isDirectory, disk)
      else (.ok (), disk.change target (some content))
  | none => (.error .notFound, disk)

def backend : Backend Disk Unit where
  files := {
    makeDirs := fun _ disk => (.ok (), disk)
    rename := rename
    copy := copy
    remove := fun path disk => (.ok (), disk.change path none) }
  engineMove := fun source target disk =>
    let (outcome, disk) := disk.rename source target
    (outcome.mapError fun cause => .engine cause.text, disk)
  commit := fun record disk => (.accepted, { disk with rows := disk.rows.commit record })
  notify := fun _ _ disk => disk

def engine : Engine Disk Unit := Script.engine.within Disk.script fun script disk =>
  { disk with script }

def pace (disk : Disk) : Nat × Disk := (0, disk)

def reading : Reading Disk String where
  content := read
  rows := Disk.rows
  same := Eq

section Laws

variable {disk after : Disk} {path other source target : String} {content : Option String}

theorem read_change (undotted : dotted path = false) :
    (disk.change path content).read path = content := by
  simp [read, change, undotted]

theorem read_change_other (elsewhere : other ≠ path) :
    (disk.change path content).read other = disk.read other := by
  simp [read, change, elsewhere]

theorem rename_moved (done : disk.rename source target = (.ok (), after)) :
    reading.Moved source target disk after := by
  unfold rename at done
  cases found : disk.read source with
  | none => simp [found] at done
  | some content =>
      cases ends : dotted target with
      | true => simp [found, ends] at done
      | false =>
          simp only [found, ends] at done
          cases done
          constructor
          · exact (read_change ends).trans found.symm
          · constructor
            · rfl
            · rintro path ⟨notSource, notTarget⟩
              exact (read_change_other notTarget).trans (read_change_other notSource)

theorem backend_lawful (kept : String → Prop) : reading.Lawful backend kept where
  same_name := by
    rintro path _ name otherName rfl last also _ _
    rw [last] at also
    rw [Option.some.inj also]
  undotted := by
    intro disk path filled
    cases ends : dotted path with
    | true => simp [reading, read, ends] at filled
    | false => simpa [dotted] using ends
  make_dirs := fun _ _ => ⟨rfl, fun _ _ => rfl⟩
  rename := fun _ done => rename_moved done
  across := by
    intro source target disk after crossed
    have renamed : disk.rename source target = (.error .crossDevice, after) := crossed
    unfold rename at renamed
    split at renamed
    · split at renamed <;> simp at renamed
    · simp at renamed
  copy := by
    intro source target disk after _ _ done
    have copied : disk.copy source target = (.ok (), after) := done
    unfold copy at copied
    cases found : disk.read source with
    | none => simp [found] at copied
    | some content =>
        cases ends : dotted target with
        | true => simp [found, ends] at copied
        | false =>
            simp only [found, ends] at copied
            cases copied
            exact ⟨(read_change ends).trans found.symm, rfl,
              fun path elsewhere => read_change_other elsewhere⟩
  remove := by
    intro path disk after done
    cases done
    exact ⟨rfl, fun other elsewhere => read_change_other elsewhere⟩
  engine_move := by
    intro source target disk after _ done
    rcases renamed : disk.rename source target with ⟨outcome, last⟩
    simp only [backend, renamed] at done
    cases outcome with
    | error cause => simp [Except.mapError] at done
    | ok =>
        cases done
        exact rename_moved renamed
  commit := by
    intro record disk after done
    cases done
    exact ⟨rfl, fun _ _ => rfl⟩

theorem engine_spares (kept : String → Prop) : engine.Spares reading kept where
  open_stream := fun _ _ => ⟨rfl, fun _ _ => rfl⟩
  set_hw_device := fun _ _ => ⟨rfl, fun _ _ => rfl⟩
  perform := fun _ _ _ => ⟨rfl, fun _ _ => rfl⟩

end Laws

def life (disk : Disk) : Life (Journal Disk Unit) Unit Unit :=
  let services := journaled engine backend pace
  (Life.begin services Script.config (.ok {}) "x" { state := disk }).play services
    ((Script.watch disk.script.length ++ [Request.close]).map
      (Request.within Journal.state fun state journal => journal.setState state))

def recorded (first second : String) : Disk where
  script := [Script.shown first 0, Script.shown second 100]
  files := fun path =>
    if path = "rec/x/" ++ first then some "first"
    else if path = "rec/x/" ++ second then some "second"
    else none

end Disk

namespace Rotation.Life

theorem play_shelves_two :
    let life := (Disk.recorded "One" "two").life
    life.state.starts.length = 2 ∧
      Shelved Disk.reading life.state.starts life.state.state := by
  intro life
  refine ⟨by decide +kernel, ?_⟩
  have asked : ∀ request ∈ (Script.watch 2 : List (Request Disk Unit)),
      request.Spares Disk.reading (Stored (stationOf Script.config "x")) := by
    intro request member
    rcases List.mem_cons.mp member with rfl | poll
    · trivial
    · rw [List.eq_of_mem_replicate poll]
      trivial
  obtain ⟨-, -, -, shelved⟩ := play_shelves.2 Disk.reading Disk.engine Disk.backend Disk.pace
    Script.config (.ok {}) "x" (Disk.recorded "One" "two") (Script.watch 2)
    (Disk.backend_lawful _) (Disk.engine_spares _) (fun _ => ⟨rfl, fun _ _ => rfl⟩) asked
  apply shelved
  · decide +kernel
  · decide +kernel
  · decide +kernel

/-- What lower case, slashes in names and absolute locations make equal: targets of different
names, with one file and one row left of two segments that were stored. -/
theorem targets_meet :
    let life := (Disk.recorded "B" "b").life
    MoveJob.target (.sole "x" "B" "store") =
        MoveJob.target (.sole "x" "b" "store") ∧
      MoveJob.target (.sole "x/b/b" "b" "store") =
        MoveJob.target (.sole "x" "b/b" "store") ∧
      MoveJob.target (.sole "x" "b" "/store") =
        MoveJob.target (.sole "/store/x" "b" "/store") ∧
      parts (MoveJob.target (.sole "x" "/b" "store")) =
        parts (MoveJob.target (.sole "x" "b" "store")) ∧
      life.state.starts.map (fun start =>
          (start.job.segment.fileName, start.reply Disk.backend)) =
        [("B", some .accepted), ("b", some .accepted)] ∧
      life.state.state.read "store/x/b/b" = some "second" ∧
      life.state.state.rows.length = 1 := by
  decide +kernel

end Rotation.Life

end Footage
