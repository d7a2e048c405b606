import Footage.Proofs.Config.Overlaying
import Footage.Proofs.Toml.Drafts

/-!
# Overriding variables act like one more configuration file

The fields of a merged section are read one by one, each from its new value or as before. So the
variables that take effect change a loaded configuration as a last file would that binds their
keys, and they change nothing else.
-/

namespace Footage.Config

open Footage.Document Footage.Number Footage.Place

set_option autoImplicit false

/-- A field of a merged section has its new value where there is one. -/
theorem optional_adjusted {α β : Type} {base merged : Table} {name : String}
    {read : Value → Reading α} {absent old : α} {given : Option β} {make : β → Value} {set : β → α}
    (finds : Entries.find? name merged = (given.map make).or (Entries.find? name base))
    (taken : ∀ new ∈ given, read (make new) = .ok (set new))
    (before : base.optional name read absent = .ok old) :
    merged.optional name read absent = .ok ((given.map set).getD old) := by
  cases given with
  | none =>
      simp only [Table.optional, finds, Option.map_none, Option.none_or]
      exact before
  | some new =>
      simp only [Table.optional, finds, Option.map_some, Option.some_or]
      exact taken new rfl

theorem optional_given {α : Type} {base merged : Table} {name : String} {read : Value → Reading α}
    {absent old : α} {given : Option α} {make : α → Value}
    (finds : Entries.find? name merged = (given.map make).or (Entries.find? name base))
    (taken : ∀ new, read (make new) = .ok new)
    (before : base.optional name read absent = .ok old) :
    merged.optional name read absent = .ok (given.getD old) := by
  have adjusted := optional_adjusted finds (fun new _ => taken new) before
  rw [Option.map_id'] at adjusted
  exact adjusted

theorem optional_kept {α : Type} {base merged : Table} {name : String} {read : Value → Reading α}
    {absent old : α} (finds : Entries.find? name merged = Entries.find? name base)
    (before : base.optional name read absent = .ok old) :
    merged.optional name read absent = .ok old := by
  simp only [Table.optional, finds]
  exact before

section Numbers

theorem as_uint32_given {number : Nat} (small : number < UInt32.size) :
    Value.asUInt32 (.integer number) = .ok (UInt32.ofNat number) := by
  have written := Value.as_uint32_written (UInt32.ofNat number)
  rw [UInt32.toNat_ofNat', Nat.mod_eq_of_lt small] at written
  exact written

theorem as_uint64_given {number : Nat} (small : number < UInt64.size) :
    Value.asUInt64 (.integer number) = .ok (UInt64.ofNat number) := by
  have written := Value.as_uint64_written (UInt64.ofNat number)
  rw [UInt64.toNat_ofNat', Nat.mod_eq_of_lt small] at written
  exact written

theorem parse_natural_bound {bound number : Nat} {text : String}
    (parsed : parseNatural bound text = some number) : number < bound := by
  simp only [parseNatural, Option.ite_none_left_eq_some, Option.ite_none_right_eq_some] at parsed
  obtain ⟨-, small, same⟩ := parsed
  exact Option.some.inj same ▸ small

end Numbers

section Sections

variable {env : Environment} {base : Table} {adjustment : Adjustment} {config : Recorder}

theorem find?_adjusted {name key : String} {items : List (String × Option Value)}
    {given : Option (Option Value)} (part : (name, items) ∈ adjustment.sections)
    (item : Entries.find? key items = given) :
    Entries.find? key (sectionOf name (base.merge adjustment.table)) =
      given.join.or (Entries.find? key (sectionOf name base)) := by
  rw [find?_merged part, find?_bound (Adjustment.items_distinct part), item]

theorem paths_adjusted
    (before : Paths.ReadFrom env (expandEntries env (sectionOf "paths" base)) config.paths) :
    Paths.ReadFrom env (expandEntries env (sectionOf "paths" (base.merge adjustment.table)))
      (adjustment.apply env config).paths := by
  have part := Adjustment.paths_part adjustment
  have adjusted {key absent old : String} {given : Option String}
      (item : Entries.find? key adjustment.pathItems = some (given.map .text))
      (read : (expandEntries env (sectionOf "paths" base)).optional key Value.asPath absent =
        .ok old) :
      (expandEntries env (sectionOf "paths" (base.merge adjustment.table))).optional key
        Value.asPath absent = .ok ((given.map env.expandPath).getD old) := by
    have finds : Entries.find? key
        (expandEntries env (sectionOf "paths" (base.merge adjustment.table))) =
          (given.map fun raw => .text (env.expandPath raw)).or
            (Entries.find? key (expandEntries env (sectionOf "paths" base))) := by
      rw [find?_expand_entries, find?_adjusted part item, find?_expand_entries]
      cases given <;> rfl
    exact optional_adjusted finds (fun _ _ => rfl) read
  exact ⟨adjusted rfl before.recordDir, adjusted rfl before.storageDir,
    adjusted rfl before.configDir, adjusted rfl before.indexPath⟩

theorem capture_adjusted (limit : ∀ number ∈ adjustment.fpsLimit, number < UInt32.size)
    (interval : ∀ secs ∈ adjustment.statsIntervalSecs, secs < UInt64.size)
    (before : Capture.ReadFrom (sectionOf "capture" base) config.capture) :
    Capture.ReadFrom (sectionOf "capture" (base.merge adjustment.table))
      (adjustment.apply env config).capture := by
  have part := Adjustment.capture_part adjustment
  have kept {α : Type} {key : String} {read : Value → Reading α} {absent old : α}
      (item : Entries.find? key adjustment.captureItems = none) :
      (sectionOf "capture" base).optional key read absent = .ok old →
        (sectionOf "capture" (base.merge adjustment.table)).optional key read absent = .ok old :=
    optional_kept (find?_adjusted part item)
  exact {
    recordWidth := kept rfl before.recordWidth
    recordHeight := kept rfl before.recordHeight
    fpsLimit := optional_adjusted (find?_adjusted part rfl)
      (fun number given => as_uint32_given (limit number given)) before.fpsLimit
    recordAudio := kept rfl before.recordAudio
    audioMute := kept rfl before.audioMute
    forceTcp := kept rfl before.forceTcp
    fastStart := kept rfl before.fastStart
    recordInMemory :=
      optional_given (find?_adjusted part rfl) (fun _ => rfl) before.recordInMemory
    qualityProfile := kept rfl before.qualityProfile
    maxOutputWidth := kept rfl before.maxOutputWidth
    maxOutputHeight := kept rfl before.maxOutputHeight
    hwAccelDevice := optional_given (find?_adjusted part rfl) (fun _ => rfl) before.hwAccelDevice
    timestamps := kept rfl before.timestamps
    statsIntervalSecs := optional_adjusted (find?_adjusted part rfl)
      (fun secs given => as_uint64_given (interval secs given)) before.statsIntervalSecs }

theorem telemetry_adjusted
    (before : Telemetry.ReadFrom (sectionOf "telemetry" base) config.telemetry) :
    Telemetry.ReadFrom (sectionOf "telemetry" (base.merge adjustment.table))
      (adjustment.apply env config).telemetry := by
  have part := Adjustment.telemetry_part adjustment
  exact ⟨optional_given (find?_adjusted part rfl) (fun _ => rfl) before.logLevel⟩

/-- A configuration is adjusted by merging a table into its document. -/
theorem sections_adjusted (limit : ∀ number ∈ adjustment.fpsLimit, number < UInt32.size)
    (interval : ∀ secs ∈ adjustment.statsIntervalSecs, secs < UInt64.size)
    (before : SectionsRead env base config) :
    SectionsRead env (base.merge adjustment.table) (adjustment.apply env config) where
  paths := paths_adjusted before.paths
  capture := capture_adjusted limit interval before.capture
  telemetry := telemetry_adjusted before.telemetry
  width := before.width
  height := before.height

end Sections

namespace Adjustment

variable {env : Environment} {names : List String}

theorem given_binds {α : Type} {name : String} {read : String → Option α} {value : α} :
    (given env names name).bind read = some value ↔
      name ∈ names ∧ (env.lookup name).bind read = some value := by
  by_cases named : name ∈ names <;> simp [given, named]

/-- A variable among the named ones has the value for the path; the log level is taken from the
later of its two variables. -/
def Binds (env : Environment) (names path : List String) (value : Value) : Prop :=
  ∃ known ∈ knownVariables, known.name ∈ names ∧ known.path = path ∧
    (env.lookup known.name).bind known.read = some value ∧
      (known.name = "CLIPREC_LOG_LEVEL" → "RUST_LOG" ∉ names)

theorem text_binds {name : String} {value : Value} :
    (given env names name).map .text = some value ↔
      name ∈ names ∧ ((env.lookup name).bind fun text => some (.text text)) = some value := by
  rw [Option.map_eq_bind]
  exact given_binds

theorem read_binds {α : Type} {name : String} {read : String → Option α} {make : α → Value}
    {value : Value} : ((given env names name).bind read).map make = some value ↔
      name ∈ names ∧ ((env.lookup name).bind fun text => (read text).map make) = some value := by
  rw [Option.map_bind]
  exact given_binds

theorem binds_of_table (rust : "RUST_LOG" ∈ names → ∃ text, env.lookup "RUST_LOG" = some text)
    {name key : String} {value : Value}
    (found : (Value.table (ofVariables env names).table).at? [name, key] = some value) :
    Binds env names [name, key] value := by
  obtain ⟨items, part, member⟩ := table_binds.mp found
  simp only [sections, List.mem_cons, List.not_mem_nil, or_false, Prod.mk.injEq] at part
  rcases part with ⟨rfl, rfl⟩ | ⟨rfl, rfl⟩ | ⟨rfl, rfl⟩
  · simp only [captureItems, ofVariables, List.mem_cons, List.not_mem_nil, or_false,
      Prod.mk.injEq] at member
    rcases member with ⟨rfl, same⟩ | ⟨rfl, same⟩ | ⟨rfl, same⟩ | ⟨rfl, same⟩
    · simpa [Binds, knownVariables] using read_binds.mp same.symm
    · simpa [Binds, knownVariables] using text_binds.mp same.symm
    · simpa [Binds, knownVariables] using read_binds.mp same.symm
    · simpa [Binds, knownVariables] using read_binds.mp same.symm
  · simp only [pathItems, ofVariables, List.mem_cons, List.not_mem_nil, or_false,
      Prod.mk.injEq] at member
    rcases member with ⟨rfl, same⟩ | ⟨rfl, same⟩ | ⟨rfl, same⟩ | ⟨rfl, same⟩
    all_goals simpa [Binds, knownVariables] using text_binds.mp same.symm
  · simp only [telemetryItems, ofVariables, List.mem_cons, List.not_mem_nil, or_false,
      Prod.mk.injEq] at member
    obtain ⟨rfl, same⟩ := member
    by_cases named : "RUST_LOG" ∈ names
    · obtain ⟨text, set⟩ := rust named
      have given_rust : given env names "RUST_LOG" = some text := by simp [given, named, set]
      simp only [given_rust, Option.some_or] at same
      simpa [Binds, knownVariables, named, set] using same.symm
    · have unset : given env names "RUST_LOG" = none := if_neg named
      simp only [unset, Option.none_or] at same
      simpa [Binds, knownVariables, named] using text_binds.mp same.symm

theorem text_item {items : List (String × Option Value)} {name key : String} {value : Value}
    (item : (key, (given env names name).map .text) ∈ items) (named : name ∈ names)
    (found : ((env.lookup name).bind fun text => some (.text text)) = some value) :
    (key, some value) ∈ items := by
  rw [← text_binds.mpr ⟨named, found⟩]
  exact item

theorem read_item {α : Type} {items : List (String × Option Value)} {name key : String}
    {value : Value} {read : String → Option α} {make : α → Value}
    (item : (key, ((given env names name).bind read).map make) ∈ items) (named : name ∈ names)
    (found : ((env.lookup name).bind fun text => (read text).map make) = some value) :
    (key, some value) ∈ items := by
  rw [← read_binds.mpr ⟨named, found⟩]
  exact item

theorem table_of_binds {name key : String} {value : Value}
    (binds : Binds env names [name, key] value) :
    (Value.table (ofVariables env names).table).at? [name, key] = some value := by
  obtain ⟨known, listed, named, path, found, level⟩ := binds
  apply table_binds.mpr
  simp only [knownVariables, List.mem_cons, List.not_mem_nil, or_false] at listed
  rcases listed with rfl | rfl | rfl | rfl | rfl | rfl | rfl | rfl | rfl | rfl
  · cases path
    exact ⟨_, paths_part _, text_item (by simp [pathItems, ofVariables]) named found⟩
  · cases path
    exact ⟨_, paths_part _, text_item (by simp [pathItems, ofVariables]) named found⟩
  · cases path
    exact ⟨_, paths_part _, text_item (by simp [pathItems, ofVariables]) named found⟩
  · cases path
    exact ⟨_, paths_part _, text_item (by simp [pathItems, ofVariables]) named found⟩
  · cases path
    exact ⟨_, capture_part _, read_item (by simp [captureItems, ofVariables]) named found⟩
  · cases path
    exact ⟨_, capture_part _, text_item (by simp [captureItems, ofVariables]) named found⟩
  · cases path
    exact ⟨_, capture_part _, read_item (by simp [captureItems, ofVariables]) named found⟩
  · cases path
    exact ⟨_, capture_part _, read_item (by simp [captureItems, ofVariables]) named found⟩
  · cases path
    have unset : given env names "RUST_LOG" = none := if_neg (level rfl)
    have item : ("log_level", (given env names "CLIPREC_LOG_LEVEL").map .text) ∈
        (ofVariables env names).telemetryItems := by
      simp [telemetryItems, ofVariables, unset]
    exact ⟨_, telemetry_part _, text_item item named found⟩
  · cases path
    obtain ⟨text, given_rust, rfl⟩ := Option.map_eq_some_iff.mp (text_binds.mpr ⟨named, found⟩)
    exact ⟨_, telemetry_part _, by simp [telemetryItems, ofVariables, given_rust]⟩

/-- The table binds the values of the variables and no other plain value. -/
theorem table_leaves (rust : "RUST_LOG" ∈ names → ∃ text, env.lookup "RUST_LOG" = some text)
    {path : List String} {value : Value} (plain : value.isTable = false) :
    (Value.table (ofVariables env names).table).at? path = some value ↔
      Binds env names path value := by
  constructor
  · intro found
    match path with
    | [] =>
        cases found
        cases plain
    | [name] =>
        obtain ⟨_, inner, same⟩ := Option.bind_eq_some_iff.mp found
        cases same
        obtain ⟨items, -, rfl⟩ := section_known (Entries.mem_of_find? inner)
        cases plain
    | [name, key] => exact binds_of_table rust found
    | name :: key :: further :: rest =>
        obtain ⟨_, inner, below⟩ := Option.bind_eq_some_iff.mp found
        obtain ⟨items, part, rfl⟩ := section_known (Entries.mem_of_find? inner)
        obtain ⟨leaf, bound_in, deeper⟩ := Option.bind_eq_some_iff.mp below
        have member := mem_bound.mp (Entries.mem_of_find? bound_in)
        rw [Value.at_plain (items_plain part _ member leaf rfl) (by simp)] at deeper
        cases deeper
  · intro binds
    have pair : ∃ name key, path = [name, key] := by
      obtain ⟨known, listed, -, same, -⟩ := binds
      simp only [knownVariables, List.mem_cons, List.not_mem_nil, or_false] at listed
      rcases listed with rfl | rfl | rfl | rfl | rfl | rfl | rfl | rfl | rfl | rfl
      all_goals exact ⟨_, _, same.symm⟩
    obtain ⟨name, key, rfl⟩ := pair
    exact table_of_binds binds

theorem limit_small {number : Nat} (given : number ∈ (ofVariables env names).fpsLimit) :
    number < UInt32.size := by
  obtain ⟨text, -, parsed⟩ := Option.bind_eq_some_iff.mp given
  exact parse_natural_bound parsed

theorem interval_small {secs : Nat} (given : secs ∈ (ofVariables env names).statsIntervalSecs) :
    secs < UInt64.size := by
  obtain ⟨text, -, parsed⟩ := Option.bind_eq_some_iff.mp given
  exact parse_natural_bound parsed

theorem interval_adjusted {config : Recorder} {secs : Nat}
    (given : secs ∈ (ofVariables env names).statsIntervalSecs) :
    ((ofVariables env names).apply env config).capture.statsIntervalSecs.toNat = secs := by
  have set : (ofVariables env names).statsIntervalSecs = some secs := given
  simp only [apply, set, Option.map_some, Option.getD_some, UInt64.toNat_ofNat']
  exact Nat.mod_eq_of_lt (interval_small given)

end Adjustment

theorem documents_loaded {tree : Files.Tree} {files : List String} {tables : List Table}
    (loaded : files.mapM (loadTable tree) = .ok tables) : ∀ table ∈ tables, IsDocument table := by
  intro table member
  obtain ⟨file, -, here⟩ := map_from loaded table member
  simp only [loadTable, parseTable] at here
  split at here
  · split at here
    · rename_i read
      cases here
      exact read_document read
    · cases here
  · cases here

/-- A loaded configuration is the one of its documents, adjusted by the variables that take
effect. -/
theorem loaded_adjusts {env : Environment} {tree : Files.Tree} {files : List String}
    {config : Recorder} {sources : Sources}
    (loaded : loadFiles env tree files = .ok (config, sources)) :
    ∃ tables decoded, files.mapM (loadTable tree) = .ok tables ∧
      ofTable env files.getLast? (Table.mergeAll tables) = .ok decoded ∧
      config = (Adjustment.ofVariables env sources.overrides).apply env decoded ∧
      ∀ name ∈ sources.overrides, Readable env name := by
  obtain ⟨tables, read, loaded⟩ := bind_eq_ok.mp loaded
  obtain ⟨decoded, valid, adjusted⟩ := bind_eq_ok.mp loaded
  obtain ⟨names, run, readable⟩ := Adjustment.overrides_adjust env decoded files
  rw [run] at adjusted
  cases adjusted
  exact ⟨tables, decoded, read, valid, rfl, readable⟩

/-- The variables that take effect change a loaded configuration as one more file would that
binds their keys to their values. -/
theorem overrides_act_as_document {env : Environment} {tree : Files.Tree} {files : List String}
    {config : Recorder} {sources : Sources}
    (loaded : loadFiles env tree files = .ok (config, sources)) :
    ∃ tables decoded, files.mapM (loadTable tree) = .ok tables ∧
      ofTable env files.getLast? (Table.mergeAll tables) = .ok decoded ∧
      Spares sources.overrides decoded config ∧
      config.capture.recordWidth ≠ 0 ∧ config.capture.recordHeight ≠ 0 ∧
      (∀ name ∈ sources.overrides, Readable env name) ∧
      (Sectioned (Table.mergeAll tables) →
        config.capture.statsIntervalSecs.toNat ≤ greatestInteger →
        ∃ overlay, IsDocument overlay ∧
          (∀ path value, value.isTable = false →
            ((Value.table overlay).at? path = some value ↔
              Adjustment.Binds env sources.overrides path value)) ∧
          ∀ origin, ofTable env origin ((Table.mergeAll tables).merge overlay) = .ok config) := by
  obtain ⟨tables, decoded, read, valid, rfl, readable⟩ := loaded_adjusts loaded
  have document := merge_all_document (documents_loaded read)
  obtain ⟨-, width, height⟩ := of_table_validated.mp valid
  refine ⟨tables, decoded, read, valid, adjustment_spares env sources.overrides decoded, width,
    height, readable, ?_⟩
  intro sectioned interval
  have overlay : IsDocument (Adjustment.ofVariables env sources.overrides).table := by
    refine ⟨Adjustment.table_sorted, Adjustment.table_fits ?_ ?_⟩
    · intro number given
      have small := Adjustment.limit_small given
      simp only [UInt32.size] at small
      simp only [greatestInteger]
      omega
    · intro secs given
      exact Adjustment.interval_adjusted given ▸ interval
  have rust : "RUST_LOG" ∈ sources.overrides → ∃ text, env.lookup "RUST_LOG" = some text := by
    intro named
    obtain ⟨known, -, -, value, found⟩ := readable "RUST_LOG" named
    obtain ⟨text, set, -⟩ := Option.bind_eq_some_iff.mp found
    exact ⟨text, set⟩
  refine ⟨_, overlay, fun path value plain => Adjustment.table_leaves rust plain, ?_⟩
  intro origin
  have sections := (of_table_iff document.sorted sectioned).mp valid
  apply (of_table_iff (merge_document document overlay).sorted _).mpr
  · exact sections_adjusted (fun _ given => Adjustment.limit_small given)
      (fun _ given => Adjustment.interval_small given) sections
  · exact merge_sectioned overlay.sorted.ordered.distinct sectioned Adjustment.table_sectioned

section Witness

open Footage.Files

theorem text_of_text (text : String) : (Content.ofText text).text? = some text := by
  simp only [Content.ofText, Content.text?, String.fromUTF8?, Array.toArray_toList]
  have valid : text.toUTF8.IsValidUTF8 := text.isValidUTF8
  exact dif_pos valid

def oneFile (text : String) : Tree where
  entries := [(["cliprec.toml"], .file (.ofText text))]
  workingDir := []
  mounts := []

theorem load_one_file (text : String) :
    loadTable (oneFile text) "cliprec.toml" = parseTable "cliprec.toml" text := by
  have content : (oneFile text).read "cliprec.toml" = .ok (.ofText text) := rfl
  simp only [loadTable, Tree.readText, content, bind, Except.bind, text_of_text]

/-- Both variables of the log level are set, and one variable has no number in it. -/
def nightShift : Environment where
  lookup
    | "HOME" => some "/home"
    | "CLIPREC_RECORD_DIR" => some "~/live"
    | "CLIPREC_FPS_LIMIT" => some "+15"
    | "CLIPREC_STATS_INTERVAL" => some "soon"
    | "CLIPREC_LOG_LEVEL" => some "warn"
    | "RUST_LOG" => some "debug"
    | _ => none
  accountHome := none

def kennelText : String := "[capture]\nfps_limit = 5\nrecord_audio = false\n"

def kennelSection : Toml.Section :=
  ⟨["capture"], [("fps_limit", .integer 5), ("record_audio", .boolean false)]⟩

def kennelTable : Table :=
  [("capture", .table [("fps_limit", .integer 5), ("record_audio", .boolean false)])]

def kennel : Recorder where
  paths := { Paths.default nightShift with recordDir := "/home/live" }
  capture := { fpsLimit := 15, recordAudio := false }
  telemetry := { logLevel := "debug" }

theorem kennel_denotes : Toml.read? kennelText = some kennelTable := by
  have writable : kennelSection.Writable := by
    apply Toml.Section.writable_of_keys (by decide)
    simp [Toml.Scalar.Fits]
  have written : kennelSection.render = kennelText := by decide +kernel
  rw [← written]
  exact Toml.read_section writable

theorem kennel_read :
    ["cliprec.toml"].mapM (loadTable (oneFile kennelText)) = .ok [kennelTable] := by
  simp only [List.mapM_cons, List.mapM_nil, load_one_file, parseTable, kennel_denotes]
  rfl

theorem kennel_loaded : loadFiles nightShift (oneFile kennelText) ["cliprec.toml"] =
    .ok (kennel, ⟨["cliprec.toml"],
      ["CLIPREC_RECORD_DIR", "CLIPREC_FPS_LIMIT", "CLIPREC_LOG_LEVEL", "RUST_LOG"]⟩) := by
  simp only [loadFiles, kennel_read]
  rfl

theorem overrides_act_as_document_kennel :
    loadFiles nightShift (oneFile kennelText) ["cliprec.toml"] =
        .ok (kennel, ⟨["cliprec.toml"],
          ["CLIPREC_RECORD_DIR", "CLIPREC_FPS_LIMIT", "CLIPREC_LOG_LEVEL", "RUST_LOG"]⟩) ∧
      ∃ overlay, IsDocument overlay ∧
        (Value.table overlay).at? ["telemetry", "log_level"] = some (.text "debug") ∧
        ofTable nightShift none ((Table.mergeAll [kennelTable]).merge overlay) = .ok kennel := by
  obtain ⟨tables, decoded, read, -, -, -, -, -, document⟩ := overrides_act_as_document kennel_loaded
  rw [kennel_read] at read
  cases read
  have sectioned : Sectioned (Table.mergeAll [kennelTable]) := by
    intro name known value found
    have member : (name, value) ∈ kennelTable := Entries.mem_of_find? found
    cases List.mem_singleton.mp member
    rfl
  obtain ⟨overlay, proper, binds, same⟩ := document sectioned (by decide)
  refine ⟨kennel_loaded, overlay, proper, (binds _ (.text "debug") rfl).mpr ?_, same none⟩
  refine ⟨⟨"RUST_LOG", ["telemetry", "log_level"], fun text => some (.text text)⟩, ?_⟩
  exact ⟨by simp [knownVariables], by simp, rfl, rfl, by simp⟩

end Witness

end Footage.Config
