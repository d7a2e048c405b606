import Footage.Config.Overrides
import Footage.Proofs.Document.Fields

/-!
# What the environment variables change

The variables that have taken effect amount to an adjustment: a new value for some of the fields.
One variable after the other extends the adjustment by its own field, and both variables of the
log level extend the same one.
-/

namespace Footage.Config

open Footage.Document Footage.Number Footage.Place

set_option autoImplicit false

structure Variable where
  name : String
  path : List String
  read : String → Option Value

def knownVariables : List Variable :=
  [⟨"CLIPREC_RECORD_DIR", ["paths", "record_dir"], fun text => some (.text text)⟩,
    ⟨"CLIPREC_STORAGE_DIR", ["paths", "storage_dir"], fun text => some (.text text)⟩,
    ⟨"CLIPREC_CONFIG_DIR", ["paths", "config_dir"], fun text => some (.text text)⟩,
    ⟨"CLIPREC_INDEX_PATH", ["paths", "index_path"], fun text => some (.text text)⟩,
    ⟨"CLIPREC_FPS_LIMIT", ["capture", "fps_limit"],
      fun text => (parseNatural UInt32.size text).map fun limit : Nat => .integer limit⟩,
    ⟨"CLIPREC_HW_DEVICE", ["capture", "hw_accel_device"], fun text => some (.text text)⟩,
    ⟨"CLIPREC_RECORD_IN_MEMORY", ["capture", "record_in_memory"],
      fun text => (parseTruth text).map .boolean⟩,
    ⟨"CLIPREC_STATS_INTERVAL", ["capture", "stats_interval_secs"],
      fun text => (parseNatural UInt64.size text).map fun secs : Nat => .integer secs⟩,
    ⟨"CLIPREC_LOG_LEVEL", ["telemetry", "log_level"], fun text => some (.text text)⟩,
    ⟨"RUST_LOG", ["telemetry", "log_level"], fun text => some (.text text)⟩]

def Readable (env : Environment) (name : String) : Prop :=
  ∃ known ∈ knownVariables, known.name = name ∧
    ∃ value, (env.lookup name).bind known.read = some value

/-- New values for some of the fields, paths before their expansion. -/
structure Adjustment where
  recordDir : Option String
  storageDir : Option String
  configDir : Option String
  indexPath : Option String
  fpsLimit : Option Nat
  hwAccelDevice : Option String
  recordInMemory : Option Bool
  statsIntervalSecs : Option Nat
  logLevel : Option String

namespace Adjustment

def given (env : Environment) (names : List String) (name : String) : Option String :=
  if name ∈ names then env.lookup name else none

def ofVariables (env : Environment) (names : List String) : Adjustment where
  recordDir := given env names "CLIPREC_RECORD_DIR"
  storageDir := given env names "CLIPREC_STORAGE_DIR"
  configDir := given env names "CLIPREC_CONFIG_DIR"
  indexPath := given env names "CLIPREC_INDEX_PATH"
  fpsLimit := (given env names "CLIPREC_FPS_LIMIT").bind (parseNatural UInt32.size)
  hwAccelDevice := given env names "CLIPREC_HW_DEVICE"
  recordInMemory := (given env names "CLIPREC_RECORD_IN_MEMORY").bind parseTruth
  statsIntervalSecs := (given env names "CLIPREC_STATS_INTERVAL").bind (parseNatural UInt64.size)
  logLevel := (given env names "RUST_LOG").or (given env names "CLIPREC_LOG_LEVEL")

def apply (env : Environment) (adjustment : Adjustment) (config : Recorder) : Recorder where
  paths :=
    { recordDir := (adjustment.recordDir.map env.expandPath).getD config.paths.recordDir
      storageDir := (adjustment.storageDir.map env.expandPath).getD config.paths.storageDir
      configDir := (adjustment.configDir.map env.expandPath).getD config.paths.configDir
      indexPath := (adjustment.indexPath.map env.expandPath).getD config.paths.indexPath }
  capture :=
    { config.capture with
      fpsLimit := (adjustment.fpsLimit.map UInt32.ofNat).getD config.capture.fpsLimit
      hwAccelDevice := adjustment.hwAccelDevice.getD config.capture.hwAccelDevice
      recordInMemory := adjustment.recordInMemory.getD config.capture.recordInMemory
      statsIntervalSecs :=
        (adjustment.statsIntervalSecs.map UInt64.ofNat).getD config.capture.statsIntervalSecs }
  telemetry := { logLevel := adjustment.logLevel.getD config.telemetry.logLevel }

variable {env : Environment} {names : List String} {name other text : String}

theorem given_last (set : env.lookup name = some text) :
    given env (names ++ [name]) name = some text := by
  simp [given, set]

theorem given_other (differs : other ≠ name) :
    given env (names ++ [name]) other = given env names other := by
  simp [given, differs]

/-- A variable that takes effect extends the adjustment by its own value. -/
theorem override_extends {override : Override} (known : override ∈ overrides env)
    (later : override.name = "CLIPREC_LOG_LEVEL" → "RUST_LOG" ∉ names)
    (set : env.lookup override.name = some text) {config next : Recorder}
    (applied : override.apply text ((ofVariables env names).apply env config) = some next) :
    next = (ofVariables env (names ++ [override.name])).apply env config := by
  simp only [overrides, List.mem_cons, List.not_mem_nil, or_false] at known
  rcases known with rfl | rfl | rfl | rfl | rfl | rfl | rfl | rfl | rfl | rfl
  · cases applied
    simp [apply, ofVariables, given_last set, given_other, Recorder.mapPaths]
  · cases applied
    simp [apply, ofVariables, given_last set, given_other, Recorder.mapPaths]
  · cases applied
    simp [apply, ofVariables, given_last set, given_other, Recorder.mapPaths]
  · cases applied
    simp [apply, ofVariables, given_last set, given_other, Recorder.mapPaths]
  · obtain ⟨limit, parsed, rfl⟩ := Option.map_eq_some_iff.mp applied
    simp [apply, ofVariables, given_last set, given_other, Recorder.mapCapture, parsed]
  · cases applied
    simp [apply, ofVariables, given_last set, given_other, Recorder.mapCapture]
  · obtain ⟨on, parsed, rfl⟩ := Option.map_eq_some_iff.mp applied
    simp [apply, ofVariables, given_last set, given_other, Recorder.mapCapture, parsed]
  · obtain ⟨secs, parsed, rfl⟩ := Option.map_eq_some_iff.mp applied
    simp [apply, ofVariables, given_last set, given_other, Recorder.mapCapture, parsed]
  · cases applied
    have rust : given env names "RUST_LOG" = none := if_neg (later rfl)
    simp [apply, ofVariables, given_last set, given_other, rust, Recorder.withLogLevel]
  · cases applied
    simp [apply, ofVariables, given_last set, given_other, Recorder.withLogLevel]

theorem override_readable {override : Override} (known : override ∈ overrides env)
    (set : env.lookup override.name = some text) {config next : Recorder}
    (applied : override.apply text config = some next) : Readable env override.name := by
  simp only [overrides, List.mem_cons, List.not_mem_nil, or_false] at known
  rcases known with rfl | rfl | rfl | rfl | rfl | rfl | rfl | rfl | rfl | rfl
  case inr.inr.inr.inr.inl =>
    obtain ⟨limit, parsed, -⟩ := Option.map_eq_some_iff.mp applied
    simp [Readable, knownVariables, set, parsed]
  case inr.inr.inr.inr.inr.inr.inl =>
    obtain ⟨on, parsed, -⟩ := Option.map_eq_some_iff.mp applied
    simp [Readable, knownVariables, set, parsed]
  case inr.inr.inr.inr.inr.inr.inr.inl =>
    obtain ⟨secs, parsed, -⟩ := Option.map_eq_some_iff.mp applied
    simp [Readable, knownVariables, set, parsed]
  all_goals simp [Readable, knownVariables, set]

theorem overrides_extend {rest : List Override}
    (known : ∀ override ∈ rest, override ∈ overrides env)
    (ordered : rest.Pairwise fun first second =>
      first.name = "RUST_LOG" → second.name ≠ "CLIPREC_LOG_LEVEL")
    (earlier : "RUST_LOG" ∈ names → ∀ override ∈ rest, override.name ≠ "CLIPREC_LOG_LEVEL")
    (readable : ∀ name ∈ names, Readable env name) (config : Recorder) (files : List String) :
    ∃ last, rest.foldl (applyOverride env)
        ((ofVariables env names).apply env config, ⟨files, names⟩) =
      ((ofVariables env last).apply env config, ⟨files, last⟩) ∧
        ∀ name ∈ last, Readable env name := by
  induction rest generalizing names with
  | nil => exact ⟨names, rfl, readable⟩
  | cons override rest ih =>
      obtain ⟨here, further⟩ := List.forall_mem_cons.mp known
      obtain ⟨after, ordered⟩ := List.pairwise_cons.mp ordered
      simp only [List.foldl_cons, applyOverride]
      split
      · rename_i next effective
        obtain ⟨text, set, applied⟩ := Option.bind_eq_some_iff.mp effective
        -- Of the two variables of the log level the general one comes last, so it wins.
        have later : override.name = "CLIPREC_LOG_LEVEL" → "RUST_LOG" ∉ names :=
          fun level rust => earlier rust override List.mem_cons_self level
        rw [override_extends here later set applied]
        apply ih further ordered
        · intro rust other member
          rcases List.mem_append.mp rust with before | now
          · exact earlier before other (List.mem_cons_of_mem _ member)
          · exact after other member (List.mem_singleton.mp now).symm
        · intro name member
          rcases List.mem_append.mp member with before | now
          · exact readable name before
          · cases List.mem_singleton.mp now
            exact override_readable here set applied
      · apply ih further ordered _ readable
        exact fun rust other member => earlier rust other (List.mem_cons_of_mem _ member)

theorem overrides_adjust (env : Environment) (config : Recorder) (files : List String) :
    ∃ names, applyOverrides env config { files := files } =
      ((ofVariables env names).apply env config, ⟨files, names⟩) ∧
        ∀ name ∈ names, Readable env name := by
  have unchanged : (ofVariables env []).apply env config = config := rfl
  have ordered : (overrides env).Pairwise fun first second =>
      first.name = "RUST_LOG" → second.name ≠ "CLIPREC_LOG_LEVEL" := by
    simp [overrides]
  have none_readable : ∀ name ∈ [], Readable env name :=
    fun _ member => absurd member List.not_mem_nil
  have run := overrides_extend (fun _ member => member) ordered
    (fun rust => absurd rust List.not_mem_nil) none_readable config files
  rw [unchanged] at run
  exact run

end Adjustment

/-- The fields whose variables are not among the named ones are the same. -/
structure Spares (names : List String) (before after : Recorder) : Prop where
  recordDir : "CLIPREC_RECORD_DIR" ∉ names → after.paths.recordDir = before.paths.recordDir
  storageDir : "CLIPREC_STORAGE_DIR" ∉ names → after.paths.storageDir = before.paths.storageDir
  configDir : "CLIPREC_CONFIG_DIR" ∉ names → after.paths.configDir = before.paths.configDir
  indexPath : "CLIPREC_INDEX_PATH" ∉ names → after.paths.indexPath = before.paths.indexPath
  fpsLimit : "CLIPREC_FPS_LIMIT" ∉ names → after.capture.fpsLimit = before.capture.fpsLimit
  hwAccelDevice :
    "CLIPREC_HW_DEVICE" ∉ names → after.capture.hwAccelDevice = before.capture.hwAccelDevice
  recordInMemory : "CLIPREC_RECORD_IN_MEMORY" ∉ names →
    after.capture.recordInMemory = before.capture.recordInMemory
  statsIntervalSecs : "CLIPREC_STATS_INTERVAL" ∉ names →
    after.capture.statsIntervalSecs = before.capture.statsIntervalSecs
  logLevel : "CLIPREC_LOG_LEVEL" ∉ names → "RUST_LOG" ∉ names →
    after.telemetry.logLevel = before.telemetry.logLevel
  /-- No variable sets any other field. -/
  others : after.capture =
    { before.capture with
      fpsLimit := after.capture.fpsLimit
      hwAccelDevice := after.capture.hwAccelDevice
      recordInMemory := after.capture.recordInMemory
      statsIntervalSecs := after.capture.statsIntervalSecs }

theorem adjustment_spares (env : Environment) (names : List String) (config : Recorder) :
    Spares names config ((Adjustment.ofVariables env names).apply env config) := by
  have unset {name : String} (missing : name ∉ names) :
      Adjustment.given env names name = none := if_neg missing
  constructor
  case others => rfl
  case logLevel =>
    intro level rust
    simp [Adjustment.apply, Adjustment.ofVariables, unset level, unset rust]
  all_goals
    intro missing
    simp [Adjustment.apply, Adjustment.ofVariables, unset missing]

end Footage.Config
