import Footage.Proofs.Config.Overriding
import Footage.Telemetry.LogFilter

/-!
# Which log filter is in force

A filter from the environment goes before the configured level, and the fallback is for want of
both. But a variable with a filter also takes the place of the configured level when the
configuration is loaded, so behind a filter that is not valid there is nothing left but the
fallback.
-/

namespace Footage.Config

open Footage.Document Footage.Place

set_option autoImplicit false

/-- The text that a value counts as. -/
def textOf? : Value → Option String
  | .text text => some text
  | .moment moment => some moment.text
  | _ => none

/-- The log level in a section on the log, which is a table or a list. -/
def levelIn? : Value → Option String
  | .table entries => (Entries.find? "log_level" entries).bind textOf?
  | .list (item :: _) => textOf? item
  | _ => none

def documentLevel? (table : Table) : Option String :=
  (Entries.find? "telemetry" table).bind levelIn?

/-- The configured log level: its variable's, else the document's, else the default. -/
def configuredLevel (env : Environment) (table : Table) : String :=
  ((env.lookup "CLIPREC_LOG_LEVEL").or (documentLevel? table)).getD "info"

theorem text_of_as_text {value : Value} {text : String} (read : value.asText = .ok text) :
    textOf? value = some text := by
  cases value with
  | text value =>
      cases read
      rfl
  | moment value =>
      cases read
      rfl
  | _ => cases read

theorem optional_level {table : Table} {level : String}
    (read : table.optional "log_level" Value.asText "info" = .ok level) :
    level = ((Entries.find? "log_level" table).bind textOf?).getD "info" := by
  simp only [Table.optional] at read
  split at read
  · rename_i value found
    rw [found, Option.bind_some, text_of_as_text read, Option.getD_some]
  · rename_i missing
    cases read
    rw [missing]
    rfl

theorem Telemetry.level_read {value : Value} {telemetry : Telemetry}
    (read : ofValue value = .ok telemetry) : telemetry.logLevel = (levelIn? value).getD "info" := by
  simp only [ofValue, bind_eq_ok] at read
  obtain ⟨entries, taken, level, given, same⟩ := read
  cases same
  have known : level = ((Entries.find? "log_level" entries).bind textOf?).getD "info" :=
    optional_level given
  rw [known]
  cases value with
  | table found => rw [Shape.entries_same taken, levelIn?]
  | list items =>
      simp only [Shape.entries] at taken
      obtain ⟨_, -, taken⟩ := bind_eq_ok.mp taken
      split at taken
      · cases taken
      · split at taken
        · cases taken
        · cases taken
          -- The record has one field, so the first item of the list is the level.
          cases items <;> rfl
  | _ => cases taken

theorem document_level {env : Environment} {origin : Option String} {table : Table}
    {decoded : Recorder} (document : IsDocument table)
    (read : ofTable env origin table = .ok decoded) :
    decoded.telemetry.logLevel = (documentLevel? table).getD "info" := by
  have distinct := (expand_paths_ordered env document.sorted.ordered).distinct
  have record := ((Recorder.of_value_iff distinct).mp (of_table_validated.mp read).1).telemetry
  simp only [Table.optional, find?_expand_paths env table (show "telemetry" ≠ "paths" by decide)]
    at record
  rw [documentLevel?]
  split at record
  · rename_i value found
    rw [found, Option.bind_some]
    exact Telemetry.level_read record
  · rename_i missing
    rw [missing, ← Except.ok.inj record]
    rfl

section Overridden

variable {env : Environment}

def Override.SparesLog (override : Override) : Prop :=
  ∀ text config next, override.apply text config = some next → next.telemetry = config.telemetry

theorem apply_override_spares {override : Override} (spares : override.SparesLog)
    (state : Recorder × Sources) :
    (applyOverride env state override).1.telemetry = state.1.telemetry := by
  rw [applyOverride]
  split
  · rename_i next effective
    obtain ⟨text, -, applied⟩ := Option.bind_eq_some_iff.mp effective
    exact spares text state.1 next applied
  · rfl

theorem apply_overrides_spare {rest : List Override}
    (spare : ∀ override ∈ rest, override.SparesLog) (state : Recorder × Sources) :
    (rest.foldl (applyOverride env) state).1.telemetry = state.1.telemetry := by
  induction rest generalizing state with
  | nil => rfl
  | cons override rest ih =>
      rw [List.forall_mem_cons] at spare
      rw [List.foldl_cons, ih spare.2, apply_override_spares spare.1]

theorem apply_level (name : String) (state : Recorder × Sources) :
    (applyOverride env state
      ⟨name, fun text config => some (config.withLogLevel text)⟩).1.telemetry.logLevel =
        (env.lookup name).getD state.1.telemetry.logLevel := by
  rw [applyOverride]
  rcases set : env.lookup name with _ | text <;> rfl

theorem others_spare_log (env : Environment) :
    ∀ override ∈ (overrides env).take 8, override.SparesLog := by
  intro override member text config next applied
  simp only [overrides, List.take_succ_cons, List.take_zero, List.mem_cons, List.not_mem_nil,
    or_false] at member
  rcases member with rfl | rfl | rfl | rfl | rfl | rfl | rfl | rfl
  case inr.inr.inr.inr.inl =>
    obtain ⟨limit, -, rfl⟩ := Option.map_eq_some_iff.mp applied
    rfl
  case inr.inr.inr.inr.inr.inr.inl =>
    obtain ⟨on, -, rfl⟩ := Option.map_eq_some_iff.mp applied
    rfl
  case inr.inr.inr.inr.inr.inr.inr =>
    obtain ⟨secs, -, rfl⟩ := Option.map_eq_some_iff.mp applied
    rfl
  all_goals
    cases applied
    rfl

/-- The last two variables set the log level, and the last one of all counts. -/
theorem overridden_level (env : Environment) (config : Recorder) (sources : Sources) :
    (applyOverrides env config sources).1.telemetry.logLevel =
      (env.lookup "RUST_LOG").getD
        ((env.lookup "CLIPREC_LOG_LEVEL").getD config.telemetry.logLevel) := by
  have split : overrides env = (overrides env).take 8 ++
      [⟨"CLIPREC_LOG_LEVEL", fun text config => some (config.withLogLevel text)⟩,
        ⟨"RUST_LOG", fun text config => some (config.withLogLevel text)⟩] := rfl
  have before : (((overrides env).take 8).foldl (applyOverride env)
      (config, sources)).1.telemetry = config.telemetry :=
    apply_overrides_spare (others_spare_log env) (config, sources)
  rw [applyOverrides, split, List.foldl_append, List.foldl_cons, List.foldl_cons, List.foldl_nil,
    apply_level, apply_level, before]

end Overridden

theorem loaded_level {env : Environment} {tree : Files.Tree} {files : List String}
    {config : Recorder} {sources : Sources}
    (loaded : loadFiles env tree files = .ok (config, sources)) :
    ∃ tables, files.mapM (loadTable tree) = .ok tables ∧
      config.telemetry.logLevel =
        (env.lookup "RUST_LOG").getD (configuredLevel env (Table.mergeAll tables)) := by
  obtain ⟨tables, read, loaded⟩ := bind_eq_ok.mp loaded
  obtain ⟨decoded, valid, adjusted⟩ := bind_eq_ok.mp loaded
  have document := merge_all_document (documents_loaded read)
  refine ⟨tables, read, ?_⟩
  have same : (applyOverrides env decoded { files := files }).1 = config :=
    congrArg Prod.fst (Except.ok.inj adjusted)
  rw [← same, overridden_level, document_level document valid, configuredLevel]
  cases env.lookup "CLIPREC_LOG_LEVEL" <;> rfl

end Footage.Config

namespace Footage.Telemetry.LogFilter

open Footage.Config Footage.Document Footage.Place

set_option autoImplicit false

/-- The documented order: the variable's filter if there is one and it is valid, else the one of
the configured level if that is valid, and the fallback if neither is. -/
structure Precedence (wanted? : Option String) (level : String) (filter : LogFilter) :
    Prop where
  given : ∀ found, wanted?.bind parse? = some found → filter = found
  configured : wanted?.bind parse? = none → ∀ found, parse? level = some found → filter = found
  neither : wanted?.bind parse? = none → parse? level = none → filter = fallback

theorem precedence_of_valid {wanted? : Option String} {level : String} {filter found : LogFilter}
    (valid : wanted?.bind parse? = some found) :
    Precedence wanted? level filter ↔ filter = found := by
  constructor
  · intro ordered
    exact ordered.given found valid
  · rintro rfl
    exact {
      given := fun other known => Option.some.inj (valid.symm.trans known)
      configured := fun unread => absurd (valid.symm.trans unread) (by simp)
      neither := fun unread => absurd (valid.symm.trans unread) (by simp) }

theorem precedence_of_unread {wanted? : Option String} {level : String} {filter : LogFilter}
    (unread : wanted?.bind parse? = none) :
    Precedence wanted? level filter ↔ filter = (parse? level).getD fallback := by
  constructor
  · intro ordered
    rcases known : parse? level with _ | found
    · exact ordered.neither unread known
    · exact ordered.configured unread found known
  · rintro rfl
    exact {
      given := fun found valid => absurd (unread.symm.trans valid) (by simp)
      configured := fun _ found known => by rw [known, Option.getD_some]
      neither := fun _ known => by rw [known, Option.getD_none] }

theorem precedence_of_fallback {wanted? : Option String} {level : String}
    (unread : wanted?.bind parse? = none) :
    Precedence wanted? level fallback ↔ ∀ found, parse? level = some found → found = fallback := by
  rw [precedence_of_unread unread]
  rcases known : parse? level with _ | found
  · exact ⟨fun _ _ missing => (nomatch missing), fun _ => rfl⟩
  · constructor
    · intro same other given
      rw [← Option.some.inj given, same, Option.getD_some]
    · intro harmless
      exact (harmless found rfl).symm

theorem choose_precedence (env : Environment) (config : Config.Telemetry) :
    Precedence (env.lookup filterVariable) config.logLevel (choose env config) := by
  rcases named : (env.lookup filterVariable).bind parse? with _ | found
  · rw [precedence_of_unread named, choose, named, Option.none_or]
  · rw [precedence_of_valid named, choose, named, Option.some_or, Option.getD_some]

/-- The filter of a loaded configuration is found in the documented order exactly if the variable
is not a text without a filter, or nothing that differs from the fallback is configured beside it;
else the fallback is in force. -/
theorem loaded_filter_precedence {env : Environment} {tree : Files.Tree} {files : List String}
    {config : Recorder} {sources : Sources}
    (loaded : loadFiles env tree files = .ok (config, sources)) :
    ∃ tables, files.mapM (loadTable tree) = .ok tables ∧
      (Precedence (env.lookup filterVariable) (configuredLevel env (Table.mergeAll tables))
          (choose env config.telemetry) ↔
        ∀ text, env.lookup filterVariable = some text → parse? text = none →
          ∀ found, parse? (configuredLevel env (Table.mergeAll tables)) = some found →
            found = fallback) ∧
      ∀ text, env.lookup filterVariable = some text → parse? text = none →
        choose env config.telemetry = fallback := by
  obtain ⟨tables, read, level⟩ := loaded_level loaded
  have chosen := choose_precedence env config.telemetry
  refine ⟨tables, read, ?_⟩
  rcases set : env.lookup filterVariable with _ | text
  · have kept : config.telemetry.logLevel = configuredLevel env (Table.mergeAll tables) := by
      rw [level, show env.lookup "RUST_LOG" = none from set, Option.getD_none]
    rw [set, kept] at chosen
    constructor
    · exact ⟨fun _ _ missing => (nomatch missing), fun _ => chosen⟩
    · exact fun _ missing => nomatch missing
  · have taken : config.telemetry.logLevel = text := by
      rw [level, show env.lookup "RUST_LOG" = some text from set, Option.getD_some]
    rw [set, taken] at chosen
    rcases parsed : parse? text with _ | filter
    · -- The level that was configured is gone: the variable's text stands in its place.
      have unread : (some text).bind parse? = none := parsed
      have lost : choose env config.telemetry = fallback := by
        rw [precedence_of_unread unread, parsed] at chosen
        exact chosen
      refine ⟨?_, fun _ _ _ => lost⟩
      rw [lost, precedence_of_fallback unread]
      exact ⟨fun harmless _ _ _ => harmless, fun harmless => harmless text rfl parsed⟩
    · have valid : (some text).bind parse? = some filter := parsed
      have invalid_not : ∀ other, some text = some other → parse? other ≠ none := by
        intro other same unread
        rw [← Option.some.inj same, parsed] at unread
        cases unread
      rw [precedence_of_valid valid] at chosen ⊢
      constructor
      · exact ⟨fun _ other same unread => absurd unread (invalid_not other same), fun _ => chosen⟩
      · exact fun other same unread => absurd unread (invalid_not other same)

/-- Both variables of the log level are set and the one with a filter counts. -/
theorem loaded_filter_precedence_kennel :
    loadFiles nightShift (oneFile kennelText) ["cliprec.toml"] =
        .ok (kennel, ⟨["cliprec.toml"],
          ["CLIPREC_RECORD_DIR", "CLIPREC_FPS_LIMIT", "CLIPREC_LOG_LEVEL", "RUST_LOG"]⟩) ∧
      choose nightShift kennel.telemetry = ⟨[{ level := .debug }], []⟩ := by
  obtain ⟨tables, -, ordered, -⟩ := loaded_filter_precedence kennel_loaded
  have debug : parse? "debug" = some ⟨[{ level := .debug }], []⟩ := by decide
  have readable : ∀ text, nightShift.lookup filterVariable = some text → parse? text ≠ none := by
    intro text set unread
    cases set
    rw [debug] at unread
    cases unread
  refine ⟨kennel_loaded, ?_⟩
  apply (ordered.mpr _).given _ debug
  exact fun text set unread => absurd unread (readable text set)

/-- The variable asks for a level that there is none of; another one has configured a level. -/
def loud : Environment where
  lookup
    | "HOME" => some "/home"
    | "CLIPREC_LOG_LEVEL" => some "warn"
    | "RUST_LOG" => some "cliprec=loud"
    | _ => none
  accountHome := none

def loudRecorder : Recorder where
  paths := Paths.default loud
  telemetry := { logLevel := "cliprec=loud" }

/-- The configured level is valid, and yet the fallback is in force in its place. -/
theorem configured_level_lost :
    loadFiles loud ⟨[], [], []⟩ [] =
        .ok (loudRecorder, ⟨[], ["CLIPREC_LOG_LEVEL", "RUST_LOG"]⟩) ∧
      configuredLevel loud (Table.mergeAll []) = "warn" ∧
      parse? "cliprec=loud" = none ∧ parse? "warn" = some ⟨[{ level := .warn }], []⟩ ∧
      choose loud loudRecorder.telemetry = fallback ∧
      ¬Precedence (loud.lookup filterVariable) (configuredLevel loud (Table.mergeAll []))
        (choose loud loudRecorder.telemetry) := by
  have unread : parse? "cliprec=loud" = none := by decide
  have warn : parse? "warn" = some ⟨[{ level := .warn }], []⟩ := by decide
  have chosen : choose loud loudRecorder.telemetry = fallback := by decide
  refine ⟨rfl, rfl, unread, warn, chosen, ?_⟩
  intro ordered
  have other := ordered.configured unread _ warn
  rw [chosen] at other
  exact absurd other (by decide)

end Footage.Telemetry.LogFilter
