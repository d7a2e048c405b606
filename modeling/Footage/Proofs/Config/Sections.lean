import Footage.Config.Load
import Footage.Proofs.Config.Fields
import Footage.Proofs.Document.Merging

/-!
# The sections of a configuration

A section that is absent is read as one without entries, so the configuration that a document
denotes is known from the look-ups in its three sections. Texts in the section of directories are
expanded before they are read.
-/

namespace Footage.Config

open Footage.Document Footage.Place

set_option autoImplicit false

def sectionOf (name : String) (table : Table) : Table :=
  Value.tableOrEmpty (Entries.find? name table)

/-- Every section is absent or a table. -/
def Sectioned (table : Table) : Prop :=
  ∀ name ∈ ["paths", "capture", "telemetry"], ∀ value,
    Entries.find? name table = some value → value.isTable = true

theorem optional_section {α : Type} {name : String} {table : Table} {read : Value → Reading α}
    {absent : α} (empty : read (.table []) = .ok absent)
    (shaped : ∀ value, Entries.find? name table = some value → value.isTable = true) :
    table.optional name read absent = read (.table (sectionOf name table)) := by
  unfold Table.optional sectionOf
  rcases found : Entries.find? name table with _ | value
  · exact empty.symm
  · cases value with
    | table entries => rfl
    | _ => cases shaped _ found

section Expansion

variable (env : Environment) (key : String) (entries table : Table)

def expandedValue : Value → Value
  | .text path => .text (env.expandPath path)
  | other => other

theorem expand_entries_eq :
    expandEntries env entries = entries.map fun entry => (entry.1, expandedValue env entry.2) := by
  apply List.map_congr_left
  intro entry _
  obtain ⟨name, value⟩ := entry
  cases value <;> rfl

theorem keys_expand_entries :
    Entries.keys (expandEntries env entries) = Entries.keys entries := by
  simp [expand_entries_eq, Entries.keys]

theorem find?_expand_entries :
    Entries.find? key (expandEntries env entries) =
      (Entries.find? key entries).map (expandedValue env) := by
  rw [expand_entries_eq]
  induction entries with
  | nil => rfl
  | cons entry entries ih =>
      obtain ⟨name, value⟩ := entry
      by_cases same : name = key
      · simp [Entries.find?, same]
      · simp [Entries.find?, same, ih]

theorem expand_paths_ordered {table : Table} (ordered : Entries.Ordered table) :
    Entries.Ordered (expandPaths env table) := by
  unfold expandPaths
  split
  · exact Entries.insert_ordered ordered _ _
  · exact ordered

theorem find?_expand_paths {key : String} (other : key ≠ "paths") :
    Entries.find? key (expandPaths env table) = Entries.find? key table := by
  unfold expandPaths
  split
  · exact Entries.find?_insert_of_ne table _ other
  · rfl

theorem find?_expanded_paths {entries : Table}
    (found : Entries.find? "paths" table = some (.table entries)) :
    Entries.find? "paths" (expandPaths env table) = some (.table (expandEntries env entries)) := by
  simp only [expandPaths, found, Entries.find?_insert_self]

theorem section_expanded :
    sectionOf "paths" (expandPaths env table) = expandEntries env (sectionOf "paths" table) := by
  unfold expandPaths sectionOf
  split
  · rename_i entries found
    rw [Entries.find?_insert_self, found]
    rfl
  · rename_i unshaped
    rcases found : Entries.find? "paths" table with _ | value
    · rfl
    · cases value with
      | table entries => exact absurd found (unshaped entries)
      | _ => rfl

theorem expand_paths_sectioned {table : Table} (sectioned : Sectioned table) :
    Sectioned (expandPaths env table) := by
  intro name known value found
  by_cases same : name = "paths"
  · subst same
    rcases bound : Entries.find? "paths" table with _ | old
    · simp only [expandPaths, bound] at found
      exact sectioned "paths" known value (bound ▸ found)
    · have shaped := sectioned "paths" known old bound
      cases old with
      | table entries =>
          rw [find?_expanded_paths env table bound] at found
          cases found
          rfl
      | _ => cases shaped
  · rw [find?_expand_paths env table same] at found
    exact sectioned name known value found

end Expansion

theorem section_distinct {table : Table} (sorted : (Value.table table).Sorted) (name : String) :
    (Entries.keys (sectionOf name table)).Nodup := by
  unfold sectionOf
  rcases found : Entries.find? name table with _ | value
  · exact List.nodup_nil
  · have inner := sorted.inner found
    cases value with
    | table entries => exact inner.ordered.distinct
    | _ => exact List.nodup_nil

theorem validate_iff {before after : Recorder} :
    validate before = .ok after ↔
      before = after ∧ after.capture.recordWidth ≠ 0 ∧ after.capture.recordHeight ≠ 0 := by
  unfold validate
  split
  · rename_i zero
    constructor
    · intro refused
      cases refused
    · rintro ⟨rfl, width, height⟩
      exact absurd zero (not_or.mpr ⟨width, height⟩)
  · rename_i sizes
    constructor
    · intro same
      cases same
      exact ⟨rfl, not_or.mp sizes⟩
    · rintro ⟨rfl, -⟩
      rfl

structure SectionsRead (env : Environment) (table : Table) (config : Recorder) : Prop where
  paths : Paths.ReadFrom env (expandEntries env (sectionOf "paths" table)) config.paths
  capture : Capture.ReadFrom (sectionOf "capture" table) config.capture
  telemetry : Telemetry.ReadFrom (sectionOf "telemetry" table) config.telemetry
  width : config.capture.recordWidth ≠ 0
  height : config.capture.recordHeight ≠ 0

theorem of_table_validated {env : Environment} {origin : Option String} {table : Table}
    {config : Recorder} : ofTable env origin table = .ok config ↔
      Recorder.ofValue env (.table (expandPaths env table)) = .ok config ∧
        config.capture.recordWidth ≠ 0 ∧ config.capture.recordHeight ≠ 0 := by
  unfold ofTable
  split
  · rename_i read same
    rw [validate_iff, same, Except.ok.injEq]
  · rename_i cause same
    simp [same]

theorem of_table_iff {env : Environment} {origin : Option String} {table : Table}
    {config : Recorder} (sorted : (Value.table table).Sorted) (sectioned : Sectioned table) :
    ofTable env origin table = .ok config ↔ SectionsRead env table config := by
  have shaped := expand_paths_sectioned env sectioned
  have distinct := (expand_paths_ordered env sorted.ordered).distinct
  have directories : (expandPaths env table).optional "paths" (Paths.ofValue env)
      (Paths.default env) = .ok config.paths ↔
        Paths.ReadFrom env (expandEntries env (sectionOf "paths" table)) config.paths := by
    have empty : Paths.ofValue env (.table []) = .ok (Paths.default env) := rfl
    rw [optional_section empty (shaped "paths" (by simp)), section_expanded, Paths.of_value_iff]
    rw [keys_expand_entries]
    exact section_distinct sorted "paths"
  have stream : (expandPaths env table).optional "capture" Capture.ofValue {} =
      .ok config.capture ↔ Capture.ReadFrom (sectionOf "capture" table) config.capture := by
    have empty : Capture.ofValue (.table []) = .ok {} := rfl
    rw [optional_section empty (shaped "capture" (by simp)), sectionOf,
      find?_expand_paths env table (by decide)]
    exact Capture.of_value_iff (section_distinct sorted "capture")
  have logs : (expandPaths env table).optional "telemetry" Telemetry.ofValue {} =
      .ok config.telemetry ↔
        Telemetry.ReadFrom (sectionOf "telemetry" table) config.telemetry := by
    have empty : Telemetry.ofValue (.table []) = .ok {} := rfl
    rw [optional_section empty (shaped "telemetry" (by simp)), sectionOf,
      find?_expand_paths env table (by decide)]
    exact Telemetry.of_value_iff (section_distinct sorted "telemetry")
  rw [of_table_validated, Recorder.of_value_iff distinct]
  constructor
  · rintro ⟨reads, width, height⟩
    exact ⟨directories.mp reads.paths, stream.mp reads.capture, logs.mp reads.telemetry, width,
      height⟩
  · intro reads
    have records : Recorder.ReadFrom env (expandPaths env table) config :=
      ⟨directories.mpr reads.paths, stream.mpr reads.capture, logs.mpr reads.telemetry⟩
    exact ⟨records, reads.width, reads.height⟩

end Footage.Config
