import Footage.Config.Render
import Footage.Proofs.Config.Records
import Footage.Proofs.Config.Sections
import Footage.Proofs.Toml.Documents
import Footage.Proofs.Toml.Drafts

/-!
# Reading a written configuration gives it back

The text of a configuration is read into the tables of its layout, whose order no record depends
on. Reading expands the directories once more, so the configuration itself comes back where the
environment leaves them as they are.
-/

namespace Footage.Config

open Footage.Document Footage.Place Footage.Toml

set_option autoImplicit false

def layout (paths capture overlay telemetry : List (String × Scalar)) : List Section :=
  [⟨["paths"], paths⟩, ⟨["capture"], capture⟩, ⟨["capture", "timestamps"], overlay⟩,
    ⟨["telemetry"], telemetry⟩]

section Layout

variable {paths capture overlay telemetry : List (String × Scalar)}

theorem layout_attached
    (writable : ∀ part ∈ layout paths capture overlay telemetry, part.Writable)
    (free : "timestamps" ∉ capture.map Prod.fst) :
    (layout paths capture overlay telemetry).foldlM Progress.addSection .start =
      some ⟨[("paths", .table .header (leaves paths)),
        ("capture", .table .header
          (leaves capture ++ [("timestamps", .table .header (leaves overlay))])),
        ("telemetry", .table .header (leaves telemetry))], ["telemetry"]⟩ := by
  have distinct := fun part member => (writable part member).distinct
  simp only [layout, List.forall_mem_cons] at distinct
  obtain ⟨of_paths, of_capture, of_overlay, of_telemetry, -⟩ := distinct
  have below : "timestamps" ∉ Entries.keys (leaves capture) := by
    rw [keys_leaves]
    exact free
  have apart : "capture" ∉ Entries.keys [("paths", Draft.table .header (leaves paths))] := by
    simp [Entries.keys]
  simp only [layout, List.foldlM_cons, List.foldlM_nil, Option.bind_eq_bind]
  rw [Progress.start, Progress.section_at_root (by simp [Entries.keys]) of_paths, Option.bind_some,
    List.nil_append, Progress.section_at_root apart of_capture, Option.bind_some,
    Progress.section_below apart below of_overlay, Option.bind_some,
    Progress.section_at_root (by simp [Entries.keys]) of_telemetry]
  rfl

theorem layout_finished
    (writable : ∀ part ∈ layout paths capture overlay telemetry, part.Writable) :
    Draft.toTable? [("paths", .table .header (leaves paths)),
        ("capture", .table .header
          (leaves capture ++ [("timestamps", .table .header (leaves overlay))])),
        ("telemetry", .table .header (leaves telemetry))] =
      some (Entries.sorted [("paths", .table (Entries.sorted (values paths))),
        ("capture", .table (Entries.sorted
          (values capture ++ [("timestamps", .table (Entries.sorted (values overlay)))]))),
        ("telemetry", .table (Entries.sorted (values telemetry)))]) := by
  have bare := fun part member => (writable part member).keys_bare
  simp only [layout, List.forall_mem_cons] at bare
  obtain ⟨of_paths, of_capture, of_overlay, of_telemetry, -⟩ := bare
  simp only [Draft.toTable?, Draft.toEntries?, Draft.toEntry?, Draft.to_value_leaves of_paths,
    Draft.to_value_leaves of_telemetry,
    Draft.to_value_nested of_capture "timestamps" (by decide) of_overlay,
    Option.bind_eq_bind, Option.bind_some, Option.map_some]

theorem read_layout
    (writable : ∀ part ∈ layout paths capture overlay telemetry, part.Writable)
    (free : "timestamps" ∉ capture.map Prod.fst) :
    read? (Recorder.heading ++ Section.renderAll (layout paths capture overlay telemetry)) =
      some (Entries.sorted [("paths", .table (Entries.sorted (values paths))),
        ("capture", .table (Entries.sorted
          (values capture ++ [("timestamps", .table (Entries.sorted (values overlay)))]))),
        ("telemetry", .table (Entries.sorted (values telemetry)))]) := by
  have heading : Carries .start Recorder.heading.toList .start := by
    have comment :
        Carries .start ('#' :: (" Clip recorder configuration".toList ++ ['\n'])) .start :=
      comment_carries .start (by decide)
    exact carries_append comment (blank_carries .start)
  have tables := sections_carry writable (layout_attached writable free)
  have whole := carries_append heading tables
  rw [← String.toList_append] at whole
  have plain : (Recorder.heading ++ Section.renderAll
      (layout paths capture overlay telemetry)).toList.head? ≠ some '\ufeff' := by
    rw [String.toList_append]
    exact fun marked => absurd (Option.some.inj marked) (by decide)
  rw [read_carried whole plain]
  exact layout_finished writable

end Layout

structure Paths.Settled (env : Environment) (paths : Paths) : Prop where
  recordDir : env.expandPath paths.recordDir = paths.recordDir
  storageDir : env.expandPath paths.storageDir = paths.storageDir
  configDir : env.expandPath paths.configDir = paths.configDir
  indexPath : env.expandPath paths.indexPath = paths.indexPath

def Paths.expanded (env : Environment) (paths : Paths) : Paths where
  recordDir := env.expandPath paths.recordDir
  storageDir := env.expandPath paths.storageDir
  configDir := env.expandPath paths.configDir
  indexPath := env.expandPath paths.indexPath

theorem Paths.expanded_iff {env : Environment} {paths : Paths} :
    paths.expanded env = paths ↔ paths.Settled env := by
  constructor
  · intro same
    exact {
      recordDir := congrArg Paths.recordDir same
      storageDir := congrArg Paths.storageDir same
      configDir := congrArg Paths.configDir same
      indexPath := congrArg Paths.indexPath same }
  · intro settled
    cases paths
    simp only [expanded, settled.recordDir, settled.storageDir, settled.configDir,
      settled.indexPath]

theorem Paths.read_expanded {env : Environment} {paths : Paths} {dirs : Table}
    (written : Holds dirs
      [("record_dir", .text paths.recordDir), ("storage_dir", .text paths.storageDir),
        ("config_dir", .text paths.configDir), ("index_path", .text paths.indexPath)]) :
    ReadFrom env (expandEntries env dirs) (paths.expanded env) := by
  have read {key path absent : String}
      (found : Entries.find? key dirs = some (.text path)) :
      (expandEntries env dirs).optional key Value.asPath absent = .ok (env.expandPath path) := by
    simp only [Table.optional, find?_expand_entries, found]
    rfl
  exact ⟨read (written.finds _), read (written.finds _), read (written.finds _),
    read (written.finds _)⟩

namespace Recorder

variable {config : Recorder} {env : Environment}

theorem sections_writable
    (interval : config.capture.statsIntervalSecs.toNat ≤ greatestInteger) :
    ∀ part ∈ config.sections, part.Writable := by
  have seconds : (Scalar.integer config.capture.statsIntervalSecs.toNat).Fits := by
    simp only [greatestInteger] at interval
    simp only [Scalar.Fits]
    omega
  simp only [sections, List.forall_mem_cons]
  refine ⟨?_, ?_, ?_, ?_, by simp⟩
  · apply Section.writable_of_keys
    · simp only [List.map_cons, List.map_nil]
      decide
    · simp [Scalar.Fits]
  · apply Section.writable_of_keys
    · simp only [List.map_cons, List.map_nil]
      decide
    · simp only [List.forall_mem_cons, Scalar.fits_uint32, Scalar.fits_int32, seconds]
      simp [Scalar.Fits]
  · apply Section.writable_of_keys
    · simp only [List.map_cons, List.map_nil]
      decide
    · simp [Scalar.Fits]
  · apply Section.writable_of_keys
    · simp only [List.map_cons, List.map_nil]
      decide
    · simp [Scalar.Fits]

/-- A written table stands for the configuration with its directories expanded once more. -/
theorem of_table_expanded {origin : Option String} {table dirs capture telemetry : Table}
    (sorted : (Value.table table).Sorted) (width : config.capture.recordWidth ≠ 0)
    (height : config.capture.recordHeight ≠ 0)
    (written : Holds table
      [("paths", .table dirs), ("capture", .table capture), ("telemetry", .table telemetry)])
    (directories : Holds dirs
      [("record_dir", .text config.paths.recordDir),
        ("storage_dir", .text config.paths.storageDir),
        ("config_dir", .text config.paths.configDir),
        ("index_path", .text config.paths.indexPath)])
    (stream : Capture.ofValue (.table capture) = .ok config.capture)
    (logs : Telemetry.ofValue (.table telemetry) = .ok config.telemetry) :
    ofTable env origin table = .ok { config with paths := config.paths.expanded env } := by
  have sectioned : Sectioned table := by
    intro name _ value found
    have member := Entries.mem_of_find? ((written.finds name).symm.trans found)
    simp only [List.mem_cons, List.not_mem_nil, or_false, Prod.mk.injEq] at member
    rcases member with ⟨-, rfl⟩ | ⟨-, rfl⟩ | ⟨-, rfl⟩
    all_goals rfl
  have of_paths : sectionOf "paths" table = dirs :=
    congrArg Value.tableOrEmpty (written.finds "paths")
  have of_capture : sectionOf "capture" table = capture :=
    congrArg Value.tableOrEmpty (written.finds "capture")
  have of_telemetry : sectionOf "telemetry" table = telemetry :=
    congrArg Value.tableOrEmpty (written.finds "telemetry")
  have capture_distinct := section_distinct sorted "capture"
  have telemetry_distinct := section_distinct sorted "telemetry"
  rw [of_capture] at capture_distinct
  rw [of_telemetry] at telemetry_distinct
  apply (of_table_iff sorted sectioned).mpr
  exact {
    paths := of_paths ▸ Paths.read_expanded directories
    capture := of_capture ▸ (Capture.of_value_iff capture_distinct).mp stream
    telemetry := of_telemetry ▸ (Telemetry.of_value_iff telemetry_distinct).mp logs
    width := width
    height := height }

/-- The text of a configuration stands for it with its directories expanded once more. -/
theorem of_text_expanded (width : config.capture.recordWidth ≠ 0)
    (height : config.capture.recordHeight ≠ 0)
    (interval : config.capture.statsIntervalSecs.toNat ≤ greatestInteger) :
    ofText env config.toText = .ok { config with paths := config.paths.expanded env } := by
  have text : config.toText = heading ++ Section.renderAll config.sections := if_pos interval
  have read : read? (heading ++ Section.renderAll config.sections) = some _ :=
    read_layout (sections_writable interval) (by simp)
  rw [ofText, parseTable, text, read]
  apply of_table_expanded (read_document read).sorted width height
  · exact holds_sorted (by simp [Entries.keys])
  · exact holds_sorted (by simp [Entries.keys, values])
  · apply Capture.of_value_written
    · exact TimeOverlay.of_value_written (holds_sorted (by simp [Entries.keys]))
    · exact holds_sorted (by simp [Entries.keys, values])
  · exact Telemetry.of_value_written (holds_sorted (by simp [Entries.keys, values]))

/-- A configuration that the program accepts is read back from the text it is written as,
whatever characters its texts hold. -/
theorem of_text_to_text (width : config.capture.recordWidth ≠ 0)
    (height : config.capture.recordHeight ≠ 0)
    (interval : config.capture.statsIntervalSecs.toNat ≤ greatestInteger)
    (settled : config.paths.Settled env) : ofText env config.toText = .ok config := by
  have same : config.paths.expanded env = config.paths := Paths.expanded_iff.mpr settled
  rw [of_text_expanded width height interval, same]

/-- Runs of both quotes, backslashes, tabs, line breaks and other controls in its texts, and a
variable that is not set. -/
def odd : Recorder where
  paths :=
    { recordDir := "\"\"\"live'''"
      storageDir := "\n\ttape \\ 'two'\n"
      configDir := "$UNSET/\"config\""
      indexPath := "'\x07\x7f'" }
  capture := { hwAccelDevice := "''''\r\n\"\"\"\"", qualityProfile := -3 }
  telemetry := { logLevel := "\\\"debug\"\\" }

theorem of_text_to_text_odd :
    let env : Environment := ⟨fun name => if name = "HOME" then some "/home" else none, none⟩
    ofText env odd.toText = .ok odd :=
  of_text_to_text (by decide) (by decide) (by decide) ⟨rfl, rfl, rfl, rfl⟩

end Recorder

end Footage.Config
