import Footage.Proofs.Config.Overriding
import Footage.Proofs.Config.Refusals
import Footage.Proofs.Document.Origins

/-!
# Which file is to blame

A merged document is refused for a value that one of the files binds, and the keys that are named
lead to it. The last file that binds them is to blame: the files up to it are refused without the
rest. The error names the last file of all, which need not bind any of the keys.
-/

namespace Footage.Config

open Footage.Document Footage.Files Footage.Place

set_option autoImplicit false

section Expansion

variable (env : Environment)

/-- What the expansion makes of the section of the paths. -/
def expandedSection : Value → Value
  | .table entries => .table (expandEntries env entries)
  | other => other

def expandedAt : List String → Value → Value
  | ["paths"], value => expandedSection env value
  | ["paths", _], value => expandedValue env value
  | _, value => value

theorem find?_expanded_section (table : Table) :
    Entries.find? "paths" (expandPaths env table) =
      (Entries.find? "paths" table).map (expandedSection env) := by
  rcases found : Entries.find? "paths" table with _ | value
  · simp only [expandPaths, found, Option.map_none]
  · cases value with
    | table entries => exact find?_expanded_paths env table found
    | _ => simp only [expandPaths, found, Option.map_some, expandedSection]

theorem at_expanded_value (value : Value) (key : String) (path : List String) :
    (expandedValue env value).at? (key :: path) = value.at? (key :: path) := by
  cases value <;> rfl

theorem at_expanded_section (value : Value) (path : List String) :
    (expandedSection env value).at? path =
      (value.at? path).map (expandedAt env ("paths" :: path)) := by
  rcases path with _ | ⟨key, path⟩
  · rfl
  · cases value with
    | table entries =>
        simp only [expandedSection, Value.at?, find?_expand_entries]
        rcases Entries.find? key entries with _ | value
        · rfl
        · rcases path with _ | ⟨next, path⟩
          · rfl
          · simp only [Option.map_some, Option.bind_some, at_expanded_value]
            exact (congrFun Option.map_id _).symm
    | _ => rfl

theorem expanded_at_other {key : String} (other : key ≠ "paths") (path : List String)
    (value : Value) : expandedAt env (key :: path) value = value := by
  unfold expandedAt
  split
  · rename_i same
    exact absurd (List.cons.inj same).1 other
  · rename_i same
    exact absurd (List.cons.inj same).1 other
  · rfl

theorem at_expanded (table : Table) (key : String) (path : List String) :
    (Value.table (expandPaths env table)).at? (key :: path) =
      ((Value.table table).at? (key :: path)).map (expandedAt env (key :: path)) := by
  by_cases same : key = "paths"
  · subst same
    simp only [Value.at?, find?_expanded_section]
    rcases Entries.find? "paths" table with _ | value
    · rfl
    · exact at_expanded_section env value path
  · have kept : expandedAt env (key :: path) = id :=
      funext fun value => expanded_at_other env same path value
    rw [kept, Option.map_id]
    simp only [Value.at?, find?_expand_paths env table same, id]

theorem expanded_value_binds {value : Value} {keys : List String}
    (binds : (expandedValue env value).Binds keys) : value.Binds keys := by
  cases value with
  | text path =>
      cases binds
      exact .here _
  | _ => exact binds

theorem expanded_section_binds {value : Value} {keys : List String}
    (binds : (expandedSection env value).Binds keys) : value.Binds keys := by
  cases value with
  | table entries =>
      cases binds with
      | here => exact .here _
      | under member inner =>
          rw [expand_entries_eq] at member
          obtain ⟨⟨name, raw⟩, held, same⟩ := List.mem_map.mp member
          cases same
          exact .under held (expanded_value_binds env inner)
  | _ => exact binds

theorem expanded_at_binds {path keys : List String} {value : Value}
    (binds : (expandedAt env path value).Binds keys) : value.Binds keys := by
  unfold expandedAt at binds
  split at binds
  · exact expanded_section_binds env binds
  · exact expanded_value_binds env binds
  · exact binds

theorem expanded_at_table (path : List String) (value : Value) :
    (expandedAt env path value).isTable = value.isTable := by
  unfold expandedAt
  split
  · cases value <;> rfl
  · cases value <;> rfl
  · rfl

theorem expanded_value_sorted {value : Value} (sorted : value.Sorted) :
    (expandedValue env value).Sorted := by
  cases value with
  | text path => exact .plain fun _ same => nomatch same
  | _ => exact sorted

theorem expand_paths_sorted {table : Table} (sorted : (Value.table table).Sorted) :
    (Value.table (expandPaths env table)).Sorted := by
  apply Value.Sorted.table (expand_paths_ordered env sorted.ordered)
  rintro ⟨key, value⟩ member
  have bound := Entries.find?_of_mem (expand_paths_ordered env sorted.ordered).distinct member
  by_cases same : key = "paths"
  · subst same
    rw [find?_expanded_section] at bound
    obtain ⟨raw, found, rfl⟩ := Option.map_eq_some_iff.mp bound
    have inner := sorted.inner found
    cases raw with
    | table entries =>
        apply Value.Sorted.table
        · simp only [Entries.Ordered, keys_expand_entries]
          exact inner.ordered
        · intro entry member
          rw [expand_entries_eq] at member
          obtain ⟨⟨name, raw⟩, held, rfl⟩ := List.mem_map.mp member
          have below := Entries.find?_of_mem inner.ordered.distinct held
          exact expanded_value_sorted env (inner.inner below)
    | _ => exact inner
  · rw [find?_expand_paths env table same] at bound
    exact sorted.inner bound

end Expansion

/-- The contents of a file are a document that binds the keys. -/
def FileBinds (tree : Tree) (file : String) (keys : List String) : Prop :=
  ∃ table, loadTable tree file = .ok table ∧ (Value.table table).Binds keys

section Traversal

variable {tree : Tree} {files : List String}

theorem loaded_from {before after : List Table} {origin : Table}
    (loaded : files.mapM (loadTable tree) = .ok (before ++ origin :: after)) :
    ∃ earlier source later, files = earlier ++ source :: later ∧
      earlier.mapM (loadTable tree) = .ok before ∧ loadTable tree source = .ok origin ∧
      later.mapM (loadTable tree) = .ok after := by
  have each := map_eq_ok.mp loaded
  obtain ⟨source, later, here, back, rest⟩ :=
    List.forall₂_cons_right_iff.mp (List.forall₂_drop_append _ _ _ each)
  refine ⟨files.take before.length, source, later, ?_, ?_, here, map_eq_ok.mpr back⟩
  · rw [← rest, List.take_append_drop]
  · exact map_eq_ok.mpr (List.forall₂_take_append _ _ _ each)

theorem silent_files {tables : List Table} {keys : List String}
    (loaded : files.mapM (loadTable tree) = .ok tables)
    (silent : ∀ table ∈ tables, ¬(Value.table table).Binds keys) :
    ∀ file ∈ files, ¬FileBinds tree file keys := by
  rintro file member ⟨table, found, binds⟩
  obtain ⟨other, inside, here⟩ := map_into loaded file member
  rw [here] at found
  cases found
  exact silent _ inside binds

theorem load_table_refused {path : String} {cause : ConfigError}
    (refused : loadTable tree path = .error cause) (place : String) (found : Mismatch) :
    cause ≠ .mismatch place found := by
  rintro rfl
  unfold loadTable parseTable at refused
  split at refused
  · split at refused <;> cases refused
  · cases refused

theorem load_tables_refused {cause : ConfigError}
    (refused : files.mapM (loadTable tree) = .error cause) (place : String) (found : Mismatch) :
    cause ≠ .mismatch place found := by
  induction files with
  | nil => cases refused
  | cons file files ih =>
      rw [List.mapM_cons] at refused
      rcases bind_eq_error.mp refused with first | ⟨table, -, refused⟩
      · exact load_table_refused first place found
      · rcases bind_eq_error.mp refused with others | ⟨tables, -, none_left⟩
        · exact ih others
        · cases none_left

variable {env : Environment} {path : String} {found : Mismatch}

theorem of_table_mismatch {origin : Option String} {table : Table} :
    ofTable env origin table = .error (.mismatch path found) ↔
      origin.getD "<merged>" = path ∧
        Recorder.ofValue env (.table (expandPaths env table)) = .error found := by
  unfold ofTable
  split
  · rename_i config read
    unfold validate
    split <;> simp [read]
  · rename_i other refused
    simp [refused]

/-- A mismatch is found in the merged document and is put down to the last file. -/
theorem load_mismatch : loadFiles env tree files = .error (.mismatch path found) ↔
    ∃ tables, files.mapM (loadTable tree) = .ok tables ∧ files.getLast?.getD "<merged>" = path ∧
      Recorder.ofValue env (.table (expandPaths env (Table.mergeAll tables))) = .error found := by
  constructor
  · intro failed
    rcases bind_eq_error.mp failed with early | ⟨tables, loaded, failed⟩
    · exact absurd rfl (load_tables_refused early path found)
    · rcases bind_eq_error.mp failed with refused | ⟨config, -, adjusted⟩
      · exact ⟨tables, loaded, of_table_mismatch.mp refused⟩
      · cases adjusted
  · rintro ⟨tables, loaded, refused⟩
    refine bind_eq_error.mpr (.inr ⟨tables, loaded, ?_⟩)
    exact bind_eq_error.mpr (.inl (of_table_mismatch.mpr refused))

end Traversal

/-- The last of the files that binds the keys, and the files in front of it and behind it. -/
structure Blame (env : Environment) (tree : Tree) (files keys : List String)
    (before : List String) (source : String) (after : List String) : Prop where
  split : files = before ++ source :: after
  binds : FileBinds tree source keys
  silent : ∀ later ∈ after, ¬FileBinds tree later keys
  /-- Nothing behind the file is needed for the refusal. -/
  refused : ∃ again, loadFiles env tree (before ++ [source]) = .error (.mismatch source again)

/-- Files whose merged documents have the wrong value at its keys are refused. -/
theorem held_refused {env : Environment} {tree : Tree} {files : List String} {tables : List Table}
    {whole raw : Value} {found : Mismatch} {key : String} {front back : List String}
    (rests : RestsOn (Recorder.ofValue env) whole found (key :: front) back
      (expandedAt env (key :: front) raw))
    (loaded : files.mapM (loadTable tree) = .ok tables)
    (held : (Value.table (Table.mergeAll tables)).at? (key :: front) = some raw) :
    ∃ again, loadFiles env tree files =
      .error (.mismatch (files.getLast?.getD "<merged>") again) := by
  have sorted := expand_paths_sorted env (merge_all_document (documents_loaded loaded)).sorted
  have stays : (Value.table (expandPaths env (Table.mergeAll tables))).at? (key :: front) =
      some (expandedAt env (key :: front) raw) := by
    rw [at_expanded, held, Option.map_some]
  obtain ⟨again, spoilt⟩ := rests.spoils _ sorted stays
  exact ⟨again, load_mismatch.mpr ⟨tables, loaded, rfl, spoilt⟩⟩

/-- A configuration is refused for a value that one of its files binds. -/
theorem refusal_has_source {env : Environment} {tree : Tree} {files : List String} {path : String}
    {found : Mismatch} (failed : loadFiles env tree files = .error (.mismatch path found)) :
    found.keys ≠ [] ∧
      ∃ before source after, Blame env tree files found.keys before source after := by
  obtain ⟨tables, loaded, -, refused⟩ := load_mismatch.mp failed
  have documents := documents_loaded loaded
  have sorted := expand_paths_sorted env (merge_all_document documents).sorted
  obtain ⟨key, front, back, bad, rests⟩ :=
    (Recorder.shape_governs env).rests_below (Recorder.fields_traceable env) sorted refused
  have held := rests.held
  rw [at_expanded] at held
  obtain ⟨raw, bound, rfl⟩ := Option.map_eq_some_iff.mp held
  obtain ⟨before, origin, after, comes⟩ := merge_all_comes_from
    (fun document member => (documents document member).sorted) (List.cons_ne_nil key front) bound
  obtain ⟨own, there, plain⟩ := comes.binds
  have below : own.Binds back := by
    -- A plain value is the file's own, and behind a table no keys are left.
    rcases kind : raw.isTable with _ | _
    · rw [plain kind]
      exact expanded_at_binds env rests.binds
    · have whole : back = [] := rests.deepest ((expanded_at_table env _ raw).trans kind)
      rw [whole]
      exact .here own
  rw [comes.split] at loaded documents
  obtain ⟨earlier, source, later, split, first, here, others⟩ := loaded_from loaded
  refine ⟨?_, earlier, source, later, ?_⟩
  · rw [rests.named]
    exact List.cons_ne_nil _ _
  · rw [rests.named]
    exact {
      split := split
      binds := ⟨origin, here, Value.Binds.behind there below⟩
      silent := by
        apply silent_files others
        intro table member
        have proper := documents table (List.mem_append_right _ (List.mem_cons_of_mem _ member))
        obtain ⟨unbound, free⟩ := comes.silent table member
        exact proper.sorted.not_binds unbound free
      refused := by
        have front_loaded :
            (earlier ++ [source]).mapM (loadTable tree) = .ok (before ++ [origin]) := by
          apply map_eq_ok.mpr
          exact List.rel_append (map_eq_ok.mp first) (.cons here .nil)
        obtain ⟨again, spoilt⟩ := held_refused rests front_loaded comes.stays
        rw [List.getLast?_concat] at spoilt
        exact ⟨again, spoilt⟩ }

/-- A refused configuration has a value that is wrong in the last file that binds its keys. The
error names the last file of all, which is that one exactly if no file comes behind it. -/
theorem refusal_names_last_file {env : Environment} {tree : Tree} {files : List String}
    {path : String} {found : Mismatch}
    (failed : loadFiles env tree files = .error (.mismatch path found)) :
    files.getLast? = some path ∧ found.keys ≠ [] ∧ ∃ before source after,
      Blame env tree files found.keys before source after ∧
        (FileBinds tree path found.keys ↔ after = []) := by
  obtain ⟨named, before, source, after, blame⟩ := refusal_has_source failed
  obtain ⟨-, -, last, -⟩ := load_mismatch.mp failed
  have ending : files.getLast? = (source :: after).getLast? := by
    rw [blame.split, List.getLast?_append_of_ne_nil _ (List.cons_ne_nil source after)]
  have whole : files.getLast? = some path := by
    rw [ending, List.getLast?_cons] at last ⊢
    exact congrArg some last
  refine ⟨whole, named, before, source, after, blame, ?_⟩
  cases after with
  | nil =>
      have same : source = path := Option.some.inj (ending.symm.trans whole)
      exact ⟨fun _ => rfl, fun _ => same ▸ blame.binds⟩
  | cons next rest =>
      have behind : path ∈ next :: rest := List.mem_of_getLast? (ending.symm.trans whole)
      constructor
      · intro binds
        exact absurd binds (blame.silent path behind)
      · intro none_left
        cases none_left

section Witness

def twoFiles (first second : String) : Tree where
  entries := [(["a.toml"], .file (.ofText first)), (["b.toml"], .file (.ofText second))]
  workingDir := []
  mounts := []

theorem load_two_files (first second : String) :
    loadTable (twoFiles first second) "a.toml" = parseTable "a.toml" first ∧
      loadTable (twoFiles first second) "b.toml" = parseTable "b.toml" second := by
  have content_a : (twoFiles first second).read "a.toml" = .ok (.ofText first) := rfl
  have content_b : (twoFiles first second).read "b.toml" = .ok (.ofText second) := rfl
  constructor
  · simp only [loadTable, Tree.readText, content_a, bind, Except.bind, text_of_text]
  · simp only [loadTable, Tree.readText, content_b, bind, Except.bind, text_of_text]

def hastyText : String := "[capture]\nfps_limit = \"fast\"\n"

def hastySection : Toml.Section := ⟨["capture"], [("fps_limit", .text "fast")]⟩

def hastyTable : Table := [("capture", .table [("fps_limit", .text "fast")])]

theorem hasty_denotes : Toml.read? hastyText = some hastyTable := by
  have writable : hastySection.Writable := by
    apply Toml.Section.writable_of_keys (by decide)
    simp [Toml.Scalar.Fits]
  have written : hastySection.render = hastyText := by decide +kernel
  rw [← written]
  exact Toml.read_section writable

theorem hasty_loaded :
    loadTable (twoFiles hastyText "") "a.toml" = .ok hastyTable ∧
      loadTable (twoFiles hastyText "") "b.toml" = .ok [] := by
  obtain ⟨first, second⟩ := load_two_files hastyText ""
  constructor
  · rw [first]
    simp only [parseTable, hasty_denotes]
  · rw [second]
    rfl

def unset : Environment where
  lookup _ := none
  accountHome := none

def hasty : Mismatch := ⟨["capture", "fps_limit"], .wrongType (.text "fast") "u32"⟩

theorem hasty_binds : (Value.table hastyTable).Binds hasty.keys :=
  .under List.mem_cons_self (.under List.mem_cons_self (.here _))

theorem refusal_names_last_file_hasty :
    loadFiles unset (twoFiles hastyText "") ["b.toml", "a.toml"] =
        .error (.mismatch "a.toml" hasty) ∧
      ∃ before source, Blame unset (twoFiles hastyText "") ["b.toml", "a.toml"] hasty.keys
        before source [] := by
  obtain ⟨first, second⟩ := hasty_loaded
  have loaded : ["b.toml", "a.toml"].mapM (loadTable (twoFiles hastyText "")) =
      .ok [[], hastyTable] := map_eq_ok.mpr (.cons second (.cons first .nil))
  have failed : loadFiles unset (twoFiles hastyText "") ["b.toml", "a.toml"] =
      .error (.mismatch "a.toml" hasty) := load_mismatch.mpr ⟨_, loaded, rfl, rfl⟩
  obtain ⟨-, -, before, source, after, blame, own⟩ := refusal_names_last_file failed
  cases own.mp ⟨hastyTable, first, hasty_binds⟩
  exact ⟨failed, before, source, blame⟩

/-- Behind the wrong value comes a file without any, and the error names that one. -/
theorem refusal_names_silent_file :
    loadFiles unset (twoFiles hastyText "") ["a.toml", "b.toml"] =
        .error (.mismatch "b.toml" hasty) ∧
      FileBinds (twoFiles hastyText "") "a.toml" hasty.keys ∧
      ¬FileBinds (twoFiles hastyText "") "b.toml" hasty.keys := by
  obtain ⟨first, second⟩ := hasty_loaded
  have loaded : ["a.toml", "b.toml"].mapM (loadTable (twoFiles hastyText "")) =
      .ok [hastyTable, []] := map_eq_ok.mpr (.cons first (.cons second .nil))
  refine ⟨load_mismatch.mpr ⟨_, loaded, rfl, rfl⟩, ⟨hastyTable, first, hasty_binds⟩, ?_⟩
  rintro ⟨table, same, binds⟩
  rw [second] at same
  cases same
  cases binds with
  | under member inner => cases member

end Witness

end Footage.Config
