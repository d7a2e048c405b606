import Footage.Proofs.Document.Entries
import Footage.Proofs.Toml.Lines

/-!
# Tables that a written section leaves

Changes at the end of a path compose, so the header and the bindings of a section act like one
change of the table above, which attaches the finished table to a key that is not there yet.
-/

namespace Footage.Toml

open Footage.Document

set_option autoImplicit false

def leaves (entries : List (String × Scalar)) : DraftTable :=
  entries.map fun (key, scalar) => (key, .leaf scalar.value)

def values (entries : List (String × Scalar)) : Table :=
  entries.map fun (key, scalar) => (key, scalar.value)

theorem keys_leaves (entries : List (String × Scalar)) :
    Entries.keys (leaves entries) = entries.map Prod.fst := by
  rw [Entries.keys, leaves, List.map_map]
  rfl

theorem keys_values (entries : List (String × Scalar)) :
    Entries.keys (values entries) = entries.map Prod.fst := by
  rw [Entries.keys, values, List.map_map]
  rfl

namespace Draft

abbrev Change := Origin → DraftTable → Option DraftTable

/-- The table below a key as a header finds it, how that table came about, and the entry with
another table in its place. -/
def descend (key : String) (entries : DraftTable) :
    Option (Origin × DraftTable × (DraftTable → Draft)) :=
  match Entries.find? key entries with
  | none => some (.impliedByHeader, [], .table .impliedByHeader)
  | some (.leaf _) => none
  | some (.table own inner) => some (own, inner, .table own)
  | some (.series []) => none
  | some (.series (latest :: earlier)) =>
      some (.header, latest, fun latest => .series (latest :: earlier))

theorem alter_cons (change : Change) (key : String) (path : List String) (origin : Origin)
    (entries : DraftTable) :
    alter false change (key :: path) origin entries =
      (descend key entries).bind fun (own, inner, rebuild) =>
        (alter false change path own inner).map fun next =>
          Entries.put key (rebuild next) entries := by
  simp only [alter, descend, Option.map_eq_bind]
  rcases Entries.find? key entries with _ | ⟨value⟩ | ⟨own, inner⟩ | ⟨_ | ⟨latest, earlier⟩⟩ <;>
    rfl

theorem descend_put {key : String} {entries inner : DraftTable} {own : Origin}
    {rebuild : DraftTable → Draft} (found : descend key entries = some (own, inner, rebuild))
    (next : DraftTable) :
    descend key (Entries.put key (rebuild next) entries) = some (own, next, rebuild) := by
  simp only [descend] at found ⊢
  rw [Entries.find?_put_self]
  split at found
  · cases found
    rfl
  · cases found
  · cases found
    rfl
  · cases found
  · cases found
    rfl

theorem alter_append (change : Change) (path more : List String) (origin : Origin)
    (entries : DraftTable) :
    alter false change (path ++ more) origin entries =
      alter false (alter false change more) path origin entries := by
  induction path generalizing origin entries with
  | nil => rfl
  | cons key path ih => simp only [List.cons_append, alter_cons, ih]

theorem alter_alter (first second : Change) (path : List String) (origin : Origin)
    (entries : DraftTable) :
    (alter false first path origin entries).bind (alter false second path origin) =
      alter false (fun origin table => (first origin table).bind (second origin)) path origin
        entries := by
  induction path generalizing origin entries with
  | nil => rfl
  | cons key path ih =>
      rw [alter_cons, alter_cons]
      rcases found : descend key entries with _ | ⟨own, inner, rebuild⟩
      · rfl
      · -- The first change puts its table where the second one looks for it.
        simp only [Option.bind_some, ← ih]
        cases alter false first path own inner with
        | none => rfl
        | some middle => simp [alter_cons, descend_put found, Entries.put_put]

theorem alter_mono {weaker stronger : Change}
    (implied : ∀ origin table next, weaker origin table = some next →
      stronger origin table = some next)
    {path : List String} {origin : Origin} {entries next : DraftTable}
    (altered : alter false weaker path origin entries = some next) :
    alter false stronger path origin entries = some next := by
  induction path generalizing origin entries next with
  | nil => exact implied _ _ _ altered
  | cons key path ih =>
      simp only [alter_cons, Option.bind_eq_some_iff, Option.map_eq_some_iff] at altered ⊢
      obtain ⟨place, found, inner, below, same⟩ := altered
      exact ⟨place, found, inner, ih below, same⟩

def attach (key : String) (inner : DraftTable) : Change := fun _ parent =>
  match Entries.find? key parent with
  | some _ => none
  | none => some (Entries.put key (.table .header inner) parent)

theorem attach_bind {key name : String} {inner : DraftTable} (free : name ∉ Entries.keys inner)
    (value : Value) (origin : Origin) (parent : DraftTable) :
    (attach key inner origin parent).bind (alter false (bindPath [] name value) [key] origin) =
      attach key (inner ++ [(name, .leaf value)]) origin parent := by
  have bound : bind name value inner = some (inner ++ [(name, .leaf value)]) := by
    simp only [bind, (Entries.find?_eq_none inner name).mpr free, Entries.put_new free]
  rcases found : Entries.find? key parent with _ | taken
  · simp [attach, found, alter, Entries.find?_put_self, Entries.put_put, bindPath, bound]
  · simp [attach, found]

end Draft

namespace Progress

open Draft

theorem add_entry_eq (root : DraftTable) (path : List String) (key name : String)
    (scalar : Scalar) :
    addEntry ⟨root, path ++ [key]⟩ (name, scalar) =
      (alter false (alter false (bindPath [] name scalar.value) [key]) path .header root).map
        (⟨·, path ++ [key]⟩) := by
  simp only [addEntry, addBinding, bindUnder, List.getLast?_singleton, List.dropLast_singleton,
    alter_append, Option.bind_eq_bind, Option.bind_some, Option.map_eq_bind]
  rfl

theorem entries_attached (path : List String) (key : String) {inner : DraftTable}
    {entries : List (String × Scalar)} (distinct : (Entries.keys (inner ++ leaves entries)).Nodup)
    (root : DraftTable) :
    ((alter false (attach key inner) path .header root).bind fun middle =>
        entries.foldlM addEntry ⟨middle, path ++ [key]⟩) =
      (alter false (attach key (inner ++ leaves entries)) path .header root).map
        (⟨·, path ++ [key]⟩) := by
  -- Each binding joins the table attached so far, so that table grows along the induction.
  induction entries generalizing inner with
  | nil =>
      rw [Option.map_eq_bind, leaves, List.map_nil, List.append_nil]
      rfl
  | cons entry entries ih =>
      obtain ⟨name, scalar⟩ := entry
      have shape : inner ++ leaves ((name, scalar) :: entries) =
          inner ++ [(name, .leaf scalar.value)] ++ leaves entries := by simp [leaves]
      rw [shape] at distinct ⊢
      have free : name ∉ Entries.keys inner := by
        intro member
        simp only [Entries.keys, List.map_append, List.append_assoc, List.nodup_append] at distinct
        exact distinct.2.2 name member name (by simp) rfl
      rw [← ih distinct]
      have step : (alter false (attach key inner) path .header root).bind
          (alter false (alter false (bindPath [] name scalar.value) [key]) path .header) =
            alter false (attach key (inner ++ [(name, .leaf scalar.value)])) path .header root := by
        rw [alter_alter]
        simp only [attach_bind free]
      rw [← step, Option.bind_assoc]
      simp only [List.foldlM_cons, add_entry_eq, Option.bind_eq_bind, Option.bind_map]
      rfl

theorem open_attached {path : List String} {key : String} {root opened : DraftTable}
    (attached : alter false (attach key []) path .header root = some opened) :
    openTable path key root = some opened := by
  refine alter_mono (fun origin table next change => ?_) attached
  simp only [attach] at change
  split at change
  · cases change
  · rename_i free
    simp only [free, change]

theorem section_attached (path : List String) (key : String) {entries : List (String × Scalar)}
    (distinct : (entries.map Prod.fst).Nodup) {progress : Progress} {next : DraftTable}
    (attached : alter false (attach key (leaves entries)) path .header progress.root =
      some next) :
    progress.addSection ⟨path ++ [key], entries⟩ = some ⟨next, path ++ [key]⟩ := by
  have fresh : (Entries.keys ([] ++ leaves entries)).Nodup := by
    rw [List.nil_append, keys_leaves]
    exact distinct
  have bound := entries_attached path key fresh progress.root
  rw [List.nil_append, attached, Option.map_some, Option.bind_eq_some_iff] at bound
  obtain ⟨opened, begun, bindings⟩ := bound
  simp [addSection, addTable, open_attached begun, bindings]

theorem section_at_root {root : DraftTable} {key : String} (free : key ∉ Entries.keys root)
    {entries : List (String × Scalar)} (distinct : (entries.map Prod.fst).Nodup)
    (header : List String) :
    addSection ⟨root, header⟩ ⟨[key], entries⟩ =
      some ⟨root ++ [(key, .table .header (leaves entries))], [key]⟩ := by
  apply section_attached [] key distinct
  simp [alter, attach, (Entries.find?_eq_none root key).mpr free, Entries.put_new free]

/-- A section with a new key in the last table stands behind the bindings of that table. -/
theorem section_below {front inner : DraftTable} {parent key : String}
    (apart : parent ∉ Entries.keys front) (free : key ∉ Entries.keys inner)
    {entries : List (String × Scalar)} (distinct : (entries.map Prod.fst).Nodup)
    (header : List String) :
    addSection ⟨front ++ [(parent, .table .header inner)], header⟩ ⟨[parent, key], entries⟩ =
      some ⟨front ++
        [(parent, .table .header (inner ++ [(key, .table .header (leaves entries))]))],
        [parent, key]⟩ := by
  rw [← Entries.put_new apart, ← Entries.put_new apart]
  apply section_attached [parent] key distinct
  simp [alter, attach, Entries.find?_put_self, Entries.put_put,
    (Entries.find?_eq_none inner key).mpr free, Entries.put_new free]

end Progress

namespace Draft

theorem to_entries_leaves (entries : List (String × Scalar)) :
    toEntries? (leaves entries) = some (values entries) := by
  induction entries with
  | nil => rfl
  | cons entry entries ih =>
      simp only [leaves, values] at ih
      simp [leaves, values, toEntries?, toEntry?, toValue?, ih]

theorem to_entries_append {entries more : DraftTable} {values others : List (String × Value)}
    (first : toEntries? entries = some values) (second : toEntries? more = some others) :
    toEntries? (entries ++ more) = some (values ++ others) := by
  induction entries generalizing values with
  | nil =>
      cases first
      exact second
  | cons entry entries ih =>
      simp only [List.cons_append, toEntries?, Option.bind_eq_bind,
        Option.bind_eq_some_iff] at first ⊢
      obtain ⟨found, head, rest, tail, same⟩ := first
      cases same
      exact ⟨found, head, rest ++ others, ih tail, rfl⟩

/-- The reserved key needs quotes, so no table with bare keys is a moment. -/
theorem to_value_table {origin : Origin} {entries : DraftTable} {values : List (String × Value)}
    (finished : toEntries? entries = some values)
    (bare : ∀ key ∈ Entries.keys values, IsBareKey key) :
    toValue? (.table origin entries) = some (.table (Entries.sorted values)) := by
  simp only [toValue?, finished, Option.bind_eq_bind, Option.bind_some]
  cases values with
  | nil => rfl
  | cons entry values =>
      obtain ⟨key, value⟩ := entry
      have other : key ≠ momentKey := by
        rintro rfl
        exact absurd (bare momentKey List.mem_cons_self) (by decide)
      simp only [innerTable?, other, if_false]

theorem to_value_leaves {entries : List (String × Scalar)}
    (bare : ∀ entry ∈ entries, IsBareKey entry.1) (origin : Origin) :
    toValue? (.table origin (leaves entries)) =
      some (.table (Entries.sorted (values entries))) := by
  apply to_value_table (to_entries_leaves entries)
  rw [keys_values, List.forall_mem_map]
  exact bare

theorem to_value_nested {entries more : List (String × Scalar)}
    (bare : ∀ entry ∈ entries, IsBareKey entry.1) (key : String) (bare_key : IsBareKey key)
    (bare_more : ∀ entry ∈ more, IsBareKey entry.1) (origin : Origin) :
    toValue? (.table origin (leaves entries ++ [(key, .table .header (leaves more))])) =
      some (.table (Entries.sorted
        (values entries ++ [(key, .table (Entries.sorted (values more)))]))) := by
  apply to_value_table
  · apply to_entries_append (to_entries_leaves entries)
    simp [toEntries?, toEntry?, to_value_leaves bare_more]
  · intro name member
    rw [Entries.keys, List.map_append, List.mem_append] at member
    rcases member with among | last
    · rw [← Entries.keys, keys_values] at among
      obtain ⟨entry, bound, rfl⟩ := List.mem_map.mp among
      exact bare entry bound
    · rw [List.map_singleton, List.mem_singleton] at last
      exact last ▸ bare_key

end Draft

theorem read_section {key : String} {entries : List (String × Scalar)}
    (writable : (⟨[key], entries⟩ : Section).Writable) :
    read? (Section.render ⟨[key], entries⟩) =
      some [(key, .table (Entries.sorted (values entries)))] := by
  have added : Progress.start.addSection ⟨[key], entries⟩ =
      some ⟨[(key, .table .header (leaves entries))], [key]⟩ :=
    Progress.section_at_root List.not_mem_nil writable.distinct []
  have plain : (Section.render ⟨[key], entries⟩).toList.head? ≠ some '\ufeff' := by
    simp [Section.render]
  rw [read_carried (section_carries writable added) plain]
  simp only [Draft.toTable?, Draft.toEntries?, Draft.toEntry?,
    Draft.to_value_leaves writable.keys_bare, Option.bind_eq_bind, Option.bind_some,
    Option.map_some]
  rfl

end Footage.Toml
