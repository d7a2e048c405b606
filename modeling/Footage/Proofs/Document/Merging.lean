import Footage.Document.Value
import Footage.Proofs.Document.Sorted

/-!
# What a merge binds

Every path of keys is bound by the overlay, or else by the base unless the overlay has a plain
value on the way. Paths are followed on both sides at once, from an optional value of the base, so
that a key that only the overlay binds is no case of its own. Merging again what was merged
changes nothing, for each of its entries is absorbed.
-/

namespace Footage.Document

set_option autoImplicit false

namespace Value

def isTable : Value → Bool
  | .table _ => true
  | _ => false

def at? : List String → Value → Option Value
  | [], value => some value
  | key :: path, .table entries => (Entries.find? key entries).bind (at? path)
  | _ :: _, _ => none

/-- The table that an overlay's table is merged into where the base has this value. -/
def tableOrEmpty : Option Value → Table
  | some (.table entries) => entries
  | _ => []

theorem overlaid_plain {incoming : Value} (plain : incoming.isTable = false)
    (existing : Option Value) : overlaid existing incoming = incoming := by
  cases incoming with
  | table entries => cases plain
  | _ => rfl

theorem overlaid_none (incoming : Value) : overlaid none incoming = incoming := by
  cases incoming <;> rfl

theorem at_plain {value : Value} (plain : value.isTable = false) {path : List String}
    (long : path ≠ []) : value.at? path = none := by
  cases path with
  | nil => exact absurd rfl long
  | cons key path =>
      cases value with
      | table entries => cases plain
      | _ => rfl

theorem at_cons (existing : Option Value) (key : String) (path : List String) :
    existing.bind (at? (key :: path)) =
      (Entries.find? key (tableOrEmpty existing)).bind (at? path) := by
  cases existing with
  | none => rfl
  | some value => cases value <;> rfl

end Value

theorem find?_merge {overlay : Table} (distinct : (Entries.keys overlay).Nodup) (base : Table)
    (key : String) :
    Entries.find? key (base.merge overlay) =
      ((Entries.find? key overlay).map (Value.overlaid (Entries.find? key base))).or
        (Entries.find? key base) := by
  induction overlay generalizing base with
  | nil => rfl
  | cons entry overlay ih =>
      obtain ⟨name, value⟩ := entry
      obtain ⟨free, later⟩ := List.nodup_cons.mp distinct
      have step := ih later (mergeEntry base (name, value))
      simp only [Table.merge, mergeEntries] at step ⊢
      rw [step]
      by_cases same : name = key
      · subst same
        have unbound : Entries.find? name overlay = none :=
          (Entries.find?_eq_none overlay name).mpr free
        simp [Entries.find?, unbound, mergeEntry, Entries.find?_insert_self]
      · have untouched : Entries.find? key (mergeEntry base (name, value)) =
            Entries.find? key base := by
          simp only [mergeEntry]
          exact Entries.find?_insert_of_ne base _ (Ne.symm same)
        simp only [untouched, Entries.find?, same, if_false]

/-- The look-up below a key where a table has met what the base binds. -/
theorem find?_overlaid {incoming : Table} (distinct : (Entries.keys incoming).Nodup)
    (existing : Option Value) :
    ∃ entries, Value.overlaid existing (.table incoming) = .table entries ∧
      ∀ key, Entries.find? key entries =
        ((Entries.find? key incoming).map
          (Value.overlaid (Entries.find? key (Value.tableOrEmpty existing)))).or
        (Entries.find? key (Value.tableOrEmpty existing)) := by
  have alone (key : String) : Entries.find? key incoming =
      ((Entries.find? key incoming).map (Value.overlaid none)).or none := by
    cases Entries.find? key incoming with
    | none => rfl
    | some value => simp [Value.overlaid_none]
  cases existing with
  | none => exact ⟨incoming, rfl, alone⟩
  | some value =>
      cases value with
      | table base => exact ⟨Table.merge base incoming, rfl, find?_merge distinct base⟩
      | _ => exact ⟨incoming, rfl, alone⟩

namespace Value

/-- A plain value stands on the way of a path, before its end. -/
def covers : List String → Value → Bool
  | [], _ => false
  | key :: path, .table entries => ((Entries.find? key entries).map (covers path)).getD false
  | _ :: _, _ => true

theorem covers_plain {value : Value} (plain : value.isTable = false) (key : String)
    (path : List String) : value.covers (key :: path) = true := by
  cases value with
  | table entries => cases plain
  | _ => rfl

theorem covers_iff (path : List String) (value : Value) :
    value.covers path = true ↔ ∃ front, front <+: path ∧ front ≠ path ∧
      ∃ plain, value.at? front = some plain ∧ plain.isTable = false := by
  induction path generalizing value with
  | nil =>
      constructor
      · intro covered
        cases covered
      · rintro ⟨front, start, proper, -⟩
        exact absurd (List.prefix_nil.mp start) proper
  | cons key path ih =>
      rcases kind : value.isTable with _ | _
      · constructor
        · intro _
          exact ⟨[], List.nil_prefix, (List.cons_ne_nil key path).symm, value, rfl, kind⟩
        · intro _
          exact covers_plain kind key path
      · cases value with
        | table entries =>
            constructor
            · intro covered
              rcases found : Entries.find? key entries with _ | inner
              · simp [covers, found] at covered
              · simp only [covers, found, Option.map_some, Option.getD_some] at covered
                obtain ⟨front, start, proper, plain, bound, leaf⟩ := (ih inner).mp covered
                refine ⟨key :: front, (List.prefix_cons_inj key).mpr start, ?_, plain, ?_, leaf⟩
                · intro whole
                  exact proper (List.cons.inj whole).2
                · simp only [at?, found, Option.bind_some, bound]
            · rintro ⟨front, start, proper, plain, bound, leaf⟩
              cases front with
              | nil =>
                  cases bound
                  cases leaf
              | cons name front =>
                  obtain ⟨rfl, further⟩ := List.cons_prefix_cons.mp start
                  simp only [at?, Option.bind_eq_some_iff] at bound
                  obtain ⟨inner, found, below⟩ := bound
                  have covered := (ih inner).mpr
                    ⟨front, further, fun whole => proper (whole ▸ rfl), plain, below, leaf⟩
                  simp only [covers, found, Option.map_some, Option.getD_some, covered]
        | _ => cases kind

end Value

/-- A path leads to what the overlay binds it to, over what the base binds it to; where the
overlay binds nothing and has no plain value on the way, to what the base binds it to. -/
theorem overlaid_at {overlay : Value} (sorted : overlay.Sorted) (base : Option Value)
    (path : List String) :
    (Value.overlaid base overlay).at? path =
      match overlay.at? path with
      | some value => some (Value.overlaid (base.bind (Value.at? path)) value)
      | none => if overlay.covers path then none else base.bind (Value.at? path) := by
  induction path generalizing base overlay with
  | nil => cases base <;> rfl
  | cons key path ih =>
      rcases kind : overlay.isTable with _ | _
      · have unbound : overlay.at? (key :: path) = none :=
          Value.at_plain kind (List.cons_ne_nil key path)
        simp only [Value.overlaid_plain kind, unbound, Value.covers_plain kind, if_true]
      · cases overlay with
        | table incoming =>
            obtain ⟨entries, same, finds⟩ := find?_overlaid sorted.ordered.distinct base
            rw [same, Value.at_cons base]
            rcases bound : Entries.find? key incoming with _ | value
            · simp [Value.at?, Value.covers, finds, bound]
            · -- The rest of the path is followed in what the key is bound to on both sides.
              simp only [Value.at?, Value.covers, finds, bound, Option.map_some, Option.some_or,
                Option.bind_some, Option.getD_some]
              exact ih (sorted.inner bound) _
        | _ => cases kind

/-- What an overlay value makes of a value that it meets twice is what it made of it once. -/
theorem absorbed {base overlay : Table} (ordered : Entries.Ordered base)
    (absorbs : ∀ entry ∈ overlay, ∃ value, Entries.find? entry.1 base = some value ∧
      Value.overlaid (some value) entry.2 = value) : base.merge overlay = base := by
  induction overlay with
  | nil => rfl
  | cons entry overlay ih =>
      obtain ⟨key, incoming⟩ := entry
      rw [List.forall_mem_cons] at absorbs
      obtain ⟨⟨value, found, same⟩, later⟩ := absorbs
      have unchanged : mergeEntry base (key, incoming) = base := by
        simp only [mergeEntry, found, same]
        exact Entries.insert_same ordered found
      simp only [Table.merge, mergeEntries, unchanged] at ih ⊢
      exact ih later

theorem overlaid_same {value : Value} (sorted : value.Sorted) :
    Value.overlaid (some value) value = value := by
  induction sorted with
  | @plain value leaf =>
      cases value with
      | table entries => exact absurd rfl (leaf entries)
      | _ => rfl
  | @table entries ordered inner ih =>
      have same : Table.merge entries entries = entries := by
        apply absorbed ordered
        intro entry member
        exact ⟨entry.2, Entries.find?_of_mem ordered.distinct member, ih entry member⟩
      exact congrArg Value.table same

theorem merge_ordered {base : Table} (ordered : Entries.Ordered base) (overlay : Table) :
    Entries.Ordered (base.merge overlay) := by
  induction overlay generalizing base with
  | nil => exact ordered
  | cons entry overlay ih =>
      obtain ⟨key, incoming⟩ := entry
      exact ih (Entries.insert_ordered ordered key _)

/-- A property that every meeting of two values keeps is kept by a merge. -/
theorem merge_preserves {holds : Value → Prop} {base overlay : Table}
    (before : ∀ entry ∈ base, holds entry.2)
    (meets : ∀ entry ∈ overlay, ∀ existing : Option Value,
      (∀ old ∈ existing, holds old) → holds (Value.overlaid existing entry.2)) :
    ∀ entry ∈ base.merge overlay, holds entry.2 := by
  induction overlay generalizing base with
  | nil => exact before
  | cons entry overlay ih =>
      obtain ⟨key, incoming⟩ := entry
      rw [List.forall_mem_cons] at meets
      apply ih _ meets.2
      intro other member
      rcases Entries.mem_insert member with rfl | earlier
      · apply meets.1
        intro old found
        exact before (key, old) (Entries.mem_of_find? found)
      · exact before other earlier

theorem overlaid_sorted {value : Value} (sorted : value.Sorted) {existing : Option Value}
    (before : ∀ old ∈ existing, old.Sorted) : (Value.overlaid existing value).Sorted := by
  induction sorted generalizing existing with
  | @plain value leaf =>
      cases value with
      | table entries => exact absurd rfl (leaf entries)
      | _ => exact .plain leaf
  | @table entries ordered inner ih =>
      cases existing with
      | none => exact .table ordered inner
      | some old =>
          cases old with
          | table base =>
              have base_sorted := before (.table base) rfl
              apply Value.Sorted.table (merge_ordered base_sorted.ordered entries)
              apply merge_preserves
              · intro entry member
                exact base_sorted.inner (Entries.find?_of_mem base_sorted.ordered.distinct member)
              · intro entry member existing earlier
                exact ih entry member earlier
          | _ => exact .table ordered inner

theorem merge_sorted {base overlay : Table} (sorted_base : (Value.table base).Sorted)
    (sorted_overlay : (Value.table overlay).Sorted) :
    (Value.table (base.merge overlay)).Sorted := by
  have both : (Value.overlaid (some (.table base)) (.table overlay)).Sorted := by
    apply overlaid_sorted sorted_overlay
    intro old found
    cases found
    exact sorted_base
  exact both

theorem overlaid_twice {value : Value} (sorted : value.Sorted) {existing : Option Value}
    (before : ∀ old ∈ existing, old.Sorted) :
    Value.overlaid (some (Value.overlaid existing value)) value =
      Value.overlaid existing value := by
  induction sorted generalizing existing with
  | @plain value leaf =>
      cases value with
      | table entries => exact absurd rfl (leaf entries)
      | _ => rfl
  | @table entries ordered inner ih =>
      have whole : (Value.table entries).Sorted := .table ordered inner
      cases existing with
      | none => exact overlaid_same whole
      | some old =>
          cases old with
          | table base =>
              have base_sorted := before (.table base) rfl
              have twice : Table.merge (Table.merge base entries) entries =
                  Table.merge base entries := by
                apply absorbed (merge_ordered base_sorted.ordered entries)
                intro entry member
                have earlier : ∀ old ∈ Entries.find? entry.1 base, old.Sorted :=
                  fun old found => base_sorted.inner found
                refine ⟨_, ?_, ih entry member earlier⟩
                rw [find?_merge ordered.distinct, Entries.find?_of_mem ordered.distinct member]
                rfl
              exact congrArg Value.table twice
          | _ => exact overlaid_same whole

structure MergedAt (path : List String) (base overlay merged : Value) : Prop where
  plain : ∀ value, overlay.at? path = some value → value.isTable = false →
    merged.at? path = some value
  table : ∀ entries, overlay.at? path = some (.table entries) →
    merged.at? path = some (.table
      (match base.at? path with
      | some (.table existing) => Table.merge existing entries
      | _ => entries))
  kept : overlay.at? path = none →
    (∀ front, front <+: path → front ≠ path → ∀ value, overlay.at? front = some value →
      value.isTable = true) →
    merged.at? path = base.at? path
  hidden : overlay.at? path = none →
    ∀ front, front <+: path → front ≠ path → ∀ value, overlay.at? front = some value →
      value.isTable = false → merged.at? path = none

theorem merged_at (base : Table) {overlay : Table} (sorted : (Value.table overlay).Sorted)
    (path : List String) :
    MergedAt path (.table base) (.table overlay) (.table (base.merge overlay)) := by
  have law := overlaid_at sorted (some (.table base)) path
  have whole : Value.overlaid (some (.table base)) (.table overlay) =
      .table (base.merge overlay) := rfl
  rw [whole, Option.bind_some] at law
  exact {
    plain := by
      intro value bound leaf
      simp only [law, bound, Value.overlaid_plain leaf]
    table := by
      intro entries bound
      simp only [law, bound]
      rcases (Value.table base).at? path with _ | existing
      · rfl
      · cases existing <;> rfl
    kept := by
      intro unbound tables
      have free : (Value.table overlay).covers path = false := by
        rw [Bool.eq_false_iff]
        intro covered
        obtain ⟨front, start, proper, value, bound, leaf⟩ :=
          (Value.covers_iff path (.table overlay)).mp covered
        exact absurd (leaf.symm.trans (tables front start proper value bound)) (by decide)
      simp only [law, unbound, free, Bool.false_eq_true, if_false]
    hidden := by
      intro unbound front start proper value bound leaf
      have covered := (Value.covers_iff path (.table overlay)).mpr
        ⟨front, start, proper, value, bound, leaf⟩
      simp only [law, unbound, covered, if_true] }

theorem merge_all_last (documents : List Table) (last : Table) :
    Table.mergeAll (documents ++ [last]) = (Table.mergeAll documents).merge last := by
  simp only [Table.mergeAll, List.foldl_append, List.foldl_cons, List.foldl_nil]

/-- A merge follows the overlay path by path and the base where the overlay is silent; merging
again changes nothing, and in a series of documents the last one has its way. -/
theorem merge_by_paths {base overlay : Table} (sorted_base : (Value.table base).Sorted)
    (sorted_overlay : (Value.table overlay).Sorted) :
    (∀ path, MergedAt path (.table base) (.table overlay) (.table (base.merge overlay))) ∧
      (base.merge overlay).merge overlay = base.merge overlay ∧
      base.merge base = base ∧
      ∀ documents : List Table, documents.getLast? = some overlay →
        ∀ path value, (Value.table overlay).at? path = some value → value.isTable = false →
          (Value.table (Table.mergeAll documents)).at? path = some value := by
  refine ⟨merged_at base sorted_overlay, ?_, ?_, ?_⟩
  · have before : ∀ old ∈ some (Value.table base), old.Sorted := by
      intro old found
      cases found
      exact sorted_base
    exact Value.table.inj (overlaid_twice sorted_overlay before)
  · exact Value.table.inj (overlaid_same sorted_base)
  · intro documents last path value bound leaf
    obtain ⟨earlier, rfl⟩ := List.getLast?_eq_some_iff.mp last
    rw [merge_all_last]
    exact (merged_at (Table.mergeAll earlier) sorted_overlay path).plain value bound leaf

def dayTable : Table :=
  [("capture", .table [("fps_limit", .integer 10),
    ("timestamps", .table [("enabled", .boolean true)])])]

def nightTable : Table := [("capture", .table [("timestamps", .text "off")])]

theorem merge_by_paths_night :
    (Value.table dayTable).Sorted ∧ (Value.table nightTable).Sorted ∧
      (Value.table (dayTable.merge nightTable)).at? ["capture", "timestamps", "enabled"] = none ∧
      (dayTable.merge nightTable).merge nightTable = dayTable.merge nightTable ∧
      (Value.table (Table.mergeAll [dayTable, nightTable])).at? ["capture", "timestamps"] =
        some (.text "off") := by
  have leaf {value : Value} (plain : value.isTable = false) : value.Sorted :=
    .plain fun entries same => absurd (same ▸ plain) (by simp [Value.isTable])
  have single (key : String) {value : Value} (inner : value.Sorted) :
      (Value.table [(key, value)]).Sorted :=
    .table (List.pairwise_singleton _ _) (List.forall_mem_singleton.mpr inner)
  have day : (Value.table dayTable).Sorted := by
    apply single
    refine .table (by decide) (List.forall_mem_cons.mpr ⟨leaf rfl, ?_⟩)
    exact List.forall_mem_singleton.mpr (single "enabled" (leaf rfl))
  have night : (Value.table nightTable).Sorted := single "capture" (single _ (leaf rfl))
  obtain ⟨paths, twice, -, last⟩ := merge_by_paths day night
  refine ⟨day, night, ?_, twice, last [dayTable, nightTable] rfl _ _ rfl rfl⟩
  exact (paths ["capture", "timestamps", "enabled"]).hidden rfl ["capture", "timestamps"]
    (by decide) (by decide) (.text "off") rfl rfl

end Footage.Document
