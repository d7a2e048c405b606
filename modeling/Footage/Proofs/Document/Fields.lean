import Footage.Proofs.Document.Reading
import Footage.Proofs.Document.Sorted
import Mathlib.Data.List.Forall2

/-!
# Reading a record field by field

A record all of whose fields have defaults is read from a table exactly when each field is: from
the value under its name, or from its default where the table has none.
-/

namespace Footage.Document

set_option autoImplicit false

theorem bind_eq_ok {ε α β : Type} {first : Except ε α} {next : α → Except ε β} {result : β} :
    (first >>= next) = .ok result ↔ ∃ value, first = .ok value ∧ next value = .ok result := by
  cases first with
  | ok value =>
      constructor
      · intro succeeded
        exact ⟨value, rfl, succeeded⟩
      · rintro ⟨other, same, succeeded⟩
        cases same
        exact succeeded
  | error cause =>
      constructor
      · intro failed
        cases failed
      · rintro ⟨value, same, -⟩
        cases same

theorem bind_eq_error {ε α β : Type} {first : Except ε α} {next : α → Except ε β} {cause : ε} :
    (first >>= next) = .error cause ↔
      first = .error cause ∨ ∃ value, first = .ok value ∧ next value = .error cause := by
  cases first with
  | ok value =>
      constructor
      · intro failed
        exact .inr ⟨value, rfl, failed⟩
      · rintro (failed | ⟨other, same, failed⟩)
        · cases failed
        · cases same
          exact failed
  | error early =>
      constructor
      · intro failed
        cases failed
        exact .inl rfl
      · rintro (failed | ⟨value, same, -⟩)
        · cases failed
          rfl
        · cases same

theorem map_eq_ok {ε α β : Type} {read : α → Except ε β} {list : List α} {results : List β} :
    list.mapM read = .ok results ↔
      List.Forall₂ (fun item result => read item = .ok result) list results := by
  induction list generalizing results with
  | nil =>
      rw [List.forall₂_nil_left_iff, List.mapM_nil]
      exact ⟨fun same => (Except.ok.inj same).symm, fun empty => empty ▸ rfl⟩
  | cons item list ih =>
      rw [List.mapM_cons, bind_eq_ok, List.forall₂_cons_left_iff]
      constructor
      · rintro ⟨result, first, more⟩
        obtain ⟨rest, others, same⟩ := bind_eq_ok.mp more
        exact ⟨result, rest, first, ih.mp others, (Except.ok.inj same).symm⟩
      · rintro ⟨result, rest, first, others, rfl⟩
        exact ⟨result, first, bind_eq_ok.mpr ⟨rest, ih.mpr others, rfl⟩⟩

theorem related_to {α β : Type} {Related : α → β → Prop} {list : List α} {results : List β}
    (each : List.Forall₂ Related list results) :
    ∀ result ∈ results, ∃ item ∈ list, Related item result := by
  induction each with
  | nil => exact fun _ member => nomatch member
  | cons here _ ih =>
      refine List.forall_mem_cons.mpr ⟨⟨_, List.mem_cons_self, here⟩, ?_⟩
      intro result member
      obtain ⟨item, later, found⟩ := ih result member
      exact ⟨item, List.mem_cons_of_mem _ later, found⟩

theorem map_from {ε α β : Type} {read : α → Except ε β} {list : List α} {results : List β}
    (taken : list.mapM read = .ok results) :
    ∀ result ∈ results, ∃ item ∈ list, read item = .ok result :=
  related_to (map_eq_ok.mp taken)

theorem map_into {ε α β : Type} {read : α → Except ε β} {list : List α} {results : List β}
    (taken : list.mapM read = .ok results) :
    ∀ item ∈ list, ∃ result ∈ results, read item = .ok result :=
  related_to (List.Forall₂.flip (map_eq_ok.mp taken))

theorem Holds.permuted {table entries others : Table} (written : Holds table entries)
    (distinct : (Entries.keys entries).Nodup) (same : entries.Perm others) :
    Holds table others where
  only entry member := same.mem_iff.mp (written.only entry member)
  finds key := (written.finds key).trans (Entries.find?_perm distinct same key)

namespace Shape

variable {shape : Shape} {table entries : Table}

theorem entries_same (read : shape.entries (.table table) = .ok entries) : entries = table := by
  simp only [Shape.entries] at read
  obtain ⟨_, -, read⟩ := bind_eq_ok.mp read
  split at read
  · cases read
  · cases read
    rfl

/-- The entries of a record are those of a table or have the items of a list. -/
theorem entries_inside {value : Value} (read : shape.entries value = .ok entries)
    {entry : String × Value} (member : entry ∈ entries) :
    (∃ table, value = .table table ∧ entry ∈ table) ∨
      ∃ items, value = .list items ∧ entry.2 ∈ items := by
  cases value with
  | table table =>
      cases entries_same read
      exact .inl ⟨_, rfl, member⟩
  | list items =>
      simp only [Shape.entries] at read
      obtain ⟨_, -, read⟩ := bind_eq_ok.mp read
      split at read
      · cases read
      · split at read
        · cases read
        · cases read
          -- A list gives its items to the fields in order.
          obtain ⟨⟨field, item⟩, pair, rfl⟩ := List.mem_map.mp member
          exact .inr ⟨items, rfl, (List.of_mem_zip pair).2⟩
  | _ => cases read

theorem entries_hold {P : Value → Prop} {value : Value}
    (bindings : ∀ table, P (.table table) → ∀ entry ∈ table, P entry.2)
    (items : ∀ list, P (.list list) → ∀ item ∈ list, P item) (holds : P value)
    (read : shape.entries value = .ok entries) : ∀ entry ∈ entries, P entry.2 := by
  intro entry member
  rcases entries_inside read member with ⟨table, rfl, inside⟩ | ⟨list, rfl, inside⟩
  · exact bindings table holds entry inside
  · exact items list holds entry.2 inside

/-- A table whose values pass the checks of the fields they belong to is taken as it is. -/
theorem entries_lenient (lenient : ∀ field ∈ shape.fields, field.required = false)
    (distinct : (Entries.keys table).Nodup)
    (passes : ∀ field ∈ shape.fields, ∀ value, Entries.find? field.name table = some value →
      field.check value = .ok ()) : shape.entries (.table table) = .ok table := by
  apply Holds.record ⟨fun _ member => member, fun _ => rfl⟩ _ lenient
  intro entry member
  simp only [checkEntry]
  split
  · rename_i field declared
    have named : field.name = entry.1 := by simpa using List.find?_some declared
    have found := Entries.find?_of_mem distinct member
    rw [passes field (List.mem_of_find?_eq_some declared) entry.2 (named ▸ found)]
    rfl
  · rfl

end Shape

namespace Table

variable {α : Type} {table : Table} {name : String} {read : Value → Reading α} {absent result : α}

theorem optional_passes (taken : table.optional name read absent = .ok result) :
    ∀ value, Entries.find? name table = some value →
      (Field.optional name read).check value = .ok () := by
  intro value found
  simp only [Table.optional, found] at taken
  simp only [Field.optional, taken]
  rfl

/-- A field with a default is read from the value under its name where there is one. -/
theorem optional_from (taken : table.optional name read absent = .ok result) :
    (∃ value, (name, value) ∈ table ∧ read value = .ok result) ∨ result = absent := by
  unfold Table.optional at taken
  split at taken
  · rename_i value found
    exact .inl ⟨value, Entries.mem_of_find? found, taken⟩
  · exact .inr (Except.ok.inj taken).symm

theorem mandatory_from (taken : table.mandatory name read = .ok result) :
    ∃ value, (name, value) ∈ table ∧ read value = .ok result := by
  unfold Table.mandatory at taken
  split at taken
  · rename_i value found
    exact ⟨value, Entries.mem_of_find? found, taken⟩
  · cases taken

end Table

end Footage.Document
