import Footage.Proofs.Document.Fields
import Footage.Proofs.Document.Merging
import Mathlib.Data.List.Nodup

/-!
# Where a refused value stands

A mismatch names keys, and the value that is read binds them one below the other. The keys in
front lead through tables to a value that is to blame on its own: whatever else a document holds,
with that value at those keys it is refused. Places in lists have no names, so keys that follow a
list are bound in one of its items.
-/

namespace Footage.Document

set_option autoImplicit false

/-- The value binds the keys one below the other, or one of its items does. -/
inductive Value.Binds : List String → Value → Prop where
  | here (value : Value) : Binds [] value
  | under {key : String} {keys : List String} {entries : Table} {value : Value}
      (member : (key, value) ∈ entries) (inner : Binds keys value) :
      Binds (key :: keys) (.table entries)
  | among {keys : List String} {items : List Value} {item : Value} (member : item ∈ items)
      (inner : Binds keys item) : Binds keys (.list items)

/-- What a path leads to binds further keys, so the whole binds them behind the path. -/
theorem Value.Binds.behind {front back : List String} {value inner : Value}
    (held : value.at? front = some inner) (binds : inner.Binds back) :
    value.Binds (front ++ back) := by
  induction front generalizing value with
  | nil =>
      cases held
      exact binds
  | cons key front ih =>
      cases value with
      | table entries =>
          obtain ⟨next, found, below⟩ := Option.bind_eq_some_iff.mp held
          exact .under (Entries.mem_of_find? found) (ih below)
      | _ => cases held

/-- A path that is not bound and meets no plain value leaves what is behind it unbound. -/
theorem Value.Sorted.not_binds {front back : List String} {value : Value} (sorted : value.Sorted)
    (silent : value.at? front = none) (free : value.covers front = false) :
    ¬value.Binds (front ++ back) := by
  induction front generalizing value with
  | nil => cases silent
  | cons key front ih =>
      intro binds
      cases binds with
      | under member inner =>
          have found := Entries.find?_of_mem sorted.ordered.distinct member
          simp only [at?, covers, found, Option.bind_some, Option.map_some, Option.getD_some]
            at silent free
          exact ih (sorted.inner found) silent free inner
      | among member inner => cases free

section Traversal

variable {α : Type} {check : α → Reading Unit} {list : List α}

theorem for_all_refused {found : Mismatch} (refused : list.forM check = .error found) :
    ∃ item ∈ list, check item = .error found := by
  induction list with
  | nil => cases refused
  | cons item list ih =>
      rw [List.forM] at refused
      rcases bind_eq_error.mp refused with first | ⟨⟨⟩, -, later⟩
      · exact ⟨item, List.mem_cons_self, first⟩
      · obtain ⟨other, member, fails⟩ := ih later
        exact ⟨other, List.mem_cons_of_mem _ member, fails⟩

theorem for_all_passed (passed : list.forM check = .ok ()) :
    ∀ item ∈ list, check item = .ok () := by
  induction list with
  | nil => exact fun _ member => nomatch member
  | cons item list ih =>
      rw [List.forM] at passed
      obtain ⟨⟨⟩, first, later⟩ := bind_eq_ok.mp passed
      exact List.forall_mem_cons.mpr ⟨first, ih later⟩

end Traversal

/-- A value below the keys that a mismatch starts with, on which the refusal rests. -/
structure RestsOn {α : Type} (read : Value → Reading α) (value : Value) (found : Mismatch)
    (front back : List String) (bad : Value) : Prop where
  named : found.keys = front ++ back
  held : value.at? front = some bad
  binds : bad.Binds back
  /-- Behind a table no keys are left: the keys in front lead as deep as tables go. -/
  deepest : bad.isTable = true → back = []
  spoils : ∀ other : Value, other.Sorted → other.at? front = some bad →
    ∃ again, read other = .error again

structure Traceable {α : Type} (read : Value → Reading α) : Prop where
  binds : ∀ value found, read value = .error found → value.Binds found.keys
  rests : ∀ value found, value.Sorted → read value = .error found →
    ∃ front back bad, RestsOn read value found front back bad

theorem rests_on_whole {α : Type} {read : Value → Reading α} {value : Value} {found : Mismatch}
    (refused : read value = .error found) (binds : value.Binds found.keys)
    (deepest : value.isTable = true → found.keys = []) :
    RestsOn read value found [] found.keys value where
  named := rfl
  held := rfl
  binds := binds
  deepest := deepest
  spoils other _ same := by
    cases same
    exact ⟨found, refused⟩

theorem Traceable.of_keyless {α : Type} {read : Value → Reading α}
    (keyless : ∀ value found, read value = .error found → found.keys = []) : Traceable read where
  binds value found refused := by
    rw [keyless value found refused]
    exact .here value
  rests value found _ refused := by
    have none_named := keyless value found refused
    have binds : value.Binds found.keys := none_named ▸ .here value
    exact ⟨[], found.keys, value, rests_on_whole refused binds fun _ => none_named⟩

theorem map_refused {α β : Type} {reading : Reading α} {change : α → β} {found : Mismatch}
    (refused : reading.map change = .error found) : reading = .error found := by
  cases reading with
  | ok value => cases refused
  | error cause =>
      cases refused
      rfl

theorem Traceable.map {α β : Type} {read : Value → Reading α} (traceable : Traceable read)
    (change : α → β) : Traceable fun value => (read value).map change where
  binds value found refused := traceable.binds value found (map_refused refused)
  rests value found sorted refused := by
    obtain ⟨front, back, bad, rests⟩ := traceable.rests value found sorted (map_refused refused)
    refine ⟨front, back, bad, rests.named, rests.held, rests.binds, rests.deepest, ?_⟩
    intro other also same
    obtain ⟨again, failed⟩ := rests.spoils other also same
    exact ⟨again, congrArg (Except.map change) failed⟩

namespace Value

theorem refuse_keyless {α : Type} {value : Value} {expected : String} {found : Mismatch}
    (refused : (value.refuse expected : Reading α) = .error found) : found.keys = [] := by
  cases refused
  rfl

theorem as_boolean_traceable : Traceable asBoolean := by
  apply Traceable.of_keyless
  intro value found refused
  cases value with
  | boolean value => cases refused
  | _ => exact refuse_keyless refused

theorem as_text_expecting_traceable (expected : String) : Traceable (asTextExpecting expected) := by
  apply Traceable.of_keyless
  intro value found refused
  cases value with
  | text value => cases refused
  | moment value => cases refused
  | _ => exact refuse_keyless refused

theorem as_integer_within_traceable (low high : Int) (expected : String) :
    Traceable (asIntegerWithin low high expected) := by
  apply Traceable.of_keyless
  intro value found refused
  cases value with
  | integer value =>
      simp only [asIntegerWithin] at refused
      split at refused
      · cases refused
      · cases refused
        rfl
  | _ => exact refuse_keyless refused

end Value

namespace Shape

variable {α : Type} {shape : Shape} {read : Value → Reading α} {table entries : Table}
  {value : Value} {found : Mismatch}

/-- A record is refused exactly where the checks of its fields refuse it. -/
structure Governs (shape : Shape) (read : Value → Reading α) : Prop where
  lenient : ∀ field ∈ shape.fields, field.required = false
  refuses : ∀ value found, read value = .error found ↔ shape.entries value = .error found

/-- A reader that goes on from the entries of its shape and does not fail any more. -/
theorem Governs.of_total {next : Table → Reading α}
    (reads : ∀ value, read value = shape.entries value >>= next)
    (lenient : ∀ field ∈ shape.fields, field.required = false)
    (total : ∀ value entries, shape.entries value = .ok entries →
      ∃ record, next entries = .ok record) : shape.Governs read where
  lenient := lenient
  refuses value found := by
    rw [reads, bind_eq_error]
    constructor
    · rintro (refused | ⟨entries, taken, failed⟩)
      · exact refused
      · obtain ⟨record, done⟩ := total value entries taken
        rw [done] at failed
        cases failed
    · exact .inl

theorem check_entry_refused {entry : String × Value}
    (refused : shape.checkEntry entry = .error found) :
    ∃ field inner, shape.fields.find? (fun field => field.name == entry.1) = some field ∧
      field.check entry.2 = .error inner ∧ found = inner.under entry.1 := by
  unfold checkEntry at refused
  split at refused
  · rename_i field declared
    rcases checked : field.check entry.2 with inner | ⟨⟩
    · rw [checked] at refused
      cases refused
      exact ⟨field, inner, declared, checked, rfl⟩
    · rw [checked] at refused
      cases refused
  · cases refused

theorem table_refused (lenient : ∀ field ∈ shape.fields, field.required = false)
    (refused : shape.entries (.table table) = .error found) :
    ∃ entry ∈ table, shape.checkEntry entry = .error found := by
  simp only [Shape.entries] at refused
  rcases bind_eq_error.mp refused with checked | ⟨⟨⟩, -, refused⟩
  · exact for_all_refused checked
  · have missing : (shape.fields.find? fun field =>
        field.required && (Entries.find? field.name table).isNone) = none := by
      rw [List.find?_eq_none]
      intro field member
      simp [lenient field member]
    simp only [missing] at refused
    cases refused

theorem list_refused {items : List Value} (refused : shape.entries (.list items) = .error found) :
    found.keys = [] ∨ ∃ item ∈ items, ∃ field ∈ shape.fields, field.check item = .error found := by
  simp only [Shape.entries] at refused
  rcases bind_eq_error.mp refused with checked | ⟨⟨⟩, -, refused⟩
  · obtain ⟨⟨field, item⟩, pair, refused⟩ := for_all_refused checked
    have members := List.of_mem_zip pair
    exact .inr ⟨item, members.2, field, members.1, refused⟩
  · left
    split at refused
    · cases refused
      rfl
    · split at refused
      · cases refused
        rfl
      · cases refused

theorem entries_checked (taken : shape.entries (.table table) = .ok entries) :
    ∀ entry ∈ table, shape.checkEntry entry = .ok () := by
  simp only [Shape.entries] at taken
  obtain ⟨⟨⟩, passed, -⟩ := bind_eq_ok.mp taken
  exact for_all_passed passed

/-- A table with an entry that does not pass is refused, whatever else it holds. -/
theorem entry_spoils {entry : String × Value} (member : entry ∈ table)
    (refused : shape.checkEntry entry = .error found) :
    ∃ again, shape.entries (.table table) = .error again := by
  rcases taken : shape.entries (.table table) with again | entries
  · exact ⟨again, rfl⟩
  · have passed := entries_checked taken entry member
    rw [refused] at passed
    cases passed

theorem Governs.rests_below (governs : shape.Governs read)
    (traceable : ∀ field ∈ shape.fields, Traceable field.check)
    (sorted : (Value.table table).Sorted)
    (refused : read (.table table) = .error found) :
    ∃ key front back bad, RestsOn read (.table table) found (key :: front) back bad := by
  obtain ⟨⟨key, value⟩, member, spoilt⟩ :=
    table_refused governs.lenient ((governs.refuses _ _).mp refused)
  obtain ⟨field, inner, declared, checked, rfl⟩ := check_entry_refused spoilt
  have bound := Entries.find?_of_mem sorted.ordered.distinct member
  have good := traceable field (List.mem_of_find?_eq_some declared)
  obtain ⟨front, back, bad, rests⟩ := good.rests value inner (sorted.inner bound) checked
  refine ⟨key, front, back, bad, ?_⟩
  exact {
    named := congrArg (List.cons key) rests.named
    held := by
      simp only [Value.at?, bound, Option.bind_some]
      exact rests.held
    binds := rests.binds
    deepest := rests.deepest
    spoils := by
      intro other also same
      cases other with
      | table others =>
          obtain ⟨value, found, below⟩ := Option.bind_eq_some_iff.mp same
          obtain ⟨again, fails⟩ := rests.spoils value (also.inner found) below
          have unfit : shape.checkEntry (key, value) = .error (again.under key) := by
            simp only [checkEntry, declared, fails]
            rfl
          obtain ⟨outer, stopped⟩ := entry_spoils (Entries.mem_of_find? found) unfit
          exact ⟨outer, (governs.refuses _ _).mpr stopped⟩
      | _ => cases same }

/-- The refusals of a record are traceable when those of its fields are. -/
theorem Governs.traceable (governs : shape.Governs read)
    (each : ∀ field ∈ shape.fields, Traceable field.check) : Traceable read := by
  have binds : ∀ value found, read value = .error found → value.Binds found.keys := by
    intro value found refused
    have stopped := (governs.refuses _ _).mp refused
    cases value with
    | table table =>
        obtain ⟨⟨key, value⟩, member, spoilt⟩ := table_refused governs.lenient stopped
        obtain ⟨field, inner, declared, checked, rfl⟩ := check_entry_refused spoilt
        have good := each field (List.mem_of_find?_eq_some declared)
        exact .under member (good.binds value inner checked)
    | list items =>
        rcases list_refused stopped with keyless | ⟨item, member, field, declared, checked⟩
        · rw [keyless]
          exact .here _
        · exact .among member ((each field declared).binds item found checked)
    | _ =>
        rw [Value.refuse_keyless stopped]
        exact .here _
  refine ⟨binds, ?_⟩
  intro value found sorted refused
  cases value with
  | table table =>
      obtain ⟨key, front, back, bad, rests⟩ := governs.rests_below each sorted refused
      exact ⟨key :: front, back, bad, rests⟩
  | _ =>
      refine ⟨[], found.keys, _, rests_on_whole refused (binds _ _ refused) ?_⟩
      exact fun plain => nomatch plain

section Fields

variable (distinct : (shape.fields.map Field.name).Nodup)

include distinct

theorem field_unique {field other : Field} (declared : field ∈ shape.fields)
    (also : other ∈ shape.fields) (same : field.name = other.name) : field = other :=
  List.inj_on_of_nodup_map distinct declared also same

/-- What a record binds to the name of a field has passed the check of that field. -/
theorem field_passed (taken : shape.entries value = .ok entries) {field : Field}
    (declared : field ∈ shape.fields) {inner : Value}
    (found : Entries.find? field.name entries = some inner) : field.check inner = .ok () := by
  cases value with
  | table table =>
      cases entries_same taken
      have passed := entries_checked taken _ (Entries.mem_of_find? found)
      unfold checkEntry at passed
      split at passed
      · rename_i other known
        have named : other.name = field.name := by simpa using List.find?_some known
        rw [field_unique distinct (List.mem_of_find?_eq_some known) declared named] at passed
        rcases checked : field.check inner with cause | ⟨⟩
        · rw [checked] at passed
          cases passed
        · rfl
      · rename_i unknown
        exact absurd (List.find?_eq_none.mp unknown field declared) (by simp)
  | list items =>
      simp only [Shape.entries] at taken
      obtain ⟨⟨⟩, passed, taken⟩ := bind_eq_ok.mp taken
      split at taken
      · cases taken
      · split at taken
        · cases taken
        · cases taken
          obtain ⟨⟨other, item⟩, pair, same⟩ := List.mem_map.mp (Entries.mem_of_find? found)
          obtain ⟨named, rfl⟩ := Prod.mk.inj same
          rw [← field_unique distinct (List.of_mem_zip pair).1 declared named]
          exact for_all_passed passed _ pair
  | _ => cases taken

/-- A field with a default can be read from a record that has passed its checks. -/
theorem optional_taken (taken : shape.entries value = .ok entries) {β : Type} (name : String)
    (read : Value → Reading β) (absent : β)
    (declared : Field.optional name read ∈ shape.fields) :
    ∃ result, entries.optional name read absent = .ok result := by
  rcases found : Entries.find? name entries with _ | inner
  · exact ⟨absent, by rw [Table.optional, found]⟩
  · have passed : (read inner).map (fun _ => ()) = .ok () :=
      field_passed distinct taken declared found
    rcases done : read inner with cause | result
    · rw [done] at passed
      cases passed
    · refine ⟨result, ?_⟩
      simp only [Table.optional, found, done]

end Fields

end Shape

end Footage.Document
