import Footage.Proofs.Document.Entries
import Footage.Toml.Document

/-!
# What a text can spell out

A property of values that holds of every scalar in its range and passes from parts to lists and
to sorted tables holds of everything that is read from a text. The tables under construction carry
it along, however headers and dotted keys add to them.
-/

namespace Footage.Toml

open Footage.Document

set_option autoImplicit false

/-- A property of scalars in their range that lists and sorted tables take over from their parts. -/
structure Spelled (holds : Value → Prop) : Prop where
  boolean : ∀ value, holds (.boolean value)
  integer : ∀ value, -9223372036854775808 ≤ value → value ≤ 9223372036854775807 →
    holds (.integer value)
  double : ∀ value, holds (.double value)
  text : ∀ value, holds (.text value)
  moment : ∀ value, holds (.moment value)
  list : ∀ items, (∀ item ∈ items, holds item) → holds (.list items)
  table : ∀ entries : Table, (∀ entry ∈ entries, holds entry.2) →
    holds (.table (Entries.sorted entries))

namespace Draft

inductive Keeps (holds : Value → Prop) : Draft → Prop where
  | leaf {value : Value} (held : holds value) : Keeps holds (.leaf value)
  | table {entries : DraftTable} (origin : Origin)
      (inner : ∀ entry ∈ entries, Keeps holds entry.2) : Keeps holds (.table origin entries)
  | series {tables : List DraftTable}
      (inner : ∀ entries ∈ tables, ∀ entry ∈ entries, Keeps holds entry.2) :
      Keeps holds (.series tables)

def AllKeep (holds : Value → Prop) (entries : DraftTable) : Prop :=
  ∀ entry ∈ entries, Keeps holds entry.2

variable {holds : Value → Prop}

theorem empty_keeps : AllKeep holds [] := fun _ member => nomatch member

theorem put_keeps {entries : DraftTable} {key : String} {draft : Draft}
    (before : AllKeep holds entries) (keeps : Keeps holds draft) :
    AllKeep holds (Entries.put key draft entries) := by
  intro entry member
  rcases Entries.mem_put member with rfl | earlier
  · exact keeps
  · exact before entry earlier

theorem found_keeps {entries : DraftTable} {key : String} {draft : Draft}
    (before : AllKeep holds entries) (found : Entries.find? key entries = some draft) :
    Keeps holds draft :=
  before (key, draft) (Entries.mem_of_find? found)

theorem alter_keeps {dotted : Bool} {change : Origin → DraftTable → Option DraftTable}
    (changes : ∀ origin entries next, change origin entries = some next →
      AllKeep holds entries → AllKeep holds next)
    {path : List String} {origin : Origin} {entries next : DraftTable}
    (altered : alter dotted change path origin entries = some next)
    (before : AllKeep holds entries) : AllKeep holds next := by
  induction path generalizing origin entries next with
  | nil => exact changes origin entries next altered before
  | cons key path ih =>
      simp only [alter] at altered
      split at altered
      · obtain ⟨inner, below, same⟩ := Option.bind_eq_some_iff.mp altered
        cases same
        exact put_keeps before (.table _ (ih below empty_keeps))
      · cases altered
      · rename_i own inner found
        split at altered
        · cases altered
        · obtain ⟨changed, below, same⟩ := Option.bind_eq_some_iff.mp altered
          cases same
          cases found_keeps before found with
          | table _ kept => exact put_keeps before (.table own (ih below kept))
      · cases altered
      · rename_i latest earlier found
        obtain ⟨changed, below, same⟩ := Option.bind_eq_some_iff.mp altered
        cases same
        cases found_keeps before found with
        | series kept =>
            rw [List.forall_mem_cons] at kept
            apply put_keeps before
            exact .series (List.forall_mem_cons.mpr ⟨ih below kept.1, kept.2⟩)

theorem bind_keeps {key : String} {value : Value} {entries next : DraftTable}
    (bound : bind key value entries = some next) (held : holds value)
    (before : AllKeep holds entries) : AllKeep holds next := by
  simp only [bind] at bound
  split at bound
  · cases bound
  · cases bound
    exact put_keeps before (.leaf held)

theorem bind_path_keeps {path : List String} {key : String} {value : Value} {origin : Origin}
    {entries next : DraftTable} (bound : bindPath path key value origin entries = some next)
    (held : holds value) (before : AllKeep holds entries) : AllKeep holds next := by
  apply alter_keeps _ bound before
  intro reached table changed atEnd kept
  split at atEnd
  · cases atEnd
  · exact bind_keeps atEnd held kept

theorem bind_under_keeps {header path : List String} {key : String} {value : Value}
    {root next : DraftTable} (bound : bindUnder header path key value root = some next)
    (held : holds value) (before : AllKeep holds root) : AllKeep holds next := by
  apply alter_keeps _ bound before
  intro origin table changed below kept
  exact bind_path_keeps below held kept

theorem open_table_keeps {path : List String} {key : String} {root next : DraftTable}
    (opened : openTable path key root = some next) (before : AllKeep holds root) :
    AllKeep holds next := by
  apply alter_keeps _ opened before
  intro origin parent changed claimed kept
  split at claimed
  · cases claimed
    exact put_keeps kept (.table .header empty_keeps)
  · rename_i inner found
    cases claimed
    cases found_keeps kept found with
    | table _ entries =>
        refine put_keeps ?_ (.table .header entries)
        intro entry member
        exact kept entry (List.mem_filter.mp member).1
  · cases claimed

theorem open_series_keeps {path : List String} {key : String} {root next : DraftTable}
    (opened : openSeries path key root = some next) (before : AllKeep holds root) :
    AllKeep holds next := by
  apply alter_keeps _ opened before
  intro origin parent changed extended kept
  split at extended
  · cases extended
    apply put_keeps kept
    exact .series (List.forall_mem_singleton.mpr empty_keeps)
  · rename_i tables found
    cases extended
    cases found_keeps kept found with
    | series entries =>
        apply put_keeps kept
        exact .series (List.forall_mem_cons.mpr ⟨empty_keeps, entries⟩)
  · cases extended

variable (spelled : Spelled holds)

include spelled

theorem inner_table_holds {entries : Table} {value : Value}
    (made : innerTable? entries = some value) (held : ∀ entry ∈ entries, holds entry.2) :
    holds value := by
  cases entries with
  | nil =>
      cases made
      exact spelled.table [] held
  | cons entry entries =>
      simp only [innerTable?] at made
      split at made
      · obtain ⟨moment, -, rfl⟩ := Option.map_eq_some_iff.mp made
        exact spelled.moment moment
      · cases made
        exact spelled.table _ held

omit spelled in
theorem to_entries_hold {entries : DraftTable} {finished : Table}
    (made : toEntries? entries = some finished)
    (each : ∀ entry ∈ entries, ∀ value, toValue? entry.2 = some value → holds value) :
    ∀ entry ∈ finished, holds entry.2 := by
  induction entries generalizing finished with
  | nil =>
      cases made
      exact fun _ member => nomatch member
  | cons entry entries ih =>
      obtain ⟨key, draft⟩ := entry
      rw [List.forall_mem_cons] at each
      simp only [toEntries?, toEntry?, Option.bind_eq_bind, Option.bind_eq_some_iff] at made
      obtain ⟨_, ⟨value, first, pair⟩, rest, others, same⟩ := made
      cases pair
      cases same
      exact List.forall_mem_cons.mpr ⟨each.1 value first, ih others each.2⟩

theorem to_tables_hold {tables : List DraftTable} {finished : List Value}
    (made : toTables? tables = some finished)
    (each : ∀ entries ∈ tables, ∀ entry ∈ entries, ∀ value,
      toValue? entry.2 = some value → holds value) :
    ∀ value ∈ finished, holds value := by
  induction tables generalizing finished with
  | nil =>
      cases made
      exact fun _ member => nomatch member
  | cons entries tables ih =>
      rw [List.forall_mem_cons] at each
      simp only [toTables?, Option.bind_eq_bind, Option.bind_eq_some_iff] at made
      obtain ⟨table, first, value, inner, rest, others, same⟩ := made
      cases same
      have front := inner_table_holds spelled inner (to_entries_hold first each.1)
      exact List.forall_mem_cons.mpr ⟨front, ih others each.2⟩

theorem to_value_holds {draft : Draft} (keeps : Keeps holds draft) {value : Value}
    (made : toValue? draft = some value) : holds value := by
  induction keeps generalizing value with
  | leaf held =>
      cases made
      exact held
  | table origin inner ih =>
      simp only [toValue?, Option.bind_eq_bind, Option.bind_eq_some_iff] at made
      obtain ⟨entries, finished, table⟩ := made
      apply inner_table_holds spelled table
      exact to_entries_hold finished fun entry member value => ih entry member
  | series inner ih =>
      simp only [toValue?, Option.bind_eq_bind, Option.bind_eq_some_iff] at made
      obtain ⟨items, finished, same⟩ := made
      cases same
      apply spelled.list
      intro item member
      apply to_tables_hold spelled finished _ item (List.mem_reverse.mp member)
      exact fun entries table entry member value => ih entries table entry member

end Draft

def Yields (holds : Value → Prop) (reader : Reader Value) : Prop :=
  ∀ text value rest, reader text = some (value, rest) → holds value

section Readers

variable {holds : Value → Prop} (spelled : Spelled holds)

include spelled

theorem integer_value_holds {number : Int} {value : Value}
    (made : integerValue? number = some value) : holds value := by
  simp only [integerValue?] at made
  split at made
  · rename_i within
    cases made
    exact spelled.integer number within.1 within.2
  · cases made

theorem double_value_holds {negative : Bool} {digits : List Nat} {exponent : Int} {value : Value}
    (made : doubleValue? negative digits exponent = some value) : holds value := by
  simp only [doubleValue?] at made
  split at made
  · cases made
  · cases made
    exact spelled.double _

theorem based_yields (base : Nat) : Yields holds (based? base) := by
  intro text value rest read
  simp only [based?, Option.bind_eq_bind, Option.bind_eq_some_iff] at read
  obtain ⟨_, -, number, made, same⟩ := read
  cases same
  exact integer_value_holds spelled made

theorem special_yields (negative : Bool) : Yields holds (special? negative) := by
  intro text value rest read
  unfold special? at read
  split at read
  · cases read
    exact spelled.double _
  · cases read
    exact spelled.double _
  · cases read

theorem decimal_yields (negative : Bool) : Yields holds (decimal? negative) := by
  intro text value rest read
  simp only [decimal?, Option.bind_eq_bind, Option.bind_eq_some_iff] at read
  obtain ⟨_, -, read⟩ := read
  split at read
  · obtain ⟨number, made, same⟩ := Option.bind_eq_some_iff.mp read
    cases same
    exact double_value_holds spelled made
  · split at read
    · obtain ⟨number, made, same⟩ := Option.bind_eq_some_iff.mp read
      cases same
      exact double_value_holds spelled made
    · obtain ⟨number, made, same⟩ := Option.bind_eq_some_iff.mp read
      cases same
      exact integer_value_holds spelled made

theorem number_yields : Yields holds number? := by
  intro text value rest read
  unfold number? at read
  split at read
  · exact based_yields spelled 16 _ value rest read
  · exact based_yields spelled 8 _ value rest read
  · exact based_yields spelled 2 _ value rest read
  · simp only at read
    split at read
    · rename_i found special
      cases read
      exact special_yields spelled _ _ value rest special
    · exact decimal_yields spelled _ _ value rest read

theorem boolean_yields : Yields holds boolean? := by
  intro text value rest read
  unfold boolean? at read
  split at read
  · cases read
    exact spelled.boolean true
  · cases read
    exact spelled.boolean false
  · cases read

theorem scalar_yields : Yields holds scalar? := by
  intro text value rest read
  unfold scalar? at read
  split at read
  · obtain ⟨_, -, same⟩ := Option.map_eq_some_iff.mp read
    cases same
    exact spelled.text _
  · obtain ⟨_, -, same⟩ := Option.map_eq_some_iff.mp read
    cases same
    exact spelled.text _
  · exact boolean_yields spelled _ value rest read
  · exact boolean_yields spelled _ value rest read
  · unfold numeral? at read
    split at read
    · cases read
      exact spelled.moment _
    · exact number_yields spelled text value rest read

omit spelled in
theorem list_items_hold {item : Reader Value} (items : Yields holds item) {count : Nat}
    {text rest : List Char} {values : List Value}
    (read : listItems? item count text = some (values, rest)) :
    ∀ value ∈ values, holds value := by
  induction count generalizing text values with
  | zero => cases read
  | succ count ih =>
      simp only [listItems?, Option.bind_eq_bind, Option.bind_eq_some_iff] at read
      obtain ⟨_, -, read⟩ := read
      split at read
      · cases read
        exact fun _ member => nomatch member
      · obtain ⟨⟨value, after⟩, first, read⟩ := Option.bind_eq_some_iff.mp read
        have front := items _ value after first
        obtain ⟨_, -, read⟩ := Option.bind_eq_some_iff.mp read
        split at read
        · cases read
          exact List.forall_mem_singleton.mpr front
        · obtain ⟨⟨others, last⟩, further, same⟩ := Option.bind_eq_some_iff.mp read
          cases same
          exact List.forall_mem_cons.mpr ⟨front, ih further⟩
        · cases read

omit spelled in
theorem binding_holds {item : Reader Value} (items : Yields holds item) {text rest : List Char}
    {keys : List String} {value : Value}
    (read : binding? item text = some ((keys, value), rest)) : holds value := by
  simp only [binding?, Option.bind_eq_bind, Option.bind_eq_some_iff] at read
  obtain ⟨_, -, _, -, ⟨bound, after⟩, found, same⟩ := read
  cases same
  exact items _ _ after found

omit spelled in
theorem brace_bindings_keep {item : Reader Value} (items : Yields holds item) {count : Nat}
    {table last : DraftTable} {text rest : List Char} (before : Draft.AllKeep holds table)
    (read : braceBindings? item count table text = some (last, rest)) :
    Draft.AllKeep holds last := by
  induction count generalizing table text with
  | zero => cases read
  | succ count ih =>
      simp only [braceBindings?, Option.bind_eq_bind, Option.bind_eq_some_iff] at read
      obtain ⟨⟨⟨keys, value⟩, after⟩, first, key, -, next, bound, read⟩ := read
      have kept := Draft.bind_path_keeps bound (binding_holds items first) before
      split at read
      · cases read
        exact kept
      · exact ih kept read
      · cases read

theorem brace_table_yields {item : Reader Value} (items : Yields holds item) :
    Yields holds (braceTable? item) := by
  intro text value rest read
  unfold braceTable? at read
  split at read
  · cases read
    exact spelled.table [] fun _ member => nomatch member
  · simp only [Option.bind_eq_bind, Option.bind_eq_some_iff] at read
    obtain ⟨⟨table, after⟩, bindings, finished, made, same⟩ := read
    cases same
    have kept := brace_bindings_keep items Draft.empty_keeps bindings
    exact Draft.to_value_holds spelled (.table .header kept) made

theorem value_within_yields (depth : Nat) : Yields holds (valueWithin? depth) := by
  induction depth with
  | zero =>
      intro text value rest read
      simp only [valueWithin?] at read
      split at read
      · cases read
      · cases read
      · exact scalar_yields spelled text value rest read
  | succ depth ih =>
      intro text value rest read
      simp only [valueWithin?] at read
      split at read
      · obtain ⟨⟨items, after⟩, found, same⟩ := Option.map_eq_some_iff.mp read
        cases same
        exact spelled.list items (list_items_hold ih found)
      · exact brace_table_yields spelled ih _ value rest read
      · exact scalar_yields spelled text value rest read

theorem line_keeps {progress next : Progress} {text rest : List Char}
    (before : Draft.AllKeep holds progress.root) (read : line? progress text = some (next, rest)) :
    Draft.AllKeep holds next.root := by
  unfold line? at read
  split at read
  · simp only [Option.bind_eq_bind, Option.bind_eq_some_iff] at read
    obtain ⟨_, -, same⟩ := read
    cases same
    exact before
  · simp only [Progress.addSeries, Option.bind_eq_bind, Option.bind_eq_some_iff] at read
    obtain ⟨_, -, _, -, _, -, _, -, _, ⟨key, -, root, opened, made⟩, same⟩ := read
    cases made
    cases same
    exact Draft.open_series_keeps opened before
  · simp only [Progress.addTable, Option.bind_eq_bind, Option.bind_eq_some_iff] at read
    obtain ⟨_, -, _, -, _, -, _, ⟨key, -, root, opened, made⟩, same⟩ := read
    cases made
    cases same
    exact Draft.open_table_keeps opened before
  · simp only [Progress.addBinding, Option.bind_eq_bind, Option.bind_eq_some_iff] at read
    obtain ⟨⟨⟨keys, value⟩, after⟩, found, _, -, _, ⟨key, -, root, bound, made⟩, same⟩ := read
    cases made
    cases same
    have held := binding_holds (value_within_yields spelled (nestingLimit - 1)) found
    exact Draft.bind_under_keeps bound held before

theorem lines_keep {count : Nat} {progress last : Progress} {text : List Char}
    (before : Draft.AllKeep holds progress.root) (read : lines? count progress text = some last) :
    Draft.AllKeep holds last.root := by
  induction count generalizing progress text with
  | zero =>
      simp only [lines?] at read
      split at read
      · cases read
        exact before
      · cases read
  | succ count ih =>
      simp only [lines?] at read
      split at read
      · cases read
        exact before
      · split at read
        · exact ih before read
        · obtain ⟨⟨next, rest⟩, line, further⟩ := Option.bind_eq_some_iff.mp read
          exact ih (line_keeps spelled before line) further

theorem read_holds {text : String} {table : Table} (read : read? text = some table) :
    holds (.table table) := by
  obtain ⟨last, lines, finished⟩ := Option.bind_eq_some_iff.mp read
  obtain ⟨entries, made, rfl⟩ := Option.map_eq_some_iff.mp finished
  have kept := lines_keep spelled Draft.empty_keeps lines
  apply spelled.table
  exact Draft.to_entries_hold made fun entry member value =>
    Draft.to_value_holds spelled (kept entry member)

end Readers

end Footage.Toml
