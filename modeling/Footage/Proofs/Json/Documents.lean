import Footage.Json.Read
import Footage.Proofs.Document.Entries
import Footage.Proofs.Number.Rounding

/-!
# What a JSON text can denote

There are no dates and times in JSON, its integers fit into sixty-four bits and its doubles are
finite, for the reader refuses a number that is too large.
-/

namespace Footage.Json

open Footage.Document Footage.Number

set_option autoImplicit false

inductive Denotable : Value → Prop where
  | null : Denotable .null
  | boolean (value : Bool) : Denotable (.boolean value)
  | integer {value : Int} (low : leastInteger ≤ value) (high : value ≤ greatestInteger) :
      Denotable (.integer value)
  | double {value : Double} (finite : value.isFinite = true) : Denotable (.double value)
  | text (value : String) : Denotable (.text value)
  | list {items : List Value} (inner : ∀ item ∈ items, Denotable item) : Denotable (.list items)
  | table {entries : Table} (inner : ∀ entry ∈ entries, Denotable entry.2) :
      Denotable (.table entries)

/-- Everything that the reader of a value gives can stand in a text. -/
def Denotes (item : Reader Value) : Prop :=
  ∀ {text rest value}, item text = some (value, rest) → Denotable value

/-- A number is an integer under some condition and scaled otherwise. -/
theorem either_denotable {condition : Prop} [Decidable condition] {number : Int}
    {after behind rest : List Char} {scaled : Option Double} {value : Value}
    (fits : condition → leastInteger ≤ number ∧ number ≤ greatestInteger)
    (finite : ∀ size ∈ scaled, size.isFinite = true)
    (read : (if condition then some (.integer number, after)
      else scaled.map fun size => (.double size, behind)) = some (value, rest)) :
    Denotable value := by
  split at read
  · rename_i small
    cases read
    exact .integer (fits small).1 (fits small).2
  · obtain ⟨size, found, same⟩ := Option.map_eq_some_iff.mp read
    cases same
    exact .double (finite size found)

theorem number_denotable : Denotes number? := by
  intro text rest value read
  simp only [number?, Option.ite_none_left_eq_some] at read
  obtain ⟨-, read⟩ := read
  split at read <;>
    exact either_denotable (fun fits => ⟨fits.2.2.1, fits.2.2.2.1⟩)
      (fun _ scaled => Double.scaled_finite scaled) read

section Parts

variable {item : Reader Value} (denotes : Denotes item)

include denotes

theorem items_denotable {count : Nat} {text rest : List Char} {values : List Value}
    (read : items? item count text = some (values, rest)) : ∀ value ∈ values, Denotable value := by
  induction count generalizing text rest values with
  | zero => cases read
  | succ count ih =>
      simp only [items?, Option.bind_eq_bind] at read
      obtain ⟨⟨first, after⟩, taken, read⟩ := Option.bind_eq_some_iff.mp read
      have held := denotes taken
      dsimp only at read
      split at read
      · cases read
        exact List.forall_mem_singleton.mpr held
      · obtain ⟨⟨others, behind⟩, further, same⟩ := Option.bind_eq_some_iff.mp read
        cases same
        exact List.forall_mem_cons.mpr ⟨held, ih further⟩
      · cases read

theorem bindings_denotable {count : Nat} {before table : Table} {text rest : List Char}
    (each : ∀ entry ∈ before, Denotable entry.2)
    (read : bindings? item count before text = some (table, rest)) :
    ∀ entry ∈ table, Denotable entry.2 := by
  induction count generalizing text before with
  | zero => cases read
  | succ count ih =>
      simp only [bindings?, Option.bind_eq_bind] at read
      obtain ⟨⟨key, after⟩, -, read⟩ := Option.bind_eq_some_iff.mp read
      dsimp only at read
      split at read
      · obtain ⟨⟨value, behind⟩, taken, read⟩ := Option.bind_eq_some_iff.mp read
        have inserted : ∀ entry ∈ Entries.insert key value before, Denotable entry.2 := by
          intro entry member
          rcases Entries.mem_insert member with rfl | earlier
          · exact denotes taken
          · exact each entry earlier
        dsimp only at read
        split at read
        · cases read
          exact inserted
        · exact ih inserted read
        · cases read
      · cases read

end Parts

theorem value_denotable (depth : Nat) : Denotes (valueWithin? depth) := by
  induction depth with
  | zero =>
      intro text rest value read
      cases read
  | succ depth ih =>
      intro text rest value read
      simp only [valueWithin?] at read
      split at read
      · cases read
        exact .null
      · cases read
        exact .boolean true
      · cases read
        exact .boolean false
      · obtain ⟨_, -, same⟩ := Option.map_eq_some_iff.mp read
        cases same
        exact .text _
      · split at read
        · cases read
          exact .list fun _ member => nomatch member
        · obtain ⟨_, taken, same⟩ := Option.map_eq_some_iff.mp read
          cases same
          exact .list (items_denotable ih taken)
      · split at read
        · cases read
          exact .table fun _ member => nomatch member
        · obtain ⟨_, taken, same⟩ := Option.map_eq_some_iff.mp read
          cases same
          have none_before : ∀ entry ∈ ([] : Table), Denotable entry.2 :=
            fun _ member => nomatch member
          exact .table (bindings_denotable ih none_before taken)
      · exact number_denotable read

theorem read_denotable {text : String} {value : Value} (read : read? text = some value) :
    Denotable value := by
  simp only [read?] at read
  split at read
  · rename_i whole
    obtain ⟨-, same⟩ := Option.ite_none_right_eq_some.mp read
    cases same
    exact value_denotable _ whole
  · cases read

end Footage.Json
