import Footage.Document.Reading
import Footage.Proofs.Document.Entries

/-!
# Reading what was written

A record looks its fields up by name and checks every entry of its table, so the order of the
entries does not matter to it.
-/

namespace Footage.Document

set_option autoImplicit false

section Outcome

variable {α β : Type} (value : α)

@[simp] theorem reading_bind_ok (next : α → Reading β) :
    ((Except.ok value : Reading α) >>= next) = next value := rfl

@[simp] theorem reading_map_ok (change : α → β) :
    (change <$> (Except.ok value : Reading α)) = .ok (change value) := rfl

@[simp] theorem reading_check_ok (place : Mismatch → Mismatch) :
    ((Except.ok value : Reading α).map fun _ => ()).mapError place = .ok () := rfl

end Outcome

structure Holds (table entries : Table) : Prop where
  only : ∀ entry ∈ table, entry ∈ entries
  finds : ∀ key, Entries.find? key table = Entries.find? key entries

theorem holds_sorted {entries : Table} (distinct : (Entries.keys entries).Nodup) :
    Holds (Entries.sorted entries) entries where
  only _ := Entries.mem_sorted
  finds := Entries.find?_sorted distinct

theorem Shape.check_table {shape : Shape} {table : Table}
    (checked : ∀ entry ∈ table, shape.checkEntry entry = .ok ()) :
    table.forM shape.checkEntry = .ok () := by
  induction table with
  | nil => rfl
  | cons entry table ih =>
      rw [List.forall_mem_cons] at checked
      rw [List.forM, checked.1]
      exact ih checked.2

/-- A record takes every table that passes its checks and has the fields without a default. -/
theorem Holds.complete {table entries : Table} (written : Holds table entries) {shape : Shape}
    (checked : ∀ entry ∈ entries, shape.checkEntry entry = .ok ())
    (present : ∀ field ∈ shape.fields, field.required = true →
      (Entries.find? field.name entries).isSome = true) :
    shape.entries (.table table) = .ok table := by
  have missing : (shape.fields.find? fun field =>
      field.required && (Entries.find? field.name table).isNone) = none := by
    rw [List.find?_eq_none]
    intro field member
    rcases needed : field.required with _ | _
    · simp
    · have found := present field member needed
      rw [← written.finds, Option.isSome_iff_ne_none] at found
      simp [found]
  have passed : table.forM shape.checkEntry = .ok () :=
    Shape.check_table fun entry member => checked entry (written.only entry member)
  simp only [Shape.entries, passed, missing]
  rfl

/-- A record without mandatory fields takes every table that passes its checks. -/
theorem Holds.record {table entries : Table} (written : Holds table entries) {shape : Shape}
    (checked : ∀ entry ∈ entries, shape.checkEntry entry = .ok ())
    (lenient : ∀ field ∈ shape.fields, field.required = false) :
    shape.entries (.table table) = .ok table := by
  apply written.complete checked
  intro field member needed
  rw [lenient field member] at needed
  cases needed

namespace Value

theorem as_uint32_written (number : UInt32) : asUInt32 (.integer number.toNat) = .ok number := by
  have bound := number.toNat_lt
  have within : (0 : Int) ≤ number.toNat ∧ (number.toNat : Int) ≤ 4294967295 := by omega
  simp [asUInt32, asIntegerWithin, within, Except.map]

theorem as_int32_written (number : Int32) : asInt32 (.integer number.toInt) = .ok number := by
  have low := number.le_toInt
  have high := number.toInt_lt
  have within : -2147483648 ≤ number.toInt ∧ number.toInt ≤ 2147483647 := by omega
  simp [asInt32, asIntegerWithin, within, Except.map]

theorem as_uint64_written (number : UInt64) : asUInt64 (.integer number.toNat) = .ok number := by
  have bound := number.toNat_lt
  have within : (0 : Int) ≤ number.toNat ∧ (number.toNat : Int) ≤ 18446744073709551615 := by omega
  simp [asUInt64, asIntegerWithin, within, Except.map]

theorem as_int64_written (number : Int64) : asInt64 (.integer number.toInt) = .ok number := by
  have low := number.le_toInt
  have high := number.toInt_lt
  have within :
      -9223372036854775808 ≤ number.toInt ∧ number.toInt ≤ 9223372036854775807 := by omega
  simp [asInt64, asIntegerWithin, within, Except.map]

end Value

end Footage.Document
