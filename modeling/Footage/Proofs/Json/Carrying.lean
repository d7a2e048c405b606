import Footage.Proofs.Document.Fields
import Footage.Proofs.Json.Documents

/-!
# Records that travel as JSON

A text carries a value except for what JSON lacks: a double that is not finite arrives as null, a
moment as its text, and the keys of a table in their order. A record makes the way there and back
when it is read again from what its text carries.
-/

namespace Footage.Json

open Footage.Document Footage.Number

set_option autoImplicit false

mutual

/-- The value that the text written for a value denotes. -/
def carried : Value → Value
  | .double value => if value.isFinite then .double value else .null
  | .moment value => .text value.text
  | .list items => .list (carriedItems items)
  | .table entries => .table (Entries.sorted (carriedEntries entries))
  | other => other

def carriedItems : List Value → List Value
  | [] => []
  | item :: rest => carried item :: carriedItems rest

def carriedEntry : String × Value → String × Value
  | (key, value) => (key, carried value)

def carriedEntries : List (String × Value) → List (String × Value)
  | [] => []
  | entry :: rest => carriedEntry entry :: carriedEntries rest

end

theorem carried_double {value : Double} (finite : value.isFinite = true) :
    carried (.double value) = .double value := if_pos finite

theorem keys_carried (entries : Table) :
    Entries.keys (carriedEntries entries) = Entries.keys entries := by
  induction entries with
  | nil => rfl
  | cons entry rest ih =>
      obtain ⟨key, value⟩ := entry
      exact congrArg (List.cons key) ih

/-- Reading and writing a record are inverse across a text. -/
structure RoundTrips {α : Type} (read : Value → Reading α) (write : α → Value)
    (finite : α → Prop) : Prop where
  written : ∀ record, finite record → read (carried (write record)) = .ok record
  /-- A document that can be read is read to the same record after it has been written again. -/
  rewritten : ∀ document record, Denotable document → read document = .ok record →
    read (carried (write record)) = .ok record

section Records

variable {α : Type} {read : Value → Reading α} {write : α → Value}

theorem RoundTrips.of_finite {finite : α → Prop}
    (written : ∀ record, finite record → read (carried (write record)) = .ok record)
    (reads : ∀ document record, Denotable document → read document = .ok record → finite record) :
    RoundTrips read write finite where
  written := written
  rewritten document record denotable taken :=
    written record (reads document record denotable taken)

theorem RoundTrips.of_exact (written : ∀ record, read (carried (write record)) = .ok record) :
    RoundTrips read write fun _ => True :=
  .of_finite (fun record _ => written record) fun _ _ _ _ => trivial

/-- A record is read back from its carried entries, in whatever order they arrive. -/
theorem record_written {record : α} {entries : Table} (distinct : (Entries.keys entries).Nodup)
    (reads : ∀ table, Holds table (carriedEntries entries) → read (.table table) = .ok record) :
    read (carried (.table entries)) = .ok record := by
  apply reads
  apply holds_sorted
  rw [keys_carried]
  exact distinct

theorem list_written {list : List α}
    (each : ∀ item ∈ list, read (carried (write item)) = .ok item) :
    Value.asListOf read (carried (.list (list.map write))) = .ok list := by
  simp only [carried, Value.asListOf]
  apply map_eq_ok.mpr
  induction list with
  | nil => exact .nil
  | cons item list ih =>
      obtain ⟨first, rest⟩ := List.forall_mem_cons.mp each
      exact .cons first (ih rest)

theorem list_read {document : Value} {list : List α} (denotable : Denotable document)
    (taken : Value.asListOf read document = .ok list) :
    ∀ result ∈ list, ∃ item, Denotable item ∧ read item = .ok result := by
  cases denotable with
  | list inner =>
      intro result inside
      obtain ⟨item, member, here⟩ := map_from taken result inside
      exact ⟨item, inner item member, here⟩
  | _ => cases taken

theorem as_double_finite {document : Value} {number : Double} (denotable : Denotable document)
    (taken : Value.asDouble document = .ok number) : number.isFinite = true := by
  cases denotable with
  | double finite =>
      cases taken
      exact finite
  | integer low high =>
      cases taken
      apply Double.of_int_finite
      simp only [leastInteger, greatestInteger] at low high
      omega
  | _ => cases taken

theorem entries_denotable {shape : Shape} {document : Value} {entries : Table}
    (denotable : Denotable document) (taken : shape.entries document = .ok entries) :
    ∀ entry ∈ entries, Denotable entry.2 := by
  apply Shape.entries_hold _ _ denotable taken
  · intro table whole
    cases whole with
    | table inner => exact inner
  · intro items whole
    cases whole with
    | list inner => exact inner

end Records

end Footage.Json
