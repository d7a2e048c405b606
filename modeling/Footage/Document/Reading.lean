import Footage.Document.Value
import Footage.Number.Layout
import Footage.Text.Quoted

/-!
# Reading records from values

A record is read from a table by field names or from a list by field order. Every present field
is checked first, in the order of the document, so the first bad value is the one reported;
unknown keys are ignored. A field that is absent takes its default or, where it has none, makes
the reading fail. A failure is a cause with the keys that lead to the value; its wording is made
from it in one place.
-/

namespace Footage.Document

open Footage.Number

set_option autoImplicit false

/-- What is wrong with a value. -/
inductive Problem where
  /-- The value is of another kind than expected. -/
  | wrongType (found : Value) (expected : String)
  /-- An integer outside the range of its field. -/
  | outOfRange (found : Value) (expected : String)
  /-- A table without a field that has no default. -/
  | missingField (field : String)
  /-- A list that ends before a field that has no default. -/
  | tooShort (length : Nat) (record : String) (fields : Nat)
  /-- A list with more items than the record has fields. -/
  | tooLong (length : Nat)
deriving Inhabited

/-- A problem and the keys of the tables that lead to it, outermost first. -/
structure Mismatch where
  keys : List String
  problem : Problem
deriving Inhabited

namespace Mismatch

def here (problem : Problem) : Mismatch := ⟨[], problem⟩

def under (key : String) (mismatch : Mismatch) : Mismatch :=
  { mismatch with keys := key :: mismatch.keys }

/-- How a value is named in a message; doubles in the given layout. -/
def describe (layout : Layout) : Value → String
  | .null => "null"
  | .boolean value => "boolean `" ++ (if value then "true" else "false") ++ "`"
  | .integer value => "integer `" ++ intText value ++ "`"
  | .double value => "floating point `" ++ value.text layout ++ "`"
  | .text value => "string " ++ Text.quoted value
  | .moment value => "string " ++ Text.quoted value.text
  | .list _ => "sequence"
  | .table _ => "map"

def problemText (layout : Layout) : Problem → String
  | .wrongType found expected =>
      "invalid type: " ++ describe layout found ++ ", expected " ++ expected
  | .outOfRange found expected =>
      "invalid value: " ++ describe layout found ++ ", expected " ++ expected
  | .missingField field => "missing field `" ++ field ++ "`"
  | .tooShort length record fields =>
      "invalid length " ++ toString length ++ ", expected struct " ++ record ++ " with " ++
        toString fields ++ (if fields = 1 then " element" else " elements")
  | .tooLong length =>
      "invalid length " ++ toString length ++ ", expected fewer elements in array"

/-- The message for a configuration file: the problem, and on a line of its own the dotted key. -/
def configText (mismatch : Mismatch) : String :=
  let place :=
    if mismatch.keys.isEmpty then ""
    else "in `" ++ ".".intercalate mismatch.keys ++ "`\n"
  problemText Layout.pointed mismatch.problem ++ "\n" ++ place

def jsonText (mismatch : Mismatch) : String := problemText Layout.document mismatch.problem

end Mismatch

abbrev Reading (α : Type) := Except Mismatch α

namespace Value

def refuse {α : Type} (value : Value) (expected : String) : Reading α :=
  .error (.here (.wrongType value expected))

def asBoolean : Value → Reading Bool
  | .boolean value => .ok value
  | other => other.refuse "a boolean"

/-- Text; a date or time counts as its text. -/
def asTextExpecting (expected : String) : Value → Reading String
  | .text value => .ok value
  | .moment value => .ok value.text
  | other => other.refuse expected

def asText : Value → Reading String := asTextExpecting "a string"

def asPath : Value → Reading String := asTextExpecting "path string"

def asIntegerWithin (low high : Int) (expected : String) : Value → Reading Int
  | .integer value =>
      if low ≤ value ∧ value ≤ high then .ok value
      else .error (.here (.outOfRange (.integer value) expected))
  | other => other.refuse expected

def asUInt32 (value : Value) : Reading UInt32 :=
  (asIntegerWithin 0 4294967295 "u32" value).map fun number => UInt32.ofNat number.toNat

def asInt32 (value : Value) : Reading Int32 :=
  (asIntegerWithin (-2147483648) 2147483647 "i32" value).map Int32.ofInt

def asInt64 (value : Value) : Reading Int64 :=
  (asIntegerWithin (-9223372036854775808) 9223372036854775807 "i64" value).map Int64.ofInt

def asUInt64 (value : Value) : Reading UInt64 :=
  (asIntegerWithin 0 18446744073709551615 "u64" value).map fun number => UInt64.ofNat number.toNat

/-- A double; an integer counts as the nearest one. -/
def asDouble : Value → Reading Double
  | .double value => .ok value
  | .integer value => .ok (Double.ofInt value)
  | other => other.refuse "f64"

def asListOf {α : Type} (item : Value → Reading α) : Value → Reading (List α)
  | .list items => items.mapM item
  | other => other.refuse "a sequence"

end Value

/-- A field that a record declares. -/
structure Field where
  name : String
  /-- The check that a present value has to pass. -/
  check : Value → Reading Unit
  /-- The field has no default. -/
  required : Bool

namespace Field

def optional {α : Type} (name : String) (read : Value → Reading α) : Field :=
  ⟨name, fun value => (read value).map fun _ => (), false⟩

def mandatory {α : Type} (name : String) (read : Value → Reading α) : Field :=
  ⟨name, fun value => (read value).map fun _ => (), true⟩

end Field

/-- The name that messages use for a record, and its fields in the order of their declaration. -/
structure Shape where
  record : String
  fields : List Field

namespace Shape

def checkEntry (shape : Shape) (entry : String × Value) : Reading Unit :=
  match shape.fields.find? fun field => field.name == entry.1 with
  | some field => (field.check entry.2).mapError (Mismatch.under entry.1)
  | none => .ok ()

def firstRequired (fields : List Field) : Option Nat := fields.findIdx? fun field => field.required

/-- The checked entries of the record that a value holds, by field name. -/
def entries (shape : Shape) : Value → Reading Table
  | .table found => do
      found.forM shape.checkEntry
      let isMissing := fun field : Field =>
        field.required && (Entries.find? field.name found).isNone
      match shape.fields.find? isMissing with
      | some field => .error (.here (.missingField field.name))
      | none => .ok found
  | .list items => do
      let named := shape.fields.zip items
      named.forM fun (field, item) => field.check item
      match firstRequired (shape.fields.drop items.length) with
      | some further =>
          .error (.here (.tooShort (items.length + further) shape.record shape.fields.length))
      | none =>
          if shape.fields.length < items.length then .error (.here (.tooLong items.length))
          else .ok (named.map fun (field, item) => (field.name, item))
  | other => other.refuse ("struct " ++ shape.record)

end Shape

namespace Table

def optional {α : Type} (table : Table) (name : String) (read : Value → Reading α) (absent : α) :
    Reading α :=
  match Entries.find? name table with
  | some value => read value
  | none => .ok absent

def mandatory {α : Type} (table : Table) (name : String) (read : Value → Reading α) : Reading α :=
  match Entries.find? name table with
  | some value => read value
  | none => .error (.here (.missingField name))

end Table

end Footage.Document
