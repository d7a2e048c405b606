import Footage.Document.Entries
import Footage.Document.Moment
import Footage.Number.Double

/-!
# Values of a document, and merging them

The tree that configuration files and JSON texts have in common. Tables that come from a document
keep their keys in ascending order.

An overlay is merged into a base key by key. Where both bind a key to a table the two tables are
merged; any other value of the overlay replaces the base's. What the overlay does not bind stays.
-/

namespace Footage.Document

open Footage.Number

set_option autoImplicit false

/-- A value of a document. `null` occurs in JSON only, a moment in configuration files only. -/
inductive Value where
  | null
  | boolean (value : Bool)
  | integer (value : Int)
  | double (value : Double)
  | text (value : String)
  | moment (value : Moment)
  | list (items : List Value)
  | table (entries : List (String × Value))
deriving Inhabited

abbrev Table := Entries Value

mutual

/-- What a key is bound to after an overlay value has met the base's value for it. -/
def Value.overlaid (existing : Option Value) : Value → Value
  | .table incoming =>
      match existing with
      | some (.table base) => .table (mergeEntries base incoming)
      | _ => .table incoming
  | other => other

def mergeEntry (base : List (String × Value)) : String × Value → List (String × Value)
  | (key, value) => Entries.insert key (Value.overlaid (Entries.find? key base) value) base

def mergeEntries (base : List (String × Value)) : List (String × Value) → List (String × Value)
  | [] => base
  | entry :: rest => mergeEntries (mergeEntry base entry) rest

end

def Table.merge (base overlay : Table) : Table := mergeEntries base overlay

/-- Documents merged from the left onto an empty table; the last one wins. -/
def Table.mergeAll (documents : List Table) : Table := documents.foldl Table.merge []

end Footage.Document
