import Footage.Document.Value
import Footage.Toml.Moment

/-!
# Moments in the form of tables

A table inside a document whose first key is the reserved one is no table but the moment that
the text behind that key denotes, whatever else the table holds. The document itself is always a
table. Which key is the first is known while a table still has its entries in the order in which
they came; afterwards the entries are sorted.
-/

namespace Footage.Toml

open Footage.Document

set_option autoImplicit false

/-- The key that makes a table a moment. -/
def momentKey : String := "$__toml_private_datetime"

def momentIn? : Value → Option Moment
  | .text text => momentText? text.toList
  | _ => none

/-- The value that is made of the entries of an inner table; nothing if the reserved key comes
first and no moment is behind it. -/
def innerTable? : List (String × Value) → Option Value
  | [] => some (.table [])
  | (key, value) :: rest =>
      if key = momentKey then (momentIn? value).map .moment
      else some (.table (Entries.sorted ((key, value) :: rest)))

mutual

/-- The value with every table in it made by these rules. -/
def settled? : Value → Option Value
  | .list items => do
      let items ← settledItems? items
      some (.list items)
  | .table entries => do
      let entries ← settledEntries? entries
      innerTable? entries
  | other => some other

def settledItems? : List Value → Option (List Value)
  | [] => some []
  | item :: rest => do
      let item ← settled? item
      let rest ← settledItems? rest
      some (item :: rest)

def settledEntry? : String × Value → Option (String × Value)
  | (key, value) => do
      let value ← settled? value
      some (key, value)

def settledEntries? : List (String × Value) → Option (List (String × Value))
  | [] => some []
  | entry :: rest => do
      let entry ← settledEntry? entry
      let rest ← settledEntries? rest
      some (entry :: rest)

end

def document? (entries : Table) : Option Table := (settledEntries? entries).map Entries.sorted

end Footage.Toml
