import Footage.Toml.Reserved

/-!
# Tables under construction

While a text is read its tables remember how they came about: by a header, as a parent that a
header implies, or as a parent that a dotted key implies. The rules on repeated definitions are
stated on that origin. A table implied by a header may later get its own header; a dotted key may
add to tables that dotted keys or headers imply, never to one with a header of its own; and no
key is bound twice. Keys stay in the order in which they came, a table with a header of its own
in the place of that header; the finished tables are sorted.
-/

namespace Footage.Toml

open Footage.Document

set_option autoImplicit false

/-- How a table came about. -/
inductive Origin where
  | header
  | impliedByHeader
  | impliedByKey
deriving DecidableEq, Repr

/-- A value, a table, or a series of tables that headers extend; the latest table comes first. -/
inductive Draft where
  | leaf (value : Value)
  | table (origin : Origin) (entries : List (String × Draft))
  | series (tables : List (List (String × Draft)))
deriving Inhabited

abbrev DraftTable := Entries Draft

namespace Draft

mutual

/-- The finished value; nothing if a table has the reserved key in front and is no moment. -/
def toValue? : Draft → Option Value
  | .leaf value => some value
  | .table _ entries => do
      let entries ← toEntries? entries
      innerTable? entries
  | .series tables => do
      let values ← toTables? tables
      some (.list values.reverse)

def toEntry? : String × Draft → Option (String × Value)
  | (key, draft) => do
      let value ← toValue? draft
      some (key, value)

def toEntries? : List (String × Draft) → Option (List (String × Value))
  | [] => some []
  | entry :: rest => do
      let entry ← toEntry? entry
      let rest ← toEntries? rest
      some (entry :: rest)

def toTables? : List (List (String × Draft)) → Option (List Value)
  | [] => some []
  | entries :: rest => do
      let entries ← toEntries? entries
      let value ← innerTable? entries
      let rest ← toTables? rest
      some (value :: rest)

end

def toTable? (entries : DraftTable) : Option Table := (toEntries? entries).map Entries.sorted

/-- Changes the table at the end of a path of keys, making the tables that are missing on the
way. A series stands for its latest table. A path of a dotted key does not enter a table that
has a header of its own. -/
def alter (dotted : Bool) (change : Origin → DraftTable → Option DraftTable) :
    List String → Origin → DraftTable → Option DraftTable
  | [], origin, entries => change origin entries
  | key :: path, _, entries =>
      match Entries.find? key entries with
      | none => do
          let implied := if dotted then .impliedByKey else .impliedByHeader
          let inner ← alter dotted change path implied []
          some (Entries.put key (.table implied inner) entries)
      | some (.leaf _) => none
      | some (.table origin inner) =>
          if dotted ∧ origin = .header then none
          else do
            let inner ← alter dotted change path origin inner
            some (Entries.put key (.table origin inner) entries)
      | some (.series []) => none
      | some (.series (latest :: earlier)) => do
          let latest ← alter dotted change path .header latest
          some (Entries.put key (.series (latest :: earlier)) entries)

def bind (key : String) (value : Value) (entries : DraftTable) : Option DraftTable :=
  match Entries.find? key entries with
  | some _ => none
  | none => some (Entries.put key (.leaf value) entries)

/-- Binds a dotted key below a table. The table at the end of a path has to come from a dotted
key, and a key without a path belongs to a table that does not. -/
def bindPath (path : List String) (key : String) (value : Value) (origin : Origin)
    (entries : DraftTable) : Option DraftTable :=
  let atEnd (reached : Origin) (table : DraftTable) : Option DraftTable :=
    if (reached == .impliedByKey) == path.isEmpty then none else bind key value table
  alter true atEnd path origin entries

def bindUnder (header path : List String) (key : String) (value : Value) (root : DraftTable) :
    Option DraftTable :=
  alter false (bindPath path key value) header .header root

def openTable (path : List String) (key : String) (root : DraftTable) : Option DraftTable :=
  let claim (_ : Origin) (parent : DraftTable) : Option DraftTable :=
    match Entries.find? key parent with
    | none => some (Entries.put key (.table .header []) parent)
    | some (.table .impliedByHeader inner) =>
        some (Entries.put key (.table .header inner) (Entries.erase key parent))
    | some _ => none
  alter false claim path .header root

/-- Adds a table to a series, which the first of them starts. -/
def openSeries (path : List String) (key : String) (root : DraftTable) : Option DraftTable :=
  let extend (_ : Origin) (parent : DraftTable) : Option DraftTable :=
    match Entries.find? key parent with
    | none => some (Entries.put key (.series [[]]) parent)
    | some (.series tables) => some (Entries.put key (.series ([] :: tables)) parent)
    | some _ => none
  alter false extend path .header root

end Draft

end Footage.Toml
