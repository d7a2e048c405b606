import Footage.Document.Value
import Footage.Number.Layout

/-!
# Writing JSON

Two layouts: everything on one line without spaces, and one item on a line with an indentation of
two spaces for every level. Entries are written in the order in which the table holds them.
-/

namespace Footage.Json

open Footage.Document Footage.Number

set_option autoImplicit false

def escapedChar (char : Char) : List Char :=
  match char with
  | '"' => ['\\', '"']
  | '\\' => ['\\', '\\']
  | '\x08' => ['\\', 'b']
  | '\x0c' => ['\\', 'f']
  | '\n' => ['\\', 'n']
  | '\r' => ['\\', 'r']
  | '\t' => ['\\', 't']
  | other =>
      if other.toNat < 0x20 then
        let digits := Nat.toDigits 16 other.toNat
        ['\\', 'u'] ++ List.replicate (4 - digits.length) '0' ++ digits
      else [other]

def quoted (text : String) : String :=
  String.ofList ('"' :: text.toList.flatMap escapedChar ++ ['"'])

/-- A value without parts; a double that is not finite has no number and is written as null. -/
def scalar : Value → String
  | .boolean value => if value then "true" else "false"
  | .integer value => intText value
  | .double value => if value.isFinite then value.text Layout.document else "null"
  | .text value => quoted value
  | .moment value => quoted value.text
  | _ => "null"

mutual

def compact : Value → String
  | .list items => "[" ++ ",".intercalate (compactItems items) ++ "]"
  | .table entries => "\x7b" ++ ",".intercalate (compactEntries entries) ++ "\x7d"
  | other => scalar other

def compactItems : List Value → List String
  | [] => []
  | item :: rest => compact item :: compactItems rest

def compactEntry : String × Value → String
  | (key, value) => quoted key ++ ":" ++ compact value

def compactEntries : List (String × Value) → List String
  | [] => []
  | entry :: rest => compactEntry entry :: compactEntries rest

end

def indentation (level : Nat) : String := String.ofList (List.replicate (2 * level) ' ')

/-- Lines of a level between two brackets. -/
def block (opening closing : String) (level : Nat) (lines : List String) : String :=
  if lines.isEmpty then opening ++ closing
  else
    opening ++ "\n" ++
      ",\n".intercalate (lines.map fun line => indentation (level + 1) ++ line) ++ "\n" ++
      indentation level ++ closing

mutual

def pretty (level : Nat) : Value → String
  | .list items => block "[" "]" level (prettyItems (level + 1) items)
  | .table entries => block "\x7b" "\x7d" level (prettyEntries (level + 1) entries)
  | other => scalar other

def prettyItems (level : Nat) : List Value → List String
  | [] => []
  | item :: rest => pretty level item :: prettyItems level rest

def prettyEntry (level : Nat) : String × Value → String
  | (key, value) => quoted key ++ ": " ++ pretty level value

def prettyEntries (level : Nat) : List (String × Value) → List String
  | [] => []
  | entry :: rest => prettyEntry level entry :: prettyEntries level rest

end

end Footage.Json
