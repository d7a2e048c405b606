import Footage.Toml.Draft
import Footage.Toml.Text

/-!
# Keys and values of a configuration text

A key is a row of simple keys with dots between them; a simple key is bare or a string on one
line. A value is a string, a truth value, a number, a moment, a list, or a table in braces. Lists
and tables in braces nest at most seventy-nine deep, and a key has at most seventy-nine parts.
-/

namespace Footage.Toml

open Footage.Document

set_option autoImplicit false

/-- One more than the greatest nesting and the greatest number of parts of a key. -/
def nestingLimit : Nat := 80

def isBareKeyChar (char : Char) : Bool :=
  ('A' ≤ char && char ≤ 'Z') || ('a' ≤ char && char ≤ 'z') || char.isDigit ||
    char == '-' || char == '_'

def simpleKey? : Reader String := fun text =>
  match text with
  | '"' :: _ => (lineString? '"' true text).map fun (chars, rest) => (String.ofList chars, rest)
  | '\'' :: _ => (lineString? '\'' false text).map fun (chars, rest) => (String.ofList chars, rest)
  | _ =>
      let chars := text.takeWhile isBareKeyChar
      if chars.isEmpty then none else some (String.ofList chars, text.dropWhile isBareKeyChar)

def dottedKey? : Nat → Reader (List String)
  | 0, _ => none
  | count + 1, text => do
      let (key, rest) ← simpleKey? (skipBlanks text)
      match skipBlanks rest with
      | '.' :: rest =>
          let (keys, rest) ← dottedKey? count rest
          some (key :: keys, rest)
      | rest => some ([key], rest)

def key? : Reader (List String) := dottedKey? (nestingLimit - 1)

def boolean? : Reader Value
  | 't' :: 'r' :: 'u' :: 'e' :: rest => some (.boolean true, rest)
  | 'f' :: 'a' :: 'l' :: 's' :: 'e' :: rest => some (.boolean false, rest)
  | _ => none

def numeral? : Reader Value := fun text =>
  match moment? text with
  | some (moment, rest) => some (.moment moment, rest)
  | none => number? text

def scalar? : Reader Value := fun text =>
  match text with
  | '"' :: _ | '\'' :: _ => (string? text).map fun (value, rest) => (.text value, rest)
  | 't' :: _ | 'f' :: _ => boolean? text
  | _ => numeral? text

/-- The items of a list behind its bracket, with commas between them and perhaps behind the last.
The count bounds the number of items. -/
def listItems? (item : Reader Value) : Nat → Reader (List Value)
  | 0, _ => none
  | count + 1, text => do
      match ← skipTrivia text with
      | ']' :: rest => some ([], rest)
      | text =>
          let (value, rest) ← item text
          match ← skipTrivia rest with
          | ']' :: rest => some ([value], rest)
          | ',' :: rest =>
              let (values, rest) ← listItems? item count rest
              some (value :: values, rest)
          | _ => none

def binding? (item : Reader Value) : Reader (List String × Value) := fun text => do
  let (keys, rest) ← key? text
  let rest ← expect? '=' rest
  let (value, rest) ← item (skipBlanks rest)
  some ((keys, value), skipBlanks rest)

def braceBindings? (item : Reader Value) : Nat → DraftTable → Reader DraftTable
  | 0, _, _ => none
  | count + 1, table, text => do
      let ((keys, value), rest) ← binding? item text
      let key ← keys.getLast?
      let table ← Draft.bindPath keys.dropLast key value .header table
      match rest with
      | '}' :: rest => some (table, rest)
      | ',' :: rest => braceBindings? item count table rest
      | _ => none

def braceTable? (item : Reader Value) : Reader Value := fun text =>
  match skipBlanks text with
  | '}' :: rest => some (.table [], rest)
  | text => do
      let (table, rest) ← braceBindings? item text.length [] text
      let value ← (Draft.table .header table).toValue?
      some (value, rest)

/-- A value in which lists and tables in braces nest at most so deep. -/
def valueWithin? : Nat → Reader Value
  | 0 => fun text =>
      match text with
      | '[' :: _ | '\x7b' :: _ => none
      | _ => scalar? text
  | depth + 1 => fun text =>
      match text with
      | '[' :: rest =>
          (listItems? (valueWithin? depth) text.length rest).map fun (items, rest) =>
            (.list items, rest)
      | '\x7b' :: rest => braceTable? (valueWithin? depth) rest
      | _ => scalar? text

def value? : Reader Value := valueWithin? (nestingLimit - 1)

end Footage.Toml
