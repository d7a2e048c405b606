import Footage.Document.Value
import Footage.Number.Decimal
import Footage.Number.Scaled
import Footage.Text.Quoted

/-!
# Reading JSON

A number without fraction and exponent is an integer if sixty-four bits can hold it; any other
number, minus zero among them, is a double by scaling its leading digits. The last of several
bindings of a key counts.
-/

namespace Footage.Json

open Footage.Document Footage.Number

set_option autoImplicit false

abbrev Reader (α : Type) := List Char → Option (α × List Char)

def isSpace (char : Char) : Bool :=
  char == ' ' || char == '\n' || char == '\t' || char == '\r'

def skipSpaces (text : List Char) : List Char := text.dropWhile isSpace

def unit? : Reader Nat
  | a :: b :: c :: d :: rest => do
      let a ← Text.hexValue? a
      let b ← Text.hexValue? b
      let c ← Text.hexValue? c
      let d ← Text.hexValue? d
      some (((a * 16 + b) * 16 + c) * 16 + d, rest)
  | _ => none

/-- The character that an escape by number stands for; two units for one beyond sixteen bits. -/
def numberedChar? : Reader Char := fun text => do
  let (high, rest) ← unit? text
  if 0xD800 ≤ high ∧ high < 0xDC00 then
    match rest with
    | '\\' :: 'u' :: rest => do
        let (low, rest) ← unit? rest
        if 0xDC00 ≤ low ∧ low < 0xE000 then
          some (Char.ofNat (0x10000 + (high - 0xD800) * 0x400 + (low - 0xDC00)), rest)
        else none
    | _ => none
  else if 0xDC00 ≤ high ∧ high < 0xE000 then none
  else some (Char.ofNat high, rest)

def escapedChar? : Char → Option Char
  | 'b' => some '\x08'
  | 'f' => some '\x0c'
  | 'n' => some '\n'
  | 'r' => some '\r'
  | 't' => some '\t'
  | '"' => some '"'
  | '\\' => some '\\'
  | '/' => some '/'
  | _ => none

/-- The rest of a string behind its opening quote, at most so many characters; those in front of
it are given from the last. -/
def stringBody? : Nat → List Char → Reader String
  | 0, _, _ => none
  | _ + 1, _, [] => none
  | count + 1, before, char :: rest =>
      if char = '"' then some (String.ofList before.reverse, rest)
      else if char = '\\' then
        match rest with
        | 'u' :: rest => do
            let (char, rest) ← numberedChar? rest
            stringBody? count (char :: before) rest
        | letter :: rest => do
            let char ← escapedChar? letter
            stringBody? count (char :: before) rest
        | [] => none
      else if char.toNat < 0x20 then none
      else stringBody? count (char :: before) rest

def string? : Reader String
  | '"' :: rest => stringBody? (rest.length + 1) [] rest
  | _ => none

def exponent? : Reader Int
  | 'e' :: rest | 'E' :: rest =>
      let (negative, rest) := signAndRest rest
      let (power, rest) := digitRun rest
      let size : Int := digitsValue power
      if power.isEmpty then none else some (if negative then -size else size, rest)
  | _ => none

/-- The greatest integer that a number without fraction and exponent can be. -/
def greatestInteger : Nat := 18446744073709551615

def leastInteger : Int := -9223372036854775808

def number? : Reader Value := fun text =>
  let (negative, rest) :=
    match text with
    | '-' :: rest => (true, rest)
    | rest => (false, rest)
  let (whole, rest) := digitRun rest
  if whole.isEmpty ∨ (whole.head? = some '0' ∧ whole.length ≠ 1) then none
  else
    let (part, rest) :=
      match rest with
      | '.' :: behind =>
          let (part, after) := digitRun behind
          if part.isEmpty then ([], rest) else (part, after)
      | rest => ([], rest)
    let power := exponent? rest
    let size : Int := digitsValue whole
    let number := if negative then -size else size
    let fits := leastInteger ≤ number ∧ number ≤ greatestInteger ∧ ¬ (negative ∧ number = 0)
    if part.isEmpty ∧ power.isNone ∧ fits then some (.integer number, rest)
    else
      let (power, rest) := power.getD (0, rest)
      (Double.scaled? negative (digitValues whole) (digitValues part) power).map fun number =>
        (.double number, rest)

def items? (item : Reader Value) : Nat → Reader (List Value)
  | 0, _ => none
  | count + 1, text => do
      let (value, rest) ← item text
      match skipSpaces rest with
      | ']' :: rest => some ([value], rest)
      | ',' :: rest =>
          let (values, rest) ← items? item count rest
          some (value :: values, rest)
      | _ => none

def bindings? (item : Reader Value) : Nat → Table → Reader Table
  | 0, _, _ => none
  | count + 1, table, text => do
      let (key, rest) ← string? (skipSpaces text)
      match skipSpaces rest with
      | ':' :: rest =>
          let (value, rest) ← item rest
          let table := Entries.insert key value table
          match skipSpaces rest with
          | '}' :: rest => some (table, rest)
          | ',' :: rest => bindings? item count table rest
          | _ => none
      | _ => none

def valueWithin? : Nat → Reader Value
  | 0, _ => none
  | depth + 1, text =>
      let item := valueWithin? depth
      match skipSpaces text with
      | 'n' :: 'u' :: 'l' :: 'l' :: rest => some (.null, rest)
      | 't' :: 'r' :: 'u' :: 'e' :: rest => some (.boolean true, rest)
      | 'f' :: 'a' :: 'l' :: 's' :: 'e' :: rest => some (.boolean false, rest)
      | '"' :: rest => (string? ('"' :: rest)).map fun (value, rest) => (.text value, rest)
      | '[' :: rest =>
          match skipSpaces rest with
          | ']' :: rest => some (.list [], rest)
          | rest => (items? item rest.length rest).map fun (values, rest) => (.list values, rest)
      | '\x7b' :: rest =>
          match skipSpaces rest with
          | '\x7d' :: rest => some (.table [], rest)
          | rest =>
              (bindings? item rest.length [] rest).map fun (table, rest) => (.table table, rest)
      | text => number? text

def read? (text : String) : Option Value :=
  let chars := text.toList
  match valueWithin? (chars.length + 1) chars with
  | some (value, rest) => if (skipSpaces rest).isEmpty then some value else none
  | none => none

end Footage.Json
