import Footage.Document.Value
import Footage.Number.Decimal
import Footage.Text.Quoted
import Footage.Toml.Lexical

/-!
# Numbers of a configuration text

Whole numbers are decimal with an optional sign and no leading zero, or hexadecimal, octal or
binary without a sign; they have to fit into sixty-four bits. Single underscores may stand
between digits. Fractions have digits on both sides of the point.
-/

namespace Footage.Toml

open Footage.Number Footage.Document

set_option autoImplicit false

def digitValue? (base : Nat) (char : Char) : Option Nat :=
  (Text.hexValue? char).filter (· < base)

/-- The digits in front of the text with single underscores between them, and the text after
them. -/
def digitRun (base : Nat) : List Char → List Nat × List Char
  | [] => ([], [])
  | '_' :: char :: rest =>
      match digitValue? base char with
      | some digit =>
          let (digits, after) := digitRun base rest
          (digit :: digits, after)
      | none => ([], '_' :: char :: rest)
  | char :: rest =>
      match digitValue? base char with
      | some digit =>
          let (digits, after) := digitRun base rest
          (digit :: digits, after)
      | none => ([], char :: rest)

def digits? (base : Nat) : Reader (List Nat)
  | [] => none
  | char :: rest => do
      let digit ← digitValue? base char
      let (digits, after) := digitRun base rest
      some (digit :: digits, after)

/-- Digits without a leading zero; a zero stands alone. -/
def wholeDigits? : Reader (List Nat)
  | '0' :: rest => some ([0], rest)
  | text => digits? 10 text

def integerValue? (number : Int) : Option Value :=
  if -9223372036854775808 ≤ number ∧ number ≤ 9223372036854775807 then some (.integer number)
  else none

def exponent? : Reader Int
  | 'e' :: rest | 'E' :: rest => do
      let (negative, rest) := signAndRest rest
      let (digits, rest) ← digits? 10 rest
      let size : Int := valueOf 10 digits
      some (if negative then -size else size, rest)
  | _ => none

def fraction? : Reader (List Nat)
  | '.' :: rest => digits? 10 rest
  | _ => none

/-- A number with a fraction, an exponent or both. Infinity is not written with digits, except
that a negative number out of range counts as negative infinity. -/
def doubleValue? (negative : Bool) (digits : List Nat) (exponent : Int) : Option Value :=
  let number := Double.ofDecimal negative (valueOf 10 digits) exponent
  if number = Double.infinity false then none else some (.double number)

def decimal? (negative : Bool) : Reader Value := fun text => do
  let (whole, rest) ← wholeDigits? text
  match fraction? rest with
  | some (part, rest) =>
      let (power, rest) := (exponent? rest).getD (0, rest)
      let value ← doubleValue? negative (whole ++ part) (power - part.length)
      some (value, rest)
  | none =>
      match exponent? rest with
      | some (power, rest) =>
          let value ← doubleValue? negative whole power
          some (value, rest)
      | none =>
          let size : Int := valueOf 10 whole
          let value ← integerValue? (if negative then -size else size)
          some (value, rest)

def special? (negative : Bool) : Reader Value
  | 'i' :: 'n' :: 'f' :: rest => some (.double (Double.infinity negative), rest)
  | 'n' :: 'a' :: 'n' :: rest => some (.double (Double.nan negative), rest)
  | _ => none

def based? (base : Nat) : Reader Value := fun text => do
  let (digits, rest) ← digits? base text
  let value ← integerValue? (valueOf base digits)
  some (value, rest)

def number? : Reader Value
  | '0' :: 'x' :: rest => based? 16 rest
  | '0' :: 'o' :: rest => based? 8 rest
  | '0' :: 'b' :: rest => based? 2 rest
  | text =>
      let (negative, rest) := signAndRest text
      match special? negative rest with
      | some found => some found
      | none => decimal? negative rest

end Footage.Toml
