import Footage.Number.Double

/-!
# Numbers as free-standing texts

A natural number is written in decimal digits with an optional plus sign in front. A double has at
most one point among its digits and at least one digit, and may have a sign and an exponent.
Infinity and the value that is no number have names.
-/

namespace Footage.Number

set_option autoImplicit false

def digitRun (text : List Char) : List Char × List Char :=
  (text.takeWhile Char.isDigit, text.dropWhile Char.isDigit)

def digitValues (digits : List Char) : List Nat := digits.map fun char => char.toNat - 48

def valueOf (base : Nat) (digits : List Nat) : Nat :=
  digits.foldl (fun value digit => base * value + digit) 0

def digitsValue (digits : List Char) : Nat := valueOf 10 (digitValues digits)

/-- A sign that may stand in front of a text, true where it is a minus, and what is behind it. -/
def signAndRest : List Char → Bool × List Char
  | '-' :: rest => (true, rest)
  | '+' :: rest => (false, rest)
  | text => (false, text)

def parseNatural (bound : Nat) (text : String) : Option Nat :=
  let digits :=
    match text.toList with
    | '+' :: rest => rest
    | chars => chars
  if digits.isEmpty ∨ !digits.all Char.isDigit then none
  else
    let number := digitsValue digits
    if number < bound then some number else none

namespace Double

/-- The power of ten in a text that holds nothing else; an empty text is the power zero. -/
def powerOf? : List Char → Option Int
  | [] => some 0
  | mark :: rest =>
      let (negative, rest) := signAndRest rest
      let (digits, rest) := digitRun rest
      if (mark ≠ 'e' ∧ mark ≠ 'E') ∨ digits.isEmpty ∨ !rest.isEmpty then none
      else
        let size : Int := digitsValue digits
        some (if negative then -size else size)

def parse? (text : String) : Option Double :=
  let (negative, chars) := signAndRest text.toList
  let name := String.ofList (chars.map Char.toLower)
  if name = "inf" ∨ name = "infinity" then some (infinity negative)
  else if name = "nan" then some (nan negative)
  else
    let (whole, rest) := digitRun chars
    let (part, rest) :=
      match rest with
      | '.' :: rest => digitRun rest
      | rest => ([], rest)
    if whole.isEmpty ∧ part.isEmpty then none
    else
      (powerOf? rest).map fun power =>
        ofDecimal negative (digitsValue (whole ++ part)) (power - part.length)

end Double

end Footage.Number
