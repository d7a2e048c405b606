import Footage.Document.Moment
import Footage.Toml.Number

/-!
# Moments of a configuration text

Dates and times are checked against the calendar and the clock. Inside a configuration text a
moment ends where it cannot go on; a moment in a text of its own has to fill it, and its bounds
are a little wider.
-/

namespace Footage.Toml

open Footage.Number Footage.Document

set_option autoImplicit false

def fixedDigits? (count : Nat) : Reader Nat := fun text =>
  let digits := text.take count
  if digits.length = count ∧ digits.all Char.isDigit then
    some (digitsValue digits, text.drop count)
  else none

def pair? (low high : Nat) : Reader Nat := fun text => do
  let (number, rest) ← fixedDigits? 2 text
  if low ≤ number ∧ number ≤ high then some (number, rest) else none

/-- Every fourth year, except full centuries that four hundred does not divide. -/
def isLeapYear (year : Nat) : Bool := year % 4 == 0 && (year % 100 != 0 || year % 400 == 0)

def daysInMonth (year month : Nat) : Nat :=
  if month = 2 then if isLeapYear year then 29 else 28
  else if month = 4 ∨ month = 6 ∨ month = 9 ∨ month = 11 then 30
  else 31

def day? : Reader Day := fun text => do
  let (year, rest) ← fixedDigits? 4 text
  let rest ← expect? '-' rest
  let (month, rest) ← pair? 1 12 rest
  let rest ← expect? '-' rest
  let (day, rest) ← pair? 1 (daysInMonth year month) rest
  some (⟨year, month, day⟩, rest)

def nanos (digits : List Char) : Nat :=
  let kept := digits.take 9
  digitsValue kept * tenTo (9 - kept.length)

/-- The greatest numbers that are taken for an hour of the clock and for the hours and minutes of
an offset. -/
structure Bounds where
  clockHour : Nat
  offsetHour : Nat
  offsetMinute : Nat

def Bounds.strict : Bounds := ⟨23, 23, 59⟩

/-- Any two digits for an offset, and midnight at the end of a day as well. -/
def Bounds.lax : Bounds := ⟨24, 99, 99⟩

def clock? (bounds : Bounds) : Reader Clock := fun text => do
  let (hour, rest) ← pair? 0 bounds.clockHour text
  let rest ← expect? ':' rest
  let (minute, rest) ← pair? 0 59 rest
  let rest ← expect? ':' rest
  let (second, rest) ← pair? 0 60 rest
  match rest with
  | '.' :: part =>
      let digits := part.takeWhile Char.isDigit
      if digits.isEmpty then some (⟨hour, minute, second, 0⟩, rest)
      else some (⟨hour, minute, second, nanos digits⟩, part.dropWhile Char.isDigit)
  | _ => some (⟨hour, minute, second, 0⟩, rest)

def offset? (bounds : Bounds) : Reader Offset
  | 'Z' :: rest | 'z' :: rest => some (.universal, rest)
  | text => do
      let (behind, rest) ←
        match text with
        | '+' :: rest => some (false, rest)
        | '-' :: rest => some (true, rest)
        | _ => none
      let (hours, rest) ← pair? 0 bounds.offsetHour rest
      let rest ← expect? ':' rest
      let (minutes, rest) ← pair? 0 bounds.offsetMinute rest
      let distance := 60 * hours + minutes
      if distance ≤ 1440 then some (.minutes behind distance, rest) else none

def timeMark? : List Char → Option (List Char)
  | 'T' :: rest | 't' :: rest | ' ' :: rest => some rest
  | _ => none

def moment? : Reader Moment := fun text =>
  match day? text with
  | some (day, rest) =>
      match (timeMark? rest).bind (clock? .strict) with
      | some (clock, rest) =>
          match offset? .strict rest with
          | some (offset, rest) => some (.dateTime day clock (some offset), rest)
          | none => some (.dateTime day clock none, rest)
      | none => some (.date day, rest)
  | none => (clock? .strict text).map fun (clock, rest) => (.time clock, rest)

/-- The moment in a text of its own, which holds nothing else. What stands behind a date has to
be a time. -/
def momentText? (text : List Char) : Option Moment :=
  if text[2]? = some ':' then
    match clock? .lax text with
    | some (clock, []) => some (.time clock)
    | _ => none
  else do
    let (day, rest) ← day? text
    if rest.isEmpty then some (.date day)
    else
      let (clock, rest) ← clock? .lax (← timeMark? rest)
      if rest.isEmpty then some (.dateTime day clock none)
      else
        match offset? .lax rest with
        | some (offset, []) => some (.dateTime day clock (some offset))
        | _ => none

end Footage.Toml
