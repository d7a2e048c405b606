/-!
# Dates and times of a document

A moment is a date, a time of day, or both, the last with or without an offset from universal
time. Fractions of a second are kept to the nanosecond. Its text is the normal one: a capital `T`
between date and time, a capital `Z` for universal time, and no trailing zeros in the fraction.
-/

namespace Footage.Document

set_option autoImplicit false

structure Day where
  year : Nat
  month : Nat
  day : Nat
deriving DecidableEq, Repr

/-- A time of day; second sixty is a leap second. -/
structure Clock where
  hour : Nat
  minute : Nat
  second : Nat
  nano : Nat
deriving DecidableEq, Repr

inductive Offset where
  | universal
  | minutes (behind : Bool) (count : Nat)
deriving DecidableEq, Repr

inductive Moment where
  | date (day : Day)
  | time (clock : Clock)
  | dateTime (day : Day) (clock : Clock) (offset : Option Offset)
deriving DecidableEq, Repr

namespace Moment

def padded (width number : Nat) : List Char :=
  let digits := Nat.toDigits 10 number
  List.replicate (width - digits.length) '0' ++ digits

def trimZeros (digits : List Char) : List Char := (digits.reverse.dropWhile (· == '0')).reverse

def dayChars (day : Day) : List Char :=
  padded 4 day.year ++ '-' :: padded 2 day.month ++ '-' :: padded 2 day.day

def clockChars (clock : Clock) : List Char :=
  let fraction := if clock.nano = 0 then [] else '.' :: trimZeros (padded 9 clock.nano)
  padded 2 clock.hour ++ ':' :: padded 2 clock.minute ++ ':' :: padded 2 clock.second ++ fraction

/-- An offset of no minutes is written with a plus sign. -/
def offsetChars : Offset → List Char
  | .universal => ['Z']
  | .minutes behind count =>
      (if behind && count != 0 then '-' else '+') ::
        padded 2 (count / 60) ++ ':' :: padded 2 (count % 60)

def text : Moment → String
  | .date day => String.ofList (dayChars day)
  | .time clock => String.ofList (clockChars clock)
  | .dateTime day clock offset =>
      String.ofList (dayChars day ++ 'T' :: clockChars clock ++ (offset.map offsetChars).getD [])

end Moment

end Footage.Document
