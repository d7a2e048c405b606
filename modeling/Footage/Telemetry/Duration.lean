import Footage.Number.Layout

/-!
# Lengths of time

A length of time is a number of nanoseconds below two to the sixty-fourth seconds. It is shown in
the largest unit in which it has a whole part, with the fraction that is needed.
-/

namespace Footage.Telemetry

open Footage.Number

set_option autoImplicit false

def nanosPerSecond : Nat := 1000000000

/-- The first length that is too long, in nanoseconds. -/
def durationLimit : Nat := UInt64.size * nanosPerSecond

@[ext] structure Duration where
  nanos : Nat
  nanos_lt : nanos < durationLimit := by decide
deriving DecidableEq, Repr

namespace Duration

def zero : Duration := ⟨0, by decide⟩

def ofNanos? (nanos : Nat) : Option Duration :=
  if fits : nanos < durationLimit then some ⟨nanos, fits⟩ else none

def add? (a b : Duration) : Option Duration := ofNanos? (a.nanos + b.nanos)

def longer (a b : Duration) : Duration := if a.nanos < b.nanos then b else a

theorem add_eq_some {a b sum : Duration} :
    a.add? b = some sum ↔ sum.nanos = a.nanos + b.nanos := by
  rw [add?, ofNanos?]
  constructor
  · intro fits
    split at fits
    · cases fits
      rfl
    · cases fits
  · intro same
    rw [← same]
    exact dif_pos sum.nanos_lt

theorem longer_eq_or (a b : Duration) : a.longer b = a ∨ a.longer b = b := by
  rw [longer]
  split
  · exact .inr rfl
  · exact .inl rfl

theorem le_longer_left (a b : Duration) : a.nanos ≤ (a.longer b).nanos := by
  rw [longer]
  split <;> omega

theorem le_longer_right (a b : Duration) : b.nanos ≤ (a.longer b).nanos := by
  rw [longer]
  split <;> omega

/-- Milliseconds as a double: the seconds and the rest are rounded on their own. -/
def milliseconds (duration : Duration) : Double :=
  let seconds := Double.ofNat (duration.nanos / nanosPerSecond)
  let rest := (Double.ofNat (duration.nanos % nanosPerSecond)).div (Double.ofNat nanosPerSecond)
  (seconds.addUnsigned rest).mul (Double.ofNat 1000)

def decimal (whole part places : Nat) : String :=
  let digits := digitChars part
  let padded := List.replicate (places - digits.length) '0' ++ digits
  let kept := (padded.reverse.dropWhile (· == '0')).reverse
  String.ofList (digitChars whole ++ (if part = 0 then [] else '.' :: kept))

def text (duration : Duration) : String :=
  let nanos := duration.nanos
  if nanosPerSecond ≤ nanos then decimal (nanos / nanosPerSecond) (nanos % nanosPerSecond) 9 ++ "s"
  else if 1000000 ≤ nanos then decimal (nanos / 1000000) (nanos % 1000000) 6 ++ "ms"
  else if 1000 ≤ nanos then decimal (nanos / 1000) (nanos % 1000) 3 ++ "µs"
  else decimal nanos 0 0 ++ "ns"

end Duration

end Footage.Telemetry
