import Footage.Number.Double

/-!
# Decimals by scaling

The quick way from decimal digits to a double: as many leading digits as fit into sixty-four bits
become a double, which is then multiplied or divided by a power of ten. Every step rounds, so the
result can lie a place beside the nearest double. A number of up to fifteen digits and a power of
ten up to twenty-two come out exact, because then only the last step rounds.
-/

namespace Footage.Number

set_option autoImplicit false

def greatestLead : Nat := UInt64.size - 1

/-- The number that the digits make up behind the ones read so far, and how many of them it
takes; the first digit that does not fit ends it. -/
def leadingDigits (read : Nat) : List Nat → Nat × Nat
  | [] => (read, 0)
  | digit :: rest =>
      if 10 * read + digit ≤ greatestLead then
        let (number, count) := leadingDigits (10 * read + digit) rest
        (number, count + 1)
      else (read, 0)

/-- The digits in front of a decimal point and behind it, as a number and the power of ten by
which it counts. Further digits in front of the point count as zeros, further ones behind it do
not count. -/
def leadOf (whole part : List Nat) : Nat × Int :=
  let (front, taken) := leadingDigits 0 whole
  let (number, added) := leadingDigits front part
  (number, ((whole.length - taken : Nat) : Int) - added)

namespace Double

def greatestTen : Nat := 308

/-- A double divided by a power of ten, in steps that are doubles themselves. -/
def divideByTen (x : Double) (power : Nat) : Double :=
  if power ≤ greatestTen then x.div (ofNat (tenTo power))
  else if x.mantissa = 0 then x
  else divideByTen (x.div (ofNat (tenTo greatestTen))) (power - greatestTen)
termination_by power
decreasing_by simp only [greatestTen] at *; omega

def timesTen? (x : Double) (power : Nat) : Option Double :=
  if power ≤ greatestTen then
    let product := x.mul (ofNat (tenTo power))
    if product.isInfinite then none else some product
  else if x.mantissa = 0 then some x
  else none

/-- The double for the digits around a decimal point and a power of ten behind them; nothing when
it is too large. -/
def scaled? (negative : Bool) (whole part : List Nat) (power : Int) : Option Double := do
  let (lead, place) := leadOf whole part
  let exponent := place + power
  let size ←
    if exponent < 0 then some ((ofNat lead).divideByTen (-exponent).toNat)
    else (ofNat lead).timesTen? exponent.toNat
  some (ofPattern negative size.magnitude)

end Double

end Footage.Number
