import Footage.Number.Double

/-!
# The fewest digits that read back

Every decimal strictly nearer to a double than to its neighbours reads back as that double; an
end of that interval reads back exactly when the mantissa is even. Among the decimals that read
back, the one with the fewest digits is chosen, and of two with equally many digits the nearer
one; which of two equally near ones is a matter of taste and left to the caller. Seventeen digits
always suffice.
-/

namespace Footage.Number

set_option autoImplicit false

/-- Decimal digits without a trailing zero, and the power of ten that the last digit counts:
`digits * 10 ^ exponent`. -/
structure Digits where
  digits : Nat
  exponent : Int
deriving Repr, DecidableEq, Inhabited

/-- Which of two decimals is taken that are equally near to a number. -/
inductive Tie where
  /-- The one with an even last digit. -/
  | toEven
  /-- The greater one. -/
  | up
deriving Repr, DecidableEq

/-- Of a number in a grid and the next one the first is taken, when the distance from the first
is `twice / bottom` halves of a step. -/
def Tie.takesBelow (tie : Tie) (below twice bottom : Nat) : Bool :=
  twice < bottom || (twice == bottom && tie == .toEven && below % 2 == 0)

namespace Double

/-- The interval of reals that round to a positive finite double, over one denominator:
the value, its lower end and its upper end. -/
structure Interval where
  value : Nat
  low : Nat
  high : Nat
  bottom : Nat
  closed : Bool
deriving Repr

/-- The interval of a double, in units of a quarter of its last place. The gap below a power of
two is half the gap above it, except among the smallest doubles. -/
def interval (x : Double) : Interval :=
  let quarters := 4 * x.mantissa
  let down := if x.mantissa = twoTo mantissaBits ∧ 1 < x.exponentField then 1 else 2
  let scale := if x.power < 0 then 1 else twoTo x.power.toNat
  let bottom := 4 * (if x.power < 0 then twoTo (-x.power).toNat else 1)
  ⟨quarters * scale, (quarters - down) * scale, (quarters + 2) * scale, bottom,
    x.mantissa % 2 == 0⟩

def scaleByTen (top bottom : Nat) (power : Int) : Nat × Nat :=
  if power < 0 then (top, bottom * tenTo (-power).toNat) else (top * tenTo power.toNat, bottom)

/-- A place estimate of the leading digit that is never too small, from the binary order:
`10 ^ (decimalOrder - 1)` is at most ten times the value. -/
def decimalOrder (x : Double) : Int :=
  let order := x.power + Nat.log2 x.mantissa
  -- 30103 / 100000 lies just above the decimal logarithm of two
  Int.fdiv (order * 30103) 100000 + 2

/-- The multiple of `10 ^ place` that is read back as the double, the nearer of two. -/
def hitAt (tie : Tie) (range : Interval) (place : Int) : Option Nat :=
  let (value, bottom) := scaleByTen range.value range.bottom (-place)
  let (low, _) := scaleByTen range.low range.bottom (-place)
  let (high, _) := scaleByTen range.high range.bottom (-place)
  let inside (digits : Nat) : Bool :=
    let scaled := digits * bottom
    if range.closed then low ≤ scaled && scaled ≤ high else low < scaled && scaled < high
  let below := value / bottom
  let above := below + 1
  match inside below && below != 0, inside above with
  | true, true =>
      if tie.takesBelow below (2 * (value % bottom)) bottom then some below else some above
  | true, false => some below
  | false, true => some above
  | false, false => none

def dropZeros : Nat → Nat → Int → Digits
  | 0, digits, exponent => ⟨digits, exponent⟩
  | steps + 1, digits, exponent =>
      if digits ≠ 0 ∧ digits % 10 = 0 then dropZeros steps (digits / 10) (exponent + 1)
      else ⟨digits, exponent⟩

/-- Tries ever finer grids, the given number of times. -/
def searchHit (tie : Tie) (range : Interval) : Nat → Int → Option Digits
  | 0, _ => none
  | steps + 1, place =>
      match hitAt tie range place with
      | some digits => some (dropZeros 20 digits place)
      | none => searchHit tie range steps (place - 1)

/-- The fewest digits that read back as the absolute value of a finite double. -/
def shortest (tie : Tie) (x : Double) : Digits :=
  if x.mantissa = 0 then ⟨0, 0⟩
  else (searchHit tie x.interval 24 x.decimalOrder).getD ⟨0, 0⟩

end Double

end Footage.Number
