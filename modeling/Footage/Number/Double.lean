/-!
# Double-precision numbers

A double is its 64 bits: a sign, eleven exponent bits and fifty-two mantissa bits. Arithmetic is
exact arithmetic on ratios of natural numbers followed by one rounding to the nearest double,
ties to the even mantissa. So every operation here is computable inside the logic.
-/

namespace Footage.Number

set_option autoImplicit false

def twoTo (exponent : Nat) : Nat := Nat.pow 2 exponent

def tenTo (exponent : Nat) : Nat := Nat.pow 10 exponent

/-- A double-precision number, identified with its bits. Two zeros differ; so do two NaNs with
different payloads. -/
structure Double where
  bits : UInt64
deriving DecidableEq, Repr, Inhabited

/-- A sign and a ratio of natural numbers. -/
structure Ratio where
  negative : Bool
  top : Nat
  bottom : Nat
deriving Repr

namespace Double

def mantissaBits : Nat := 52

/-- The exponent of the last place of the smallest doubles, as a negative power of two. -/
def lastPlace : Nat := 1074

def infinityPattern : Nat := 0x7FF0000000000000

def signWeight : Nat := twoTo 63

def magnitude (x : Double) : Nat := x.bits.toNat % signWeight

/-- The sign bit is set; true of the negative zero. -/
def isNegative (x : Double) : Bool := signWeight ≤ x.bits.toNat

def isNan (x : Double) : Bool := infinityPattern < x.magnitude

def isInfinite (x : Double) : Bool := x.magnitude == infinityPattern

def isFinite (x : Double) : Bool := x.magnitude < infinityPattern

def ofPattern (negative : Bool) (pattern : Nat) : Double :=
  ⟨UInt64.ofNat (if negative then signWeight + pattern else pattern)⟩

def zero : Double := ofPattern false 0

def infinity (negative : Bool) : Double := ofPattern negative infinityPattern

/-- The quiet NaN that decimal text denotes. -/
def nan (negative : Bool) : Double := ofPattern negative 0x7FF8000000000000

/-- The quotient rounded to the nearest natural number, a tie to the even one. -/
def roundHalfEven (top bottom : Nat) : Nat :=
  let quotient := top / bottom
  let twice := 2 * (top % bottom)
  if twice < bottom || (twice == bottom && quotient % 2 == 0) then quotient else quotient + 1

/-- The greatest `power` with `2 ^ power ≤ top / bottom`; both are positive. -/
def binaryOrder (top bottom : Nat) : Int :=
  let guess : Int := (Nat.log2 top : Int) - (Nat.log2 bottom : Int)
  let fits :=
    if guess < 0 then bottom ≤ top * twoTo (-guess).toNat else bottom * twoTo guess.toNat ≤ top
  if fits then guess else guess - 1

/-- The double nearest to a ratio: too large a ratio becomes infinity. Consecutive patterns are
consecutive doubles, so the rounded mantissa is added to the pattern of its exponent and a carry
moves into the exponent by itself. -/
def ofRatio (ratio : Ratio) : Double :=
  if ratio.top = 0 then ofPattern ratio.negative 0
  else
    let place : Int := max (binaryOrder ratio.top ratio.bottom - mantissaBits) (-lastPlace)
    let mantissa :=
      if place < 0 then roundHalfEven (ratio.top * twoTo (-place).toNat) ratio.bottom
      else roundHalfEven ratio.top (ratio.bottom * twoTo place.toNat)
    let pattern := (place + lastPlace).toNat * twoTo mantissaBits + mantissa
    ofPattern ratio.negative (min pattern infinityPattern)

def exponentField (x : Double) : Nat := x.magnitude / twoTo mantissaBits

def mantissa (x : Double) : Nat :=
  let stored := x.magnitude % twoTo mantissaBits
  if x.exponentField = 0 then stored else twoTo mantissaBits + stored

/-- A finite double is its mantissa times two to this power. -/
def power (x : Double) : Int :=
  (if x.exponentField = 0 then 1 else x.exponentField : Nat) - (lastPlace + 1 : Int)

def toRatio (x : Double) : Ratio :=
  if x.power < 0 then ⟨x.isNegative, x.mantissa, twoTo (-x.power).toNat⟩
  else ⟨x.isNegative, x.mantissa * twoTo x.power.toNat, 1⟩

def ofInt (number : Int) : Double := ofRatio ⟨decide (number < 0), number.natAbs, 1⟩

def ofNat (number : Nat) : Double := ofRatio ⟨false, number, 1⟩

def addUnsigned (x y : Double) : Double :=
  let a := x.toRatio
  let b := y.toRatio
  ofRatio ⟨false, a.top * b.bottom + b.top * a.bottom, a.bottom * b.bottom⟩

def mul (x y : Double) : Double :=
  let a := x.toRatio
  let b := y.toRatio
  ofRatio ⟨xor a.negative b.negative, a.top * b.top, a.bottom * b.bottom⟩

def div (x y : Double) : Double :=
  let a := x.toRatio
  let b := y.toRatio
  ofRatio ⟨xor a.negative b.negative, a.top * b.bottom, a.bottom * b.top⟩

/-- The double nearest to `digits * 10 ^ exponent`. A number far beyond the range of doubles is
settled by its order of magnitude alone. -/
def ofDecimal (negative : Bool) (digits : Nat) (exponent : Int) : Double :=
  let order := exponent + (Nat.toDigits 10 digits).length
  if digits = 0 then ofPattern negative 0
  else if 310 < order then infinity negative
  else if order < -330 then ofPattern negative 0
  else if exponent < 0 then ofRatio ⟨negative, digits, tenTo (-exponent).toNat⟩
  else ofRatio ⟨negative, digits * tenTo exponent.toNat, 1⟩

end Double

end Footage.Number
