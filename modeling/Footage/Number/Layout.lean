import Footage.Number.Shortest

/-!
# Laying out doubles as text

The digits of a double are the fewest that read back; a layout decides where they are written
positionally and where with an exponent, and whether a whole number shows a decimal point.
A second family of texts shows a fixed number of places, rounded from the exact value with a tie
to the even digit.
-/

namespace Footage.Number

set_option autoImplicit false

def digitChars (number : Nat) : List Char := Nat.toDigits 10 number

def intText (number : Int) : String :=
  if number < 0 then "-" ++ String.ofList (digitChars number.natAbs)
  else String.ofList (digitChars number.toNat)

structure Layout where
  /-- A number with its point this many places left of the first digit is still positional. -/
  leadingZeros : Option Nat
  /-- A whole number of this many digits is still positional. -/
  wholeDigits : Option Nat
  /-- A whole number in positional form ends in a point and a zero. -/
  pointAlways : Bool
  /-- An exponent that is not negative has a plus sign. -/
  plusSign : Bool
  /-- Which of two equally short and equally near decimals is written. -/
  tie : Tie
deriving Repr

namespace Layout

def positional : Layout := ⟨none, none, false, false, .up⟩

def pointed : Layout := ⟨none, none, true, false, .up⟩

/-- Positional from five places below the point up to sixteen digits above it. -/
def document : Layout := ⟨some 4, some 16, true, true, .toEven⟩

end Layout

namespace Double

def positionalChars (layout : Layout) (digits : List Char) (exponent : Int) : List Char :=
  let point : Int := digits.length + exponent
  if 0 ≤ exponent then
    digits ++ List.replicate exponent.toNat '0' ++ (if layout.pointAlways then ['.', '0'] else [])
  else if 0 < point then
    digits.take point.toNat ++ '.' :: digits.drop point.toNat
  else
    ['0', '.'] ++ List.replicate (-point).toNat '0' ++ digits

def exponentChars (layout : Layout) (digits : List Char) (exponent : Int) : List Char :=
  let power : Int := exponent + digits.length - 1
  let others := digits.drop 1
  let sign := if layout.plusSign && 0 ≤ power then ['+'] else []
  digits.take 1 ++ (if others.isEmpty then [] else '.' :: others) ++
    'e' :: sign ++ (intText power).toList

def magnitudeChars (layout : Layout) (x : Double) : List Char :=
  let found := x.shortest layout.tie
  let digits := digitChars found.digits
  let point : Int := digits.length + found.exponent
  let tooSmall := layout.leadingZeros.any fun zeros => point < -(zeros : Int)
  let tooLarge := layout.wholeDigits.any fun most => (most : Int) < point
  if tooSmall || tooLarge then exponentChars layout digits found.exponent
  else positionalChars layout digits found.exponent

/-- The text of a double. Zero keeps its sign; NaN has none. -/
def text (layout : Layout) (x : Double) : String :=
  let sign := if x.isNegative then ['-'] else []
  if x.isNan then "NaN"
  else if x.isInfinite then String.ofList (sign ++ ['i', 'n', 'f'])
  else String.ofList (sign ++ magnitudeChars layout x)

/-- A finite double with the given number of places, rounded from its exact value. -/
def fixed (places : Nat) (x : Double) : String :=
  let exact := x.toRatio
  let scaled := roundHalfEven (exact.top * tenTo places) exact.bottom
  let whole := digitChars (scaled / tenTo places)
  let part := digitChars (scaled % tenTo places)
  let padded := List.replicate (places - part.length) '0' ++ part
  let sign := if x.isNegative then ['-'] else []
  String.ofList (sign ++ whole ++ (if places = 0 then [] else '.' :: padded))

def hexText (x : Double) : String :=
  let digits := Nat.toDigits 16 x.bits.toNat
  String.ofList (['0', 'x'] ++ List.replicate (16 - digits.length) '0' ++ digits)

end Double

end Footage.Number
