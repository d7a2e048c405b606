import Footage.Number.Decimal
import Footage.Number.Layout
import Footage.Text.Cutting

/-!
# Fields of spans

A filter may ask that a span has a field, and that the field has a value: a truth value, a
number, or any text that a pattern describes.
-/

namespace Footage.Telemetry

open Footage.Number

set_option autoImplicit false

/-- Where the reading of a pattern stands. -/
inductive PatternSpot where
  /-- Nothing can be repeated here. -/
  | bare
  /-- What stands in front can be repeated. -/
  | filled
  /-- Behind a backslash, which may stand in a set. -/
  | escaped (inSet : Bool)
  /-- At the first character of a set; a caret may still negate it. -/
  | opened (negated : Bool)
  /-- In a set of characters. -/
  | within
deriving DecidableEq, Repr

namespace PatternSpot

/-- A letter that has a meaning behind a backslash, or a sign that loses its own there. -/
def canBeEscaped (char : Char) : Bool :=
  if char.isAlphanum then "dDsSwWnrtfva".toList.contains char
  else char.toNat < 128 && char != '<' && char != '>'

/-- Where the reading stands behind a character, and how many groups are open there. -/
def next? (spot : PatternSpot) (groups : Nat) (char : Char) : Option (PatternSpot × Nat) :=
  match spot, char with
  | escaped inSet, char =>
      if canBeEscaped char then some (if inSet then .within else filled, groups) else none
  | opened false, '^' => some (opened true, groups)
  | opened _, '\\' | within, '\\' => some (escaped true, groups)
  | opened _, _ => some (within, groups)
  | within, ']' => some (filled, groups)
  | within, _ => some (within, groups)
  | _, '\\' => some (escaped false, groups)
  | _, '[' => some (opened false, groups)
  | _, '(' => some (bare, groups + 1)
  | _, ')' => if groups = 0 then none else some (filled, groups - 1)
  | _, '|' => some (bare, groups)
  | _, '{' => none
  | spot, char =>
      if char = '*' ∨ char = '+' ∨ char = '?' then
        if spot = filled then some (filled, groups) else none
      else some (filled, groups)

/-- The characters from a spot on are a pattern in which every group and every set is closed and
every repetition has something to repeat. -/
def accepts : PatternSpot → Nat → List Char → Bool
  | bare, 0, [] | filled, 0, [] => true
  | _, _, [] => false
  | spot, groups, char :: rest =>
      match spot.next? groups char with
      | some (spot, groups) => accepts spot groups rest
      | none => false

end PatternSpot

inductive FieldValue where
  | boolean (value : Bool)
  | double (value : Double)
  | notNumber
  | natural (value : Nat)
  | negative (size : Nat)
  | pattern (text : String)
deriving DecidableEq

namespace FieldValue

def negativeSize? (text : String) : Option Nat :=
  match text.toList with
  | '-' :: digit :: rest =>
      if digit.isDigit then parseNatural (twoTo 63 + 1) (String.ofList (digit :: rest)) else none
  | _ => none

/-- The value in a text: the first kind that can be read from it. -/
def parse? (text : String) : Option FieldValue :=
  if text = "true" then some (boolean true)
  else if text = "false" then some (boolean false)
  else
    match parseNatural UInt64.size text, negativeSize? text, Double.parse? text with
    | some value, _, _ => some (natural value)
    | none, some size, _ => some (negative size)
    | none, none, some value => some (if value.isNan then notNumber else double value)
    | none, none, none =>
        if PatternSpot.accepts .bare 0 text.toList then some (pattern text) else none

def text : FieldValue → String
  | boolean value => toString value
  | double value => value.text .positional
  | notNumber => "NaN"
  | natural value => String.ofList (digitChars value)
  | negative size => intText (-(size : Int))
  | pattern text => text

def rank : FieldValue → Nat
  | boolean _ => 0
  | double _ => 1
  | notNumber => 2
  | natural _ => 3
  | negative _ => 4
  | pattern _ => 5

def orderOf (value : Double) : Int :=
  if value.isNegative then -(value.magnitude : Int) else value.magnitude

def order : FieldValue → FieldValue → Ordering
  | boolean a, boolean b => compare a b
  | double a, double b => compare (orderOf a) (orderOf b)
  | natural a, natural b => compare a b
  | negative a, negative b => compare b a
  | pattern a, pattern b => compare a b
  | a, b => compare a.rank b.rank

end FieldValue

structure FieldMatch where
  name : String
  value? : Option FieldValue
deriving DecidableEq

namespace FieldMatch

/-- The match in a text: a name, and a value behind an equals sign. A second such sign ends the
value. -/
def parse? (text : String) : Option FieldMatch :=
  match (Text.pieces '=' text.toList).map String.ofList with
  | name :: value :: _ => (FieldValue.parse? value).map fun value => ⟨name, some value⟩
  | _ => some ⟨text, none⟩

def text (wanted : FieldMatch) : String :=
  match wanted.value? with
  | some value => wanted.name ++ "=" ++ value.text
  | none => wanted.name

def order (a b : FieldMatch) : Ordering :=
  (compare a.value?.isSome b.value?.isSome).then
    ((compare a.name b.name).then
      (match a.value?, b.value? with
       | some a, some b => a.order b
       | _, _ => .eq))

end FieldMatch

end Footage.Telemetry
