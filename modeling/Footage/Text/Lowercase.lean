import Footage.Text.CaseTable

/-!
# Lower case

Full lower-casing of text. Every capital is replaced by its partner; dotted capital I becomes an
`i` and a combining dot; capital sigma becomes a final sigma when a cased character stands before
it and none after it in the word, and a plain sigma otherwise. The context of a sigma looks
through marks and signs that may stand inside a word, and no further than the next other sign.
-/

namespace Footage.Text

open Footage.Text.CaseTable

set_option autoImplicit false

def inRanges (ranges : List (Nat × Nat)) (char : Char) : Bool :=
  ranges.any fun (low, high) => low ≤ char.toNat && char.toNat ≤ high

def isCased (char : Char) : Bool := inRanges casedRanges char

/-- The context of a sigma looks through this character. -/
def isTransparent (char : Char) : Bool := inRanges transparentRanges char

/-- The partner of a character away from the two special capitals: itself when it has none. -/
def partner (char : Char) : Char :=
  match capitalRuns.find? fun run => run.holds char.toNat with
  | some run => Char.ofNat (run.partner + (char.toNat - run.first))
  | none => char

/-- The nearest character that is not looked through exists and is cased. -/
def meetsCased (neighbours : List Char) : Bool :=
  match neighbours.dropWhile isTransparent with
  | char :: _ => isCased char
  | [] => false

/-- The small sigma for a place with the given text before it, nearest first, and after it. -/
def sigmaAt (before after : List Char) : Char :=
  if meetsCased before && !meetsCased after then 'ς' else 'σ'

/-- Lower case of the rest of a text, given the text before it, nearest first. -/
def lowerAfter (before : List Char) : List Char → List Char
  | [] => []
  | char :: rest =>
      let small :=
        if char = 'Σ' then [sigmaAt before rest]
        else if char = 'İ' then ['i', '\u0307']
        else [partner char]
      small ++ lowerAfter (char :: before) rest

def lowerChars (text : List Char) : List Char := lowerAfter [] text

def lower (text : String) : String := String.ofList (lowerChars text.toList)

end Footage.Text
