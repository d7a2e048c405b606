import Footage.Number.Layout

/-!
# Writing configuration texts

Tables of scalar entries, one entry on a line, a blank line between tables. A string takes the
first of five quoted forms that can hold it: basic on one line, literal on one line, basic on
several lines without escapes, literal on several lines, and basic with escapes.
-/

namespace Footage.Toml

set_option autoImplicit false

def isOddControl (char : Char) : Bool :=
  (char.toNat < 0x20 && char != '\t') || char.toNat == 0x7F

/-- The longest run of a character, given the run that ends in front of the text. -/
def longestRun (char : Char) : Nat → List Char → Nat
  | run, [] => run
  | run, head :: rest =>
      if head = char then longestRun char (run + 1) rest else max run (longestRun char 0 rest)

def fourDigits (number : Nat) : List Char :=
  let digits := (Nat.toDigits 16 number).map Char.toUpper
  List.replicate (4 - digits.length) '0' ++ digits

def escapedChar (multiline : Bool) (char : Char) : List Char :=
  match char with
  | '\x08' => ['\\', 'b']
  | '\t' => ['\\', 't']
  | '\x0c' => ['\\', 'f']
  | '\r' => ['\\', 'r']
  | '\\' => ['\\', '\\']
  | '\n' => if multiline then ['\n'] else ['\\', 'n']
  | other => if isOddControl other then '\\' :: 'u' :: fourDigits other.toNat else [other]

/-- Text between basic quotes. A quote is escaped on one line, and on several lines where it
would be the third of a run; the count of a run starts again behind an escape. -/
def escapedChars (multiline : Bool) : Nat → List Char → List Char
  | _, [] => []
  | run, char :: rest =>
      if char = '"' then
        if multiline ∧ run < 2 then '"' :: escapedChars multiline (run + 1) rest
        else '\\' :: '"' :: escapedChars multiline 0 rest
      else escapedChar multiline char ++ escapedChars multiline 0 rest

def tripled (quote : Char) : List Char := [quote, quote, quote]

/-- Text between three quotes on either side; a text with a line break starts on a new line. -/
def betweenTripled (quote : Char) (breaks : Bool) (body : List Char) : List Char :=
  tripled quote ++ (if breaks then ['\n'] else []) ++ body ++ tripled quote

/-- A quoted text in the first form that can hold it. -/
def quotedChars (text : List Char) : List Char :=
  let breaks := text.contains '\n'
  let oddOnLine := text.any isOddControl
  let odd := text.any fun char => isOddControl char && char != '\n'
  let backslash := text.contains '\\'
  if !oddOnLine && !backslash && !text.contains '"' then '"' :: escapedChars false 0 text ++ ['"']
  else if !oddOnLine && !text.contains '\'' then '\'' :: text ++ ['\'']
  else if !odd && !backslash && longestRun '"' 0 text < 3 then
    betweenTripled '"' breaks (escapedChars true 0 text)
  else if !odd && longestRun '\'' 0 text < 3 then betweenTripled '\'' breaks text
  else if breaks then betweenTripled '"' breaks (escapedChars true 0 text)
  else '"' :: escapedChars false 0 text ++ ['"']

inductive Scalar where
  | text (value : String)
  | integer (value : Int)
  | boolean (value : Bool)
deriving DecidableEq, Repr

def Scalar.render : Scalar → String
  | .text value => String.ofList (quotedChars value.toList)
  | .integer value => Number.intText value
  | .boolean value => if value then "true" else "false"

/-- A table with bare keys, by the path of its header, and its scalar entries. -/
structure Section where
  path : List String
  entries : List (String × Scalar)
deriving DecidableEq, Repr

namespace Section

def render (part : Section) : String :=
  "[" ++ ".".intercalate part.path ++ "]\n" ++
    String.join (part.entries.map fun (key, value) => key ++ " = " ++ value.render ++ "\n")

def renderAll (parts : List Section) : String := "\n".intercalate (parts.map render)

end Section

end Footage.Toml
