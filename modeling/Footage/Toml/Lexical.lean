/-!
# Blanks, line ends and comments

The smallest parts of a configuration text. A line ends with a line feed, alone or after a
carriage return. A comment runs to the end of its line and holds no control character other than
the tab. Every reader here takes the text that is left and returns what is left after it.
-/

namespace Footage.Toml

set_option autoImplicit false

/-- A reader: a value and the text after it, or nothing when the text does not start with one. -/
abbrev Reader (α : Type) := List Char → Option (α × List Char)

def isBlank (char : Char) : Bool := char == ' ' || char == '\t'

/-- A character of running text: the tab and everything that is not an ASCII control. -/
def isTextChar (char : Char) : Bool :=
  char == '\t' || (0x20 ≤ char.toNat && char.toNat != 0x7F)

def skipBlanks (text : List Char) : List Char := text.dropWhile isBlank

def newline? : List Char → Option (List Char)
  | '\n' :: rest => some rest
  | '\r' :: '\n' :: rest => some rest
  | _ => none

def lineEnd? (text : List Char) : Option (List Char) :=
  let rest := skipBlanks text
  let rest :=
    match rest with
    | '#' :: comment => comment.dropWhile isTextChar
    | other => other
  match rest with
  | [] => some []
  | other => newline? other

mutual

/-- The text after blanks, line ends and comments; a comment has to end with its line. -/
def skipTrivia : List Char → Option (List Char)
  | [] => some []
  | '\r' :: '\n' :: rest => skipTrivia rest
  | char :: rest =>
      if char = '\n' ∨ isBlank char then skipTrivia rest
      else if char = '#' then skipComment rest
      else some (char :: rest)

def skipComment : List Char → Option (List Char)
  | [] => none
  | '\r' :: '\n' :: rest => skipTrivia rest
  | char :: rest =>
      if char = '\n' then skipTrivia rest
      else if isTextChar char then skipComment rest
      else none

end

def expect? (char : Char) : List Char → Option (List Char)
  | head :: rest => if head = char then some rest else none
  | [] => none

end Footage.Toml
