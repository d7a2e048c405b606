import Footage.Text.Cutting

/-!
# Paths as texts

A path is a text with slashes; nothing is normalized. Joining an absolute path replaces the base.
The parent of a path drops its last part with the slashes and single dots around it. The parts
of a path are its non-empty pieces between slashes.
-/

namespace Footage.Place

set_option autoImplicit false

def isAbsolute (path : String) : Bool := path.toList.head? == some '/'

/-- Joining on characters: one slash between the two unless the base is empty or ends in one. -/
def joinChars (base path : List Char) : List Char :=
  if path.head? = some '/' then path
  else if base.isEmpty ∨ base.getLast? = some '/' then base ++ path
  else base ++ '/' :: path

def join (base path : String) : String := String.ofList (joinChars base.toList path.toList)

/-- Drops slashes and single dots from the end of a path that is given from its end. A slash at
the very front is the root and stays; so does a dot at the very front. -/
def trimEnd : List Char → List Char
  | ['/'] => ['/']
  | '/' :: rest => trimEnd rest
  | '.' :: '/' :: rest => if rest.isEmpty then ['/'] else trimEnd rest
  | path => path

def parent? (path : String) : Option String :=
  match trimEnd path.toList.reverse with
  | [] => none
  | ['/'] => none
  | trimmed => some (String.ofList (trimEnd (trimmed.dropWhile (· ≠ '/'))).reverse)

def parts (path : String) : List String :=
  ((Text.pieces '/' path.toList).filter fun piece => !piece.isEmpty).map String.ofList

end Footage.Place
