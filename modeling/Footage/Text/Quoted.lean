import Footage.Text.Lowercase
import Footage.Text.PrintTable

/-!
# Quoted text in messages

Text shown inside a message stands between double quotes. Quotes, backslashes and the common
controls have short escapes; characters without a picture, and marks that would be drawn on the
quote before them, are shown by their number in hexadecimal.
-/

namespace Footage.Text

open Footage.Text.PrintTable

set_option autoImplicit false

def hexValue? (char : Char) : Option Nat :=
  if '0' ≤ char ∧ char ≤ '9' then some (char.toNat - 48)
  else if 'a' ≤ char ∧ char ≤ 'f' then some (char.toNat - 87)
  else if 'A' ≤ char ∧ char ≤ 'F' then some (char.toNat - 55)
  else none

def hexDigits (number : Nat) : List Char := Nat.toDigits 16 number

def quotedChar (char : Char) : List Char :=
  match char with
  | '\x00' => ['\\', '0']
  | '\t' => ['\\', 't']
  | '\r' => ['\\', 'r']
  | '\n' => ['\\', 'n']
  | '"' => ['\\', '"']
  | '\\' => ['\\', '\\']
  | other =>
      if inRanges extenderRanges other || inRanges hiddenRanges other then
        ['\\', 'u', '\x7b'] ++ hexDigits other.toNat ++ ['\x7d']
      else [other]

def quoted (text : String) : String :=
  String.ofList ('"' :: text.toList.flatMap quotedChar ++ ['"'])

end Footage.Text
