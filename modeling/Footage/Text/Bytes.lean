/-!
# Bytes that are meant as text

Bytes are read as UTF-8, whatever they are. Bytes that begin a character which the next byte does
not continue are together one replacement character, and so is a byte that begins none.
-/

namespace Footage.Text

set_option autoImplicit false

/-- A character of which some bytes are read: the bits so far, how many bytes are missing, and
what the next one lies between. -/
structure Begun where
  bits : Nat
  missing : Nat
  least : Nat
  greatest : Nat

def replacement : Char := '\uFFFD'

/-- What the first byte of a character gives: the character, or what is begun. Some second bytes
are left out, as they would spell a shorter character, a surrogate, or none at all. -/
def begin (byte : Nat) : List Char × Option Begun :=
  if byte < 0x80 then ([Char.ofNat byte], none)
  else if byte < 0xC2 then ([replacement], none)
  else if byte < 0xE0 then ([], some ⟨byte - 0xC0, 1, 0x80, 0xBF⟩)
  else if byte = 0xE0 then ([], some ⟨0, 2, 0xA0, 0xBF⟩)
  else if byte = 0xED then ([], some ⟨0xD, 2, 0x80, 0x9F⟩)
  else if byte < 0xF0 then ([], some ⟨byte - 0xE0, 2, 0x80, 0xBF⟩)
  else if byte = 0xF0 then ([], some ⟨0, 3, 0x90, 0xBF⟩)
  else if byte < 0xF4 then ([], some ⟨byte - 0xF0, 3, 0x80, 0xBF⟩)
  else if byte = 0xF4 then ([], some ⟨4, 3, 0x80, 0x8F⟩)
  else ([replacement], none)

def feed (begun : Option Begun) (byte : Nat) : List Char × Option Begun :=
  match begun with
  | none => begin byte
  | some begun =>
      if begun.least ≤ byte ∧ byte ≤ begun.greatest then
        let bits := begun.bits * 64 + byte % 64
        if begun.missing = 1 then ([Char.ofNat bits], none)
        else ([], some ⟨bits, begun.missing - 1, 0x80, 0xBF⟩)
      else
        let (chars, next) := begin byte
        (replacement :: chars, next)

/-- The characters of the bytes behind what is begun. -/
def charsFrom (begun : Option Begun) : List UInt8 → List Char
  | [] => if begun.isSome then [replacement] else []
  | byte :: rest =>
      let (chars, next) := feed begun byte.toNat
      chars ++ charsFrom next rest

def ofBytes (bytes : List UInt8) : String := String.ofList (charsFrom none bytes)

def bytesOf (char : Char) : List UInt8 := char.toString.toUTF8.data.toList

end Footage.Text
