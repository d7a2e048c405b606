import Footage.Text.Quoted
import Footage.Toml.Lexical

/-!
# Quoted strings of a configuration text

Four forms: with escapes or without, on one line or on several. Each form is read by one pass
over the characters with a small state. Inside a form on several lines a run of at most two
quotes belongs to the text, and so do the first two quotes of a run of five that closes it; a
line break directly behind the opening quotes does not belong to the text; a line break is one
line feed, however it is written; and a backslash at the end of a line removes the break with all
blanks and breaks after it.
-/

namespace Footage.Toml

set_option autoImplicit false

def charOf? (number : Nat) : Option Char :=
  if number.isValidChar then some (Char.ofNat number) else none

def escapedChar? : Char → Option Char
  | 'b' => some '\x08'
  | 't' => some '\t'
  | 'n' => some '\n'
  | 'f' => some '\x0c'
  | 'r' => some '\r'
  | '"' => some '"'
  | '\\' => some '\\'
  | _ => none

def numberedEscape? : Char → Option Nat
  | 'u' => some 4
  | 'U' => some 8
  | _ => none

/-- Where the reading of a string stands. -/
inductive Standing where
  /-- Between two characters of the string. -/
  | plain
  /-- Behind a backslash. -/
  | escape
  /-- Inside an escape by number: digits to come and the number so far. -/
  | number (digits : Nat) (value : Nat)
  /-- Behind a run of quotes that may close the string. -/
  | quotes (count : Nat)
  /-- Behind a carriage return that a line feed has to follow; the break belongs to the text or,
  behind a backslash, does not. -/
  | carriage (kept : Bool)
  /-- Behind a backslash and blanks, before the line break. -/
  | foldBlank
  /-- Behind a removed line break. -/
  | folding
deriving DecidableEq, Repr

/-- What one character does: the characters it adds and the standing after it. -/
abbrev Move := List Char × Standing

def plainMove (escapes multiline : Bool) (char : Char) : Option Move :=
  if char = '\\' ∧ escapes then some ([], .escape)
  else if char = '\n' then if multiline then some (['\n'], .plain) else none
  else if char = '\r' then if multiline then some ([], .carriage true) else none
  else if isTextChar char then some ([char], .plain)
  else none

def escapeMove (multiline : Bool) (char : Char) : Option Move :=
  match escapedChar? char, numberedEscape? char with
  | some plain, _ => some ([plain], .plain)
  | none, some digits => some ([], .number digits 0)
  | none, none =>
      if multiline then
        if isBlank char then some ([], .foldBlank)
        else if char = '\n' then some ([], .folding)
        else if char = '\r' then some ([], .carriage false)
        else none
      else none

def numberMove (digits value : Nat) (char : Char) : Option Move := do
  let digit ← Text.hexValue? char
  let value := 16 * value + digit
  if digits ≤ 1 then
    let char ← charOf? value
    some ([char], .plain)
  else some ([], .number (digits - 1) value)

def move (quote : Char) (escapes : Bool) : Standing → Char → Option Move
  | .plain, char =>
      if char = quote then some ([], .quotes 1) else plainMove escapes true char
  | .escape, char => escapeMove true char
  | .number digits value, char => numberMove digits value char
  | .quotes count, char => do
      let (added, next) ← plainMove escapes true char
      some (List.replicate count quote ++ added, next)
  | .carriage kept, char =>
      if char = '\n' then some (if kept then (['\n'], .plain) else ([], .folding)) else none
  | .foldBlank, char =>
      if isBlank char then some ([], .foldBlank)
      else if char = '\n' then some ([], .folding)
      else if char = '\r' then some ([], .carriage false)
      else none
  | .folding, char =>
      if isBlank char ∨ char = '\n' then some ([], .folding)
      else if char = '\r' then some ([], .carriage false)
      else if char = quote then some ([], .quotes 1)
      else plainMove escapes true char

def multilineBody (quote : Char) (escapes : Bool) : Standing → Reader (List Char)
  | .quotes count, [] => if 3 ≤ count then some (List.replicate (count - 3) quote, []) else none
  | _, [] => none
  | .quotes count, char :: rest =>
      if char = quote then
        if count < 5 then multilineBody quote escapes (.quotes (count + 1)) rest else none
      else if 3 ≤ count then some (List.replicate (count - 3) quote, char :: rest)
      else do
        let (added, next) ← move quote escapes (.quotes count) char
        let (others, after) ← multilineBody quote escapes next rest
        some (added ++ others, after)
  | standing, char :: rest => do
      let (added, next) ← move quote escapes standing char
      let (others, after) ← multilineBody quote escapes next rest
      some (added ++ others, after)

def lineBody (quote : Char) (escapes : Bool) : Standing → Reader (List Char)
  | _, [] => none
  | .plain, char :: rest =>
      if char = quote then some ([], rest)
      else do
        let (added, next) ← plainMove escapes false char
        let (others, after) ← lineBody quote escapes next rest
        some (added ++ others, after)
  | standing, char :: rest => do
      let (added, next) ←
        match standing with
        | .escape => escapeMove false char
        | .number digits value => numberMove digits value char
        | _ => none
      let (others, after) ← lineBody quote escapes next rest
      some (added ++ others, after)

def lineString? (quote : Char) (escapes : Bool) (text : List Char) :
    Option (List Char × List Char) := do
  let rest ← expect? quote text
  lineBody quote escapes .plain rest

/-- A string of any form; a run of three quotes opens a form on several lines. -/
def string? : Reader String := fun text => do
  let quote ← text.head?
  let escapes := quote == '"'
  if quote != '"' && quote != '\'' then none
  else
    let (chars, rest) ←
      match text with
      | a :: b :: c :: body =>
          if b = a ∧ c = a then
            multilineBody quote escapes .plain ((newline? body).getD body)
          else lineString? quote escapes text
      | _ => lineString? quote escapes text
    some (String.ofList chars, rest)

end Footage.Toml
