import Footage.Toml.Value

/-!
# Configuration texts

A text is read line by line: blank lines and comments, headers of tables, headers of tables in a
series, and bindings. A binding belongs to the table of the header above it. A byte order mark
may stand in front.
-/

namespace Footage.Toml

open Footage.Document

set_option autoImplicit false

structure Progress where
  root : DraftTable
  header : List String

namespace Progress

/-- Nothing read yet; bindings go to the root. -/
def start : Progress := ⟨[], []⟩

def addBinding (progress : Progress) (keys : List String) (value : Value) : Option Progress := do
  let key ← keys.getLast?
  let root ← Draft.bindUnder progress.header keys.dropLast key value progress.root
  some { progress with root }

def addTable (progress : Progress) (keys : List String) : Option Progress := do
  let key ← keys.getLast?
  let root ← Draft.openTable keys.dropLast key progress.root
  some ⟨root, keys⟩

def addSeries (progress : Progress) (keys : List String) : Option Progress := do
  let key ← keys.getLast?
  let root ← Draft.openSeries keys.dropLast key progress.root
  some ⟨root, keys⟩

end Progress

/-- Reads one line that is not blank: a comment, a header or a binding. -/
def line? (progress : Progress) : Reader Progress
  | '#' :: comment => do
      let rest ← lineEnd? ('#' :: comment)
      some (progress, rest)
  | '[' :: '[' :: text => do
      let (keys, rest) ← key? text
      let rest ← expect? ']' rest
      let rest ← expect? ']' rest
      let rest ← lineEnd? rest
      let progress ← progress.addSeries keys
      some (progress, rest)
  | '[' :: text => do
      let (keys, rest) ← key? text
      let rest ← expect? ']' rest
      let rest ← lineEnd? rest
      let progress ← progress.addTable keys
      some (progress, rest)
  | text => do
      let ((keys, value), rest) ← binding? value? text
      let rest ← lineEnd? rest
      let progress ← progress.addBinding keys value
      some (progress, rest)

def lines? : Nat → Progress → List Char → Option Progress
  | 0, progress, text => if text.isEmpty then some progress else none
  | count + 1, progress, text =>
      match skipBlanks text with
      | [] => some progress
      | text =>
          match newline? text with
          | some rest => lines? count progress rest
          | none => do
              let (progress, rest) ← line? progress text
              lines? count progress rest

def withoutMark : List Char → List Char
  | '\ufeff' :: rest => rest
  | text => text

def readChars? (text : List Char) : Option Table :=
  let text := withoutMark text
  (lines? text.length .start text).bind fun progress => Draft.toTable? progress.root

def read? (text : String) : Option Table := readChars? text.toList

end Footage.Toml
