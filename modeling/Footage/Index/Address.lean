import Footage.Index.Error
import Footage.Number.Double
import Footage.Text.Bytes
import Footage.Text.Cutting
import Footage.Text.Quoted

/-!
# Addresses of databases

A database is named by the path of its file or by an address, which begins with `file:`. An
address may name this host, then names the file, and behind a question mark gives options. A
character of a name or an option may be written as a percent sign and the two hexadecimal digits
of a byte; the byte zero ends what it stands in. A number sign ends the address.

The options say how the file is reached: the access, the layer between the database and its
files, whether the file is taken never to change, and whether it is used without locks.
-/

namespace Footage.Index

set_option autoImplicit false

/-- The name of a database and the options by name, in the order in which they are given. -/
structure Address where
  name : String
  options : List (String × String) := []
deriving DecidableEq, Repr

namespace Address

def unescapedBytes : List Char → List UInt8
  | [] => []
  | '%' :: first :: second :: rest =>
      match Text.hexValue? first, Text.hexValue? second with
      | some high, some low =>
          if high = 0 ∧ low = 0 then [] else UInt8.ofNat (high * 16 + low) :: unescapedBytes rest
      | _, _ => Text.bytesOf '%' ++ unescapedBytes (first :: second :: rest)
  | char :: rest => Text.bytesOf char ++ unescapedBytes rest

def unescaped (text : List Char) : String := Text.ofBytes (unescapedBytes text)

def option? (text : List Char) : Option (String × String) :=
  let (name, value) := (Text.cutFirst '=' text).getD (text, [])
  let name := unescaped name
  if name.isEmpty then none else some (name, unescaped value)

/-- What is behind the host, which is this one. -/
def afterHost (text : List Char) : Except DatabaseFault (List Char) :=
  match Text.afterWord ['/', '/'] text with
  | none => .ok text
  | some text =>
      let host := String.ofList (text.takeWhile (· ≠ '/'))
      if host = "" ∨ host = "localhost" then .ok (text.dropWhile (· ≠ '/'))
      else .error (.unknownAuthority host)

def ofPath (path : String) : Except DatabaseFault Address :=
  match Text.afterWord "file:".toList path.toList with
  | none => .ok { name := path }
  | some text => do
      let text := (← afterHost text).takeWhile (· ≠ '#')
      match Text.cutFirst '?' text with
      | none => .ok { name := unescaped text }
      | some (name, options) =>
          .ok ⟨unescaped name, (Text.pieces '&' options).filterMap option?⟩

end Address

/-- What may be done to a database: reading it, changing it, making it, or all of this to one in
memory. -/
inductive Access where
  | read
  | change
  | create
  | memory
deriving DecidableEq, Repr

namespace Access

def named? : String → Option Access
  | "ro" => some read
  | "rw" => some change
  | "rwc" => some create
  | "memory" => some memory
  | _ => none

/-- Whether one access can be given up for another: for less, or for a database in memory, in
which everything may be done. -/
def allows : Access → Access → Bool
  | _, memory => true
  | _, read => true
  | read, _ => false
  | change, create => false
  | _, _ => true

def following (held : Access) : String × String → Except DatabaseFault Access
  | ("cache", value) =>
      if value = "shared" ∨ value = "private" then .ok held else .error (.unknownCache value)
  | ("mode", value) =>
      match named? value with
      | none => .error (.unknownAccess value)
      | some wanted => if held.allows wanted then .ok wanted else .error (.accessNotAllowed value)
  | _ => .ok held

end Access

/-- The layer between a database and its files: what keeps two users apart, or that there are no
files at all. -/
inductive Layer where
  | locks
  | exclusiveLocks
  | lockFiles
  | unguarded
  | memory
deriving DecidableEq, Repr

namespace Layer

def named? : String → Option Layer
  | "unix" => some locks
  | "unix-excl" => some exclusiveLocks
  | "unix-dotfile" => some lockFiles
  | "unix-none" => some unguarded
  | "memdb" => some memory
  | _ => none

def canLog : Layer → Bool
  | locks | exclusiveLocks => true
  | _ => false

end Layer

structure Request where
  name : String
  access : Access := .create
  layer : Layer := .locks
  /-- The file is taken never to change. -/
  immutable : Bool := false
  /-- Nobody else is kept from the file. -/
  unlocked : Bool := false
  /-- The file that lends its permissions to a new database. -/
  permissions? : Option String := none
deriving DecidableEq, Repr

namespace Request

def leadingNumber (base : Nat) (text : List Char) : Nat :=
  let digits := text.map fun char => (Text.hexValue? char).filter (· < base)
  (digits.takeWhile Option.isSome).foldl (fun number digit => base * number + digit.getD 0) 0

/-- The number in front of a text, which is hexadecimal behind a zero and an x. -/
def numberIn (text : List Char) : Nat :=
  match text with
  | '0' :: x :: digit :: rest =>
      if (x = 'x' ∨ x = 'X') ∧ (Text.hexValue? digit).isSome then leadingNumber 16 (digit :: rest)
      else leadingNumber 10 text
  | _ => leadingNumber 10 text

/-- A word or a number for yes. A number counts by its last byte, and one of more than thirty-one
bits is zero. -/
def isYes (text : String) : Bool :=
  let number := numberIn text.toList
  (number < Number.twoTo 31 && number % 256 != 0) || ["on", "yes", "true"].contains text.toLower

/-- What an address asks for. The last layer counts, and of any other option the first. -/
def ofAddress (address : Address) : Except DatabaseFault Request := do
  let access ← address.options.foldlM Access.following .create
  let layer ←
    match address.options.reverse.lookup "vfs" with
    | none => .ok .locks
    | some name =>
        match Layer.named? name with
        | some layer => .ok layer
        | none => .error (.unknownLayer name)
  .ok {
    name := address.name
    access, layer
    immutable := (address.options.lookup "immutable").any isYes
    unlocked := (address.options.lookup "nolock").any isYes
    permissions? := address.options.lookup "modeof" }

def ofPath (path : String) : Except DatabaseFault Request :=
  Address.ofPath path >>= ofAddress

/-- The database has no name that another opening could find it by. -/
def isPrivate (request : Request) : Bool :=
  request.name == "" || request.name == ":memory:" || request.access == .memory

/-- The database has no file and lives only as long as it is open. -/
def isTransient (request : Request) : Bool := request.isPrivate || request.layer == .memory

def isFixed (request : Request) : Bool :=
  request.access == .read || (request.immutable && !request.isPrivate)

def canLog (request : Request) : Bool := request.layer.canLog && !request.unlocked

end Request

end Footage.Index
