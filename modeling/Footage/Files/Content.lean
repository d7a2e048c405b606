import Footage.Clip.Segment

/-!
# Contents of files, and failures to reach them

A file holds bytes. A clip database is kept as what it says, not as the bytes that say it. Each
failure has the text by which the operating system or the library in front of it names it.
-/

namespace Footage.Files

set_option autoImplicit false

/-- A clip database: its clips, if it has the table of them, and whether changes go to a log
beside the file first. -/
structure Database where
  clips? : Option (List Clip.Record) := none
  logged : Bool := false
deriving DecidableEq

/-- The size in bytes: a page for the database itself, and three more for the table. -/
def Database.size (database : Database) : Nat :=
  if database.clips?.isSome then 16384 else 4096

/-- What a file holds: bytes, a run of zero bytes, or a clip database. -/
inductive Content where
  | bytes (data : List UInt8)
  | zeros (count : Nat)
  | database (held : Database)
deriving DecidableEq

namespace Content

def empty : Content := .bytes []

def ofText (text : String) : Content := .bytes text.toUTF8.data.toList

def size : Content → Nat
  | .bytes data => data.length
  | .zeros count => count
  | .database held => held.size

def text? : Content → Option String
  | .bytes data => String.fromUTF8? ⟨data.toArray⟩
  | .zeros count => some (String.ofList (List.replicate count '\x00'))
  | .database _ => none

def append (content : Content) (text : String) : Content :=
  match content with
  | .bytes data => .bytes (data ++ text.toUTF8.data.toList)
  | .zeros count => .bytes (List.replicate count 0 ++ text.toUTF8.data.toList)
  | .database held => .database held

end Content

inductive FileError where
  | notFound
  | busy
  | alreadyThere
  | crossDevice
  | notDirectory
  | isDirectory
  | invalid
  | nameTooLong
  | notEmpty
  /-- A path with a NUL character. -/
  | nulInPath
  /-- A copy of something that is no ordinary file. -/
  | notRegular
  /-- A text that is not UTF-8. -/
  | notUtf8
  /-- Any further failure, under its own text. -/
  | other (text : String)
deriving DecidableEq, Repr

namespace FileError

def text : FileError → String
  | notFound => "No such file or directory (os error 2)"
  | busy => "Device or resource busy (os error 16)"
  | alreadyThere => "File exists (os error 17)"
  | crossDevice => "Invalid cross-device link (os error 18)"
  | notDirectory => "Not a directory (os error 20)"
  | isDirectory => "Is a directory (os error 21)"
  | invalid => "Invalid argument (os error 22)"
  | nameTooLong => "File name too long (os error 36)"
  | notEmpty => "Directory not empty (os error 39)"
  | nulInPath => "file name contained an unexpected NUL byte"
  | notRegular => "the source path is neither a regular file nor a symlink to a regular file"
  | notUtf8 => "stream did not contain valid UTF-8"
  | other text => text

end FileError

end Footage.Files
