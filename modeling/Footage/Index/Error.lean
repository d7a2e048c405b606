/-!
# Failures of a clip index
-/

namespace Footage.Index

set_option autoImplicit false

inductive DatabaseFault where
  /-- There is no file at the path and none can be made. -/
  | cannotOpen (path : String)
  /-- A file beside the database that every change needs cannot be made or used. -/
  | cannotPrepare
  /-- The file has content that is no database. -/
  | notDatabase
  /-- The database has no table of clips. -/
  | noTable
  /-- A change to a database that is open for reading. -/
  | readOnly
  /-- A path with a NUL character at a byte position. -/
  | nulInPath (position : Nat)
  /-- An address on another host. -/
  | unknownAuthority (name : String)
  /-- An address with no way of that name to reach a file. -/
  | unknownLayer (name : String)
  /-- An address with no way of that name to share what is read. -/
  | unknownCache (name : String)
  /-- An address with no access of that name. -/
  | unknownAccess (name : String)
  /-- An address that asks for more access than it was left with. -/
  | accessNotAllowed (name : String)
  /-- The file, or the one that lends it its permissions, cannot be read. -/
  | unreadable
deriving DecidableEq, Repr

namespace DatabaseFault

def text : DatabaseFault → String
  | cannotOpen path => "unable to open database file: " ++ path
  | cannotPrepare => "unable to open database file"
  | notDatabase => "file is not a database"
  | noTable => "no such table: clips"
  | readOnly => "attempt to write a readonly database"
  | nulInPath position => "nul byte found in provided data at position: " ++ toString position
  | unknownAuthority name => "invalid uri authority: " ++ name
  | unknownLayer name => "no such vfs: " ++ name
  | unknownCache name => "no such cache mode: " ++ name
  | unknownAccess name => "no such access mode: " ++ name
  | accessNotAllowed name => "access mode not allowed: " ++ name
  | unreadable => "disk I/O error"

def detail : DatabaseFault → String
  | noTable | unknownAuthority _ | unknownLayer _ | unknownCache _ | unknownAccess _ =>
      "Error code 1: SQL error or missing database"
  | accessNotAllowed _ => "Error code 3: Access permission denied"
  | readOnly => "Error code 8: Attempt to write a readonly database"
  | unreadable => "Error code 10: Some kind of disk I/O error occurred"
  | cannotOpen _ | cannotPrepare => "Error code 14: Unable to open the database file"
  | notDatabase => "Error code 26: File opened that is not a database file"
  | nulInPath position => text (nulInPath position)

end DatabaseFault

inductive IndexError where
  | database (fault : DatabaseFault)
  | unavailable (reason : String)
deriving DecidableEq, Repr

def IndexError.text : IndexError → String
  | .database fault => "Database error: " ++ fault.text
  | .unavailable reason => "Index unavailable: " ++ reason

end Footage.Index
