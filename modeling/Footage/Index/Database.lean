import Footage.Files.Tree
import Footage.Index.Address
import Footage.Index.Memory

/-!
# The clip index in a database file

Every operation opens the database anew, by its path or its address. A file that is missing or
empty is a database without the table of clips, which only opening the index puts there; a file
with any other content is no database. Opening a database that can be changed makes its changes
go to a log beside the file, unless the way in which it is reached has no log.

The path of the file is resolved by its text: empty parts and single dots are dropped, and a
double dot takes back the part before it.
-/

namespace Footage.Index

open Footage.Clip Footage.Files

set_option autoImplicit false

def nulPosition? (path : String) : Option Nat :=
  (Text.cutFirst '\x00' path.toList).map fun (before, _) => (String.ofList before).utf8ByteSize

namespace Request

def maxWalkedBytes : Nat := 511

/-- The longest path of a database in bytes; the files beside it have longer ones. -/
def maxPathBytes : Nat := 504

def besideBytes : Nat := 8

def pathBytes (location : Location) : Nat :=
  location.foldl (fun size name => size + 1 + name.utf8ByteSize) 0

/-- The location with one more part of a path. The part is looked up, so it must not lie below a
file. -/
def resolvePart (tree : Tree) (location : Location) (part : String) : Option Location :=
  if part = "." then some location
  else if part = ".." then some location.dropLast
  else
    match tree.childAt? location part, tree.entryAt? location with
    | .error _, _ | _, some (.file _) => none
    | .ok _, _ =>
        if maxWalkedBytes < pathBytes (location ++ [part]) then none else some (location ++ [part])

def resolve (tree : Tree) (name : String) : Option Location := do
  let start := if Place.isAbsolute name then [] else tree.workingDir
  let location ← (Place.parts name).foldlM (resolvePart tree) start
  if location = [] ∨ maxPathBytes < pathBytes location then none else some location

def openFile (request : Request) (path : String) (tree : Tree) (location : Location) :
    Except DatabaseFault (Content × Tree) :=
  match tree.entryAt? location with
  | some (.file content) => .ok (content, tree)
  | some .directory =>
      .error (if request.access = .read then .unreadable else .cannotOpen path)
  | none =>
      if request.access = .create ∧ tree.entryAt? location.dropLast = some .directory then
        .ok (.empty, tree.put location (.file .empty))
      else .error (.cannotOpen path)

/-- The files beside a database at the location can be made. -/
def hasRoomBeside (location : Location) : Bool :=
  location.getLast?.all fun name => name.utf8ByteSize + besideBytes ≤ Tree.maxNameBytes

end Request

def databaseIn : Content → Except DatabaseFault Database
  | .database held => .ok held
  | other => if other.size = 0 then .ok {} else .error .notDatabase

/-- An open database: where its file is, if it has one, what it holds, and why it cannot be
changed. -/
structure Connection where
  location? : Option Location
  held : Database
  refusal? : Option DatabaseFault
deriving DecidableEq

namespace Connection

/-- Makes the changes to a database go to its log, where it has none yet. -/
def prepare (request : Request) (tree : Tree) (location : Location) (held : Database) :
    Except DatabaseFault Connection × Tree :=
  let readOnly := if request.isFixed then some DatabaseFault.readOnly else none
  let cramped := if Request.hasRoomBeside location then none else some DatabaseFault.cannotPrepare
  if request.immutable then (.ok ⟨location, held, readOnly⟩, tree)
  else if held.logged then
    (if request.canLog then .ok ⟨location, held, readOnly⟩ else .error .cannotPrepare, tree)
  else
    let refusal? := readOnly.or cramped
    if request.canLog then
      match refusal? with
      | some fault => (.error fault, tree)
      | none =>
          let held := { held with logged := true }
          (.ok ⟨location, held, none⟩, tree.put location (.file (.database held)))
    else (.ok ⟨location, held, refusal?⟩, tree)

def openFile (path : String) (request : Request) (tree : Tree) :
    Except DatabaseFault Connection × Tree :=
  match Request.resolve tree request.name with
  | none => (.error (.cannotOpen path), tree)
  | some location =>
      if request.permissions?.any fun source => !tree.isThere source then
        (.error .unreadable, tree)
      else
        match request.openFile path tree location with
        | .error fault => (.error fault, tree)
        | .ok (content, tree) =>
            match databaseIn content with
            | .error fault => (.error fault, tree)
            | .ok held => prepare request tree location held

def openAt (path : String) (tree : Tree) : Except DatabaseFault Connection × Tree :=
  match nulPosition? path with
  | some position => (.error (.nulInPath position), tree)
  | none =>
      match Request.ofPath path with
      | .error fault => (.error fault, tree)
      | .ok request =>
          if request.isTransient then
            (.ok ⟨none, {}, if request.isFixed then some .readOnly else none⟩, tree)
          else openFile path request tree

def store (rows : Rows) (connection : Connection) (tree : Tree) :
    Except DatabaseFault Unit × Tree :=
  match connection.refusal?, connection.location? with
  | some fault, _ => (.error fault, tree)
  | none, none => (.ok (), tree)
  | none, some location =>
      let held := { connection.held with clips? := some rows }
      (.ok (), tree.put location (.file (.database held)))

end Connection

structure DatabaseIndex where
  path : String
deriving DecidableEq, Repr

namespace DatabaseIndex

def makeParent (path : String) (tree : Tree) : Except IndexError Unit × Tree :=
  match Place.parent? path with
  | some dir =>
      let (outcome, tree) := tree.makeDirs dir
      (outcome.mapError fun cause => .unavailable (dir ++ ": " ++ cause.text), tree)
  | none => (.ok (), tree)

/-- Opens the index, making its directory, the file and the table as far as they are missing. -/
def openAt (path : String) (tree : Tree) : Except IndexError DatabaseIndex × Tree :=
  match makeParent path tree with
  | (.error cause, tree) => (.error cause, tree)
  | (.ok (), tree) =>
      match Connection.openAt path tree with
      | (.error fault, tree) => (.error (.database fault), tree)
      | (.ok connection, tree) =>
          if connection.held.clips?.isSome then (.ok ⟨path⟩, tree)
          else
            let (outcome, tree) := connection.store [] tree
            ((outcome.map fun () => ⟨path⟩).mapError .database, tree)

def withRows {α : Type} (act : Connection → Rows → Tree → Except DatabaseFault α × Tree)
    (index : DatabaseIndex) (tree : Tree) : Except IndexError α × Tree :=
  match Connection.openAt index.path tree with
  | (.error fault, tree) => (.error (.database fault), tree)
  | (.ok connection, tree) =>
      match connection.held.clips? with
      | none => (.error (.database .noTable), tree)
      | some rows =>
          let (outcome, tree) := act connection rows tree
          (outcome.mapError .database, tree)

def query {α : Type} (read : Rows → α) : DatabaseIndex → Tree → Except IndexError α × Tree :=
  withRows fun _ rows tree => (.ok (read rows), tree)

def update {α : Type} (change : Rows → α × Rows) :
    DatabaseIndex → Tree → Except IndexError α × Tree :=
  withRows fun connection rows tree =>
    let (reply, rows) := change rows
    let (outcome, tree) := connection.store rows tree
    (outcome.map fun () => reply, tree)

def commit (record : Record) : DatabaseIndex → Tree → Except IndexError Unit × Tree :=
  update fun rows => ((), rows.commit record)

def list (location : Option String) :
    DatabaseIndex → Tree → Except IndexError (List Record) × Tree :=
  query (Rows.list location)

def get? (path : String) : DatabaseIndex → Tree → Except IndexError (Option Record) × Tree :=
  query (Rows.get? path)

/-- Removes the record of a path; true when there was one. -/
def remove (path : String) : DatabaseIndex → Tree → Except IndexError Bool × Tree :=
  update fun rows => ((rows.get? path).isSome, rows.erase path)

end DatabaseIndex

end Footage.Index
