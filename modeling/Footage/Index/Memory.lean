import Footage.Clip.Segment

/-!
# What an index holds

In memory every commit is kept in order, also those that share a path, and a look-up by path gives
the oldest. The table of a database holds one record for each path: a commit takes the place of
the record that is there, and records are listed by their start and, where that is equal, by their
path.
-/

namespace Footage.Index

open Footage.Clip

set_option autoImplicit false

/-- All commits so far, oldest first. -/
structure MemoryIndex where
  records : List Record := []
deriving DecidableEq, Repr

namespace MemoryIndex

def commit (record : Record) (index : MemoryIndex) : MemoryIndex := ⟨index.records ++ [record]⟩

def list (location : String) (index : MemoryIndex) : List Record :=
  index.records.filter fun record => record.location == location

def get? (path : String) (index : MemoryIndex) : Option Record :=
  index.records.find? fun record => record.path == path

end MemoryIndex

abbrev Rows := List Record

namespace Rows

def erase (path : String) (rows : Rows) : Rows := rows.filter fun record => record.path != path

def commit (record : Record) (rows : Rows) : Rows := record :: erase record.path rows

def get? (path : String) (rows : Rows) : Option Record :=
  rows.find? fun record => record.path == path

/-- The first record is listed before the second, or they are listed alike. -/
def listedBefore (first second : Record) : Bool :=
  first.startMs < second.startMs ||
    (first.startMs == second.startMs && first.path ≤ second.path)

def list (location : Option String) (rows : Rows) : List Record :=
  (rows.filter fun record => location.all (record.location == ·)).mergeSort listedBefore

end Rows

end Footage.Index
