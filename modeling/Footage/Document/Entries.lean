/-!
# Keyed entries

The entries of a table are pairs of a key and a value. Insertion keeps the keys in ascending
order of their characters and replaces the value of a key that is already there, so a table
built by insertion alone is sorted and binds every key at most once. Putting keeps the keys in
the order in which they came instead.
-/

namespace Footage.Document

set_option autoImplicit false

abbrev Entries (α : Type) := List (String × α)

namespace Entries

variable {α : Type}

def find? (key : String) : Entries α → Option α
  | [] => none
  | (name, value) :: rest => if name = key then some value else find? key rest

def insert (key : String) (value : α) : Entries α → Entries α
  | [] => [(key, value)]
  | (name, old) :: rest =>
      if name = key then (key, value) :: rest
      else if key < name then (key, value) :: (name, old) :: rest
      else (name, old) :: insert key value rest

/-- Binds a key behind all others, or in its place where it is bound already. -/
def put (key : String) (value : α) : Entries α → Entries α
  | [] => [(key, value)]
  | (name, old) :: rest =>
      if name = key then (key, value) :: rest else (name, old) :: put key value rest

def erase (key : String) (entries : Entries α) : Entries α :=
  entries.filter fun entry => entry.1 != key

def sorted (entries : Entries α) : Entries α :=
  entries.foldl (fun table entry => insert entry.1 entry.2 table) []

def keys (entries : Entries α) : List String := entries.map Prod.fst

/-- Keys ascend strictly. -/
def Ordered (entries : Entries α) : Prop := entries.keys.Pairwise (· < ·)

theorem find?_insert_self (entries : Entries α) (key : String) (value : α) :
    (entries.insert key value).find? key = some value := by
  induction entries with
  | nil => simp [insert, find?]
  | cons head rest ih =>
      obtain ⟨name, old⟩ := head
      by_cases same : name = key
      · simp [insert, find?, same]
      · by_cases below : key < name <;> simp [insert, find?, same, below, ih]

theorem find?_insert_of_ne (entries : Entries α) {key other : String} (value : α)
    (differs : other ≠ key) : (entries.insert key value).find? other = entries.find? other := by
  induction entries with
  | nil => simp [insert, find?, Ne.symm differs]
  | cons head rest ih =>
      obtain ⟨name, old⟩ := head
      by_cases same : name = key
      · simp [insert, find?, same, Ne.symm differs]
      · by_cases below : key < name
        · simp [insert, find?, same, below, Ne.symm differs]
        · simp only [insert, same, below, if_false, find?, ih]

end Entries

end Footage.Document
