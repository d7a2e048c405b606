import Footage.Document.Entries

/-!
# Putting and sorting entries

Sorting keeps every binding of a table whose keys are distinct, and it adds none.
-/

namespace Footage.Document.Entries

set_option autoImplicit false

variable {α : Type} (entries : Entries α) (key : String)

theorem find?_put_self (value : α) : (entries.put key value).find? key = some value := by
  induction entries with
  | nil => simp [put, find?]
  | cons head rest ih =>
      obtain ⟨name, old⟩ := head
      by_cases same : name = key
      · simp [put, find?, same]
      · simp [put, find?, same, ih]

theorem put_put (value other : α) :
    (entries.put key value).put key other = entries.put key other := by
  induction entries with
  | nil => simp [put]
  | cons head rest ih =>
      obtain ⟨name, old⟩ := head
      by_cases same : name = key
      · simp [put, same]
      · simp [put, same, ih]

theorem find?_eq_none : entries.find? key = none ↔ key ∉ entries.keys := by
  induction entries with
  | nil => simp [find?, keys]
  | cons head rest ih =>
      obtain ⟨name, old⟩ := head
      by_cases same : name = key
      · simp [find?, keys, same]
      · simp only [keys] at ih
        simp [find?, keys, same, Ne.symm same, ih]

theorem mem_of_find? {entries : Entries α} {key : String} {value : α}
    (found : entries.find? key = some value) : (key, value) ∈ entries := by
  induction entries with
  | nil => cases found
  | cons head rest ih =>
      obtain ⟨name, old⟩ := head
      simp only [find?] at found
      split at found
      · rename_i same
        cases found
        exact same ▸ List.mem_cons_self
      · exact List.mem_cons_of_mem _ (ih found)

theorem put_new {entries : Entries α} {key : String} (free : key ∉ entries.keys) (value : α) :
    entries.put key value = entries ++ [(key, value)] := by
  induction entries with
  | nil => rfl
  | cons head rest ih =>
      obtain ⟨name, old⟩ := head
      simp only [keys, List.map_cons, List.mem_cons, not_or] at free ih
      simp [put, Ne.symm free.1, ih free.2]

theorem mem_insert {entries : Entries α} {key : String} {value : α} {entry : String × α}
    (member : entry ∈ entries.insert key value) : entry = (key, value) ∨ entry ∈ entries := by
  induction entries with
  | nil => simpa [insert] using member
  | cons head rest ih =>
      obtain ⟨name, old⟩ := head
      simp only [insert] at member
      split at member
      · rcases List.mem_cons.mp member with same | later
        · exact .inl same
        · exact .inr (List.mem_cons_of_mem _ later)
      · split at member
        · exact List.mem_cons.mp member
        · rcases List.mem_cons.mp member with same | later
          · exact .inr (same ▸ List.mem_cons_self)
          · exact (ih later).imp_right (List.mem_cons_of_mem _)

theorem mem_put {entries : Entries α} {key : String} {value : α} {entry : String × α}
    (member : entry ∈ entries.put key value) : entry = (key, value) ∨ entry ∈ entries := by
  induction entries with
  | nil => simpa [put] using member
  | cons head rest ih =>
      obtain ⟨name, old⟩ := head
      simp only [put] at member
      split at member
      · rcases List.mem_cons.mp member with same | later
        · exact .inl same
        · exact .inr (List.mem_cons_of_mem _ later)
      · rcases List.mem_cons.mp member with same | later
        · exact .inr (same ▸ List.mem_cons_self)
        · exact (ih later).imp_right (List.mem_cons_of_mem _)

theorem mem_inserted {table entries : Entries α} {entry : String × α}
    (member : entry ∈ entries.foldl (fun table entry => insert entry.1 entry.2 table) table) :
    entry ∈ entries ∨ entry ∈ table := by
  induction entries generalizing table with
  | nil => exact .inr member
  | cons head rest ih =>
      rcases ih member with later | earlier
      · exact .inl (List.mem_cons_of_mem _ later)
      · rcases mem_insert earlier with same | earlier
        · exact .inl (same ▸ List.mem_cons_self)
        · exact .inr earlier

theorem mem_sorted {entries : Entries α} {entry : String × α} (member : entry ∈ entries.sorted) :
    entry ∈ entries := by
  rcases mem_inserted member with found | missing
  · exact found
  · cases missing

theorem find?_inserted {entries : Entries α} (distinct : entries.keys.Nodup)
    (table : Entries α) (key : String) :
    find? key (entries.foldl (fun table entry => insert entry.1 entry.2 table) table) =
      (entries.find? key).or (table.find? key) := by
  induction entries generalizing table with
  | nil => rfl
  | cons head rest ih =>
      obtain ⟨name, value⟩ := head
      rw [keys, List.map_cons, List.nodup_cons] at distinct
      rw [List.foldl_cons, ih distinct.2]
      by_cases same : name = key
      · subst same
        have later : find? name rest = none := (find?_eq_none rest name).mpr distinct.1
        simp [find?, later, find?_insert_self]
      · simp [find?, same, find?_insert_of_ne table value (Ne.symm same)]

theorem find?_sorted {entries : Entries α} (distinct : entries.keys.Nodup) (key : String) :
    entries.sorted.find? key = entries.find? key := by
  rw [sorted, find?_inserted distinct]
  simp [find?]

end Footage.Document.Entries
