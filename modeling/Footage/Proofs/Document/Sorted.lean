import Footage.Document.Value
import Footage.Proofs.Document.Entries

/-!
# Tables with ascending keys

A table whose keys ascend strictly is known by its look-ups, and an insertion keeps it so. A value
is sorted when every table that a path of keys reaches in it is.
-/

namespace Footage.Document

set_option autoImplicit false

namespace Entries

variable {α : Type} {entries : Entries α} {key : String} {value : α}

instance (entries : Entries α) : Decidable entries.Ordered :=
  inferInstanceAs (Decidable (entries.keys.Pairwise (· < ·)))

theorem insert_ordered (ordered : entries.Ordered) (key : String) (value : α) :
    (entries.insert key value).Ordered := by
  induction entries with
  | nil => exact List.pairwise_singleton _ _
  | cons head rest ih =>
      obtain ⟨name, old⟩ := head
      obtain ⟨above, later⟩ := List.pairwise_cons.mp ordered
      by_cases same : name = key
      · subst same
        simp only [insert, if_true]
        exact ordered
      · by_cases below : key < name
        · simp only [insert, same, below, if_false, if_true]
          apply List.pairwise_cons.mpr
          refine ⟨?_, ordered⟩
          intro other member
          rcases List.mem_cons.mp member with rfl | further
          · exact below
          · exact String.lt_trans below (above other further)
        · simp only [insert, same, below, if_false]
          apply List.pairwise_cons.mpr
          refine ⟨?_, ih later⟩
          intro other member
          obtain ⟨entry, inserted, rfl⟩ := List.mem_map.mp member
          rcases mem_insert inserted with rfl | earlier
          · have least : name ≤ key := String.not_lt.mp below
            exact Std.lt_of_le_of_ne least same
          · exact above entry.1 (List.mem_map_of_mem earlier)

theorem inserted_ordered {table : Entries α} (ordered : table.Ordered) (entries : Entries α) :
    Ordered (entries.foldl (fun table entry => insert entry.1 entry.2 table) table) := by
  induction entries generalizing table with
  | nil => exact ordered
  | cons entry rest ih => exact ih (insert_ordered ordered entry.1 entry.2)

theorem sorted_ordered (entries : Entries α) : entries.sorted.Ordered := by
  have begun : Ordered ([] : Entries α) := List.Pairwise.nil
  exact inserted_ordered begun entries

theorem Ordered.distinct (ordered : entries.Ordered) : entries.keys.Nodup := by
  apply List.Pairwise.imp _ ordered
  intro left right below same
  exact String.lt_irrefl right (same ▸ below)

theorem find?_of_mem (distinct : entries.keys.Nodup) (member : (key, value) ∈ entries) :
    entries.find? key = some value := by
  induction entries with
  | nil => cases member
  | cons head rest ih =>
      obtain ⟨name, old⟩ := head
      obtain ⟨free, later⟩ := List.nodup_cons.mp distinct
      rcases List.mem_cons.mp member with here | further
      · cases here
        simp [find?]
      · have bound : key ∈ keys rest := List.mem_map.mpr ⟨(key, value), further, rfl⟩
        have other : name ≠ key := fun same => free (same ▸ bound)
        simp only [find?, other, if_false]
        exact ih later further

/-- The order of entries with distinct keys does not matter to a look-up. -/
theorem find?_perm {others : Entries α} (distinct : entries.keys.Nodup)
    (same : entries.Perm others) (key : String) : entries.find? key = others.find? key := by
  have keys : entries.keys.Perm others.keys := same.map Prod.fst
  rcases found : entries.find? key with _ | value
  · have free := (find?_eq_none entries key).mp found
    exact ((find?_eq_none others key).mpr fun member => free (keys.mem_iff.mpr member)).symm
  · have member := same.mem_iff.mp (mem_of_find? found)
    exact (find?_of_mem (keys.nodup_iff.mp distinct) member).symm

/-- Binding a key of an ordered table again to the value it has changes nothing. -/
theorem insert_same (ordered : entries.Ordered) (found : entries.find? key = some value) :
    entries.insert key value = entries := by
  induction entries with
  | nil => cases found
  | cons head rest ih =>
      obtain ⟨name, old⟩ := head
      obtain ⟨above, later⟩ := List.pairwise_cons.mp ordered
      by_cases same : name = key
      · simp only [find?, same, if_true] at found
        cases found
        simp [insert, same]
      · simp only [find?, same, if_false] at found
        have further : name < key := above key (List.mem_map_of_mem (mem_of_find? found))
        have not_below : ¬key < name := String.lt_asymm further
        simp only [insert, same, not_below, if_false, ih later found]

end Entries

/-- Tables that a path of keys reaches have ascending keys. -/
inductive Value.Sorted : Value → Prop where
  | plain {value : Value} (leaf : ∀ entries, value ≠ .table entries) : Sorted value
  | table {entries : Table} (ordered : Entries.Ordered entries)
      (inner : ∀ entry ∈ entries, Sorted entry.2) : Sorted (.table entries)

namespace Value.Sorted

variable {entries : Table} {key : String} {value : Value}

theorem ordered (sorted : (Value.table entries).Sorted) : Entries.Ordered entries := by
  cases sorted with
  | plain leaf => exact absurd rfl (leaf entries)
  | table ordered _ => exact ordered

theorem inner (sorted : (Value.table entries).Sorted)
    (found : Entries.find? key entries = some value) : value.Sorted := by
  cases sorted with
  | plain leaf => exact absurd rfl (leaf entries)
  | table _ inner => exact inner (key, value) (Entries.mem_of_find? found)

end Value.Sorted

end Footage.Document
