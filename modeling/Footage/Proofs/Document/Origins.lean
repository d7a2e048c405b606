import Footage.Proofs.Document.Merging
import Mathlib.Data.List.Induction

/-!
# Which document a merged value comes from

What merged documents bind a path to comes from the last of them that binds it; the later ones are
silent on the path and hide nothing of it, so the merge of the documents up to that one binds the
path in the same way.
-/

namespace Footage.Document

set_option autoImplicit false

structure ComesFrom (documents : List Table) (path : List String) (value : Value)
    (before : List Table) (origin : Table) (after : List Table) : Prop where
  split : documents = before ++ origin :: after
  /-- A plain value is the document's own; a table may have gathered entries on its way. -/
  binds : ∃ own, (Value.table origin).at? path = some own ∧ (value.isTable = false → own = value)
  silent : ∀ later ∈ after,
    (Value.table later).at? path = none ∧ (Value.table later).covers path = false
  stays : (Value.table (Table.mergeAll (before ++ [origin]))).at? path = some value

theorem overlaid_of_table {own : Value} (existing : Option Value)
    (plain : (Value.overlaid existing own).isTable = false) :
    own = Value.overlaid existing own := by
  cases own with
  | table entries =>
      rcases existing with _ | old
      · cases plain
      · cases old <;> cases plain
  | _ => rfl

theorem merge_all_comes_from {documents : List Table} {path : List String} {value : Value}
    (each : ∀ document ∈ documents, (Value.table document).Sorted) (long : path ≠ [])
    (bound : (Value.table (Table.mergeAll documents)).at? path = some value) :
    ∃ before origin after, ComesFrom documents path value before origin after := by
  induction documents using List.reverseRecOn with
  | nil =>
      obtain ⟨key, rest, rfl⟩ := List.exists_cons_of_ne_nil long
      cases bound
  | append_singleton documents last ih =>
      have sorted := each last (List.mem_append_right _ (List.mem_singleton_self last))
      have law := overlaid_at sorted (some (.table (Table.mergeAll documents))) path
      have whole : Value.overlaid (some (.table (Table.mergeAll documents))) (.table last) =
          .table (Table.mergeAll (documents ++ [last])) := by
        rw [merge_all_last]
        rfl
      rw [whole, bound] at law
      rcases found : (Value.table last).at? path with _ | own
      · rw [found] at law
        rcases hidden : (Value.table last).covers path with _ | _
        · -- The last document is silent, so the value was there before it.
          simp only [hidden, Bool.false_eq_true, if_false, Option.bind_some] at law
          obtain ⟨before, origin, after, comes⟩ :=
            ih (fun document member => each document (List.mem_append_left _ member)) law.symm
          refine ⟨before, origin, after ++ [last], ?_, comes.binds, ?_, comes.stays⟩
          · rw [comes.split, List.append_assoc, List.cons_append]
          · intro later member
            rcases List.mem_append.mp member with earlier | same
            · exact comes.silent later earlier
            · rw [List.mem_singleton.mp same]
              exact ⟨found, hidden⟩
        · simp [hidden] at law
      · rw [found] at law
        have same := Option.some.inj law
        refine ⟨documents, last, [], rfl, ⟨own, found, ?_⟩, ?_, bound⟩
        · intro plain
          rw [same] at plain ⊢
          exact overlaid_of_table _ plain
        · exact fun _ member => nomatch member

end Footage.Document
