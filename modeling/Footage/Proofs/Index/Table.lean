import Footage.Index.Memory
import Footage.Proofs.Text.ByteOrder
import Mathlib.Data.List.Induction
import Mathlib.Data.List.Nodup

/-!
# The table of clips as a map

A table with at most one row for each path is a map from paths to records: a commit sets the
record of a path, a removal unsets it, and nothing else changes. Its list is the one way to write
down the map in order, so a list of one location is a part of the list of all.
-/

namespace Footage.Index

open Footage.Clip

set_option autoImplicit false

namespace Rows

variable {rows : Rows} {record other : Record} {path : String}

/-- No two rows have the same path. -/
def Distinct (rows : Rows) : Prop := (rows.map Record.path).Nodup

theorem get?_erase (path other : String) (rows : Rows) :
    (rows.erase path).get? other = if other = path then none else rows.get? other := by
  unfold erase get?
  rw [List.find?_filter]
  split
  · rename_i same
    rw [List.find?_eq_none]
    intro record _
    simp [same]
  · rename_i different
    congr 1
    funext record
    by_cases here : record.path = other
    · simp [here, different]
    · simp [here]

theorem get?_commit (record : Record) (other : String) (rows : Rows) :
    (rows.commit record).get? other =
      if other = record.path then some record else rows.get? other := by
  have erased := get?_erase record.path other rows
  unfold commit get? at *
  rw [List.find?_cons]
  by_cases same : other = record.path
  · simp [same]
  · have passed : (record.path == other) = false := by simpa using Ne.symm same
    rw [if_neg same] at erased ⊢
    rw [passed]
    exact erased

theorem Distinct.erase (distinct : rows.Distinct) (path : String) :
    Distinct (rows.erase path) :=
  List.Nodup.sublist (List.filter_sublist.map Record.path) distinct

theorem Distinct.commit (distinct : rows.Distinct) (record : Record) :
    Distinct (rows.commit record) := by
  refine List.nodup_cons.mpr ⟨?_, distinct.erase record.path⟩
  simp [Rows.erase]

theorem Distinct.inj (distinct : rows.Distinct) (first : record ∈ rows) (second : other ∈ rows)
    (same : record.path = other.path) : record = other :=
  List.inj_on_of_nodup_map distinct first second same

theorem Distinct.get?_eq_some (distinct : rows.Distinct) :
    rows.get? path = some record ↔ record ∈ rows ∧ record.path = path := by
  unfold Rows.get?
  constructor
  · intro found
    exact ⟨List.mem_of_find?_eq_some found, by simpa using List.find?_some found⟩
  · rintro ⟨member, rfl⟩
    cases found : rows.find? fun row => row.path == record.path with
    | none =>
        have absent := List.find?_eq_none.mp found record member
        simp at absent
    | some row =>
        have same : row.path = record.path := by simpa using List.find?_some found
        rw [distinct.inj (List.mem_of_find?_eq_some found) member same]

/-- The first record comes before the second in a list: by its start, and where that is equal by
the bytes of its path. -/
def Precedes (first second : Record) : Prop :=
  first.startMs < second.startMs ∨
    first.startMs = second.startMs ∧ Text.textBytes first.path < Text.textBytes second.path

theorem listed_before_iff {first second : Record} :
    listedBefore first second = true ↔
      first.startMs.toInt < second.startMs.toInt ∨
        first.startMs.toInt = second.startMs.toInt ∧ first.path ≤ second.path := by
  simp [listedBefore, Int64.lt_iff_toInt_lt, Int64.toInt_inj]

theorem listed_before_trans (first second third : Record)
    (before : listedBefore first second = true) (after : listedBefore second third = true) :
    listedBefore first third = true := by
  rw [listed_before_iff] at before after ⊢
  rcases before with before | ⟨before, lower⟩ <;> rcases after with after | ⟨after, upper⟩
  · exact .inl (before.trans after)
  · exact .inl (after ▸ before)
  · exact .inl (before ▸ after)
  · exact .inr ⟨before.trans after, lower.trans upper⟩

theorem listed_before_total (first second : Record) :
    (listedBefore first second || listedBefore second first) = true := by
  rw [Bool.or_eq_true, listed_before_iff, listed_before_iff]
  rcases lt_trichotomy first.startMs.toInt second.startMs.toInt with below | same | above
  · exact .inl (.inl below)
  · rcases le_total first.path second.path with below | above
    · exact .inl (.inr ⟨same, below⟩)
    · exact .inr (.inr ⟨same.symm, above⟩)
  · exact .inr (.inl above)

theorem listed_before_antisymm {first second : Record} (before : listedBefore first second = true)
    (after : listedBefore second first = true) : first.path = second.path := by
  rw [listed_before_iff] at before after
  rcases before with before | ⟨same, lower⟩ <;> rcases after with after | ⟨equal, upper⟩
  · omega
  · omega
  · omega
  · exact le_antisymm lower upper

theorem listed_perm (location : Option String) (rows : Rows) :
    (rows.list location).Perm (rows.filter fun record => location.all (record.location == ·)) :=
  List.mergeSort_perm _ _

theorem mem_list {location : Option String} :
    record ∈ rows.list location ↔
      record ∈ rows ∧ location.all (record.location == ·) = true := by
  rw [(listed_perm location rows).mem_iff, List.mem_filter]

theorem list_sorted (location : Option String) (rows : Rows) :
    (rows.list location).Pairwise fun first second => listedBefore first second = true :=
  List.pairwise_mergeSort listed_before_trans listed_before_total _

theorem Distinct.list (distinct : rows.Distinct) (location : Option String) :
    Distinct (rows.list location) :=
  ((listed_perm location rows).map Record.path).nodup_iff.mpr
    (List.Nodup.sublist (List.filter_sublist.map Record.path) distinct)

theorem precedes_of_listed {first second : Record} (before : listedBefore first second = true)
    (different : first.path ≠ second.path) : Precedes first second := by
  rw [listed_before_iff] at before
  rcases before with before | ⟨same, lower⟩
  · exact .inl (Int64.lt_iff_toInt_lt.mpr before)
  · exact .inr ⟨Int64.toInt_inj.mp same, Text.text_lt_iff.mp (lt_of_le_of_ne lower different)⟩

theorem Distinct.list_precedes (distinct : rows.Distinct) (location : Option String) :
    (rows.list location).Pairwise Precedes := by
  have paths : (rows.list location).Pairwise fun first second => first.path ≠ second.path :=
    List.pairwise_map.mp (distinct.list location)
  exact (list_sorted location rows).imp₂ (fun _ _ before different =>
    precedes_of_listed before different) paths

/-- What is listed of one location stands in the same order in the list of all. -/
theorem Distinct.list_some (distinct : rows.Distinct) (location : String) :
    rows.list (some location) =
      (rows.list none).filter fun record => record.location == location := by
  have all : (rows.list none).Perm rows := by
    simpa using listed_perm none rows
  have perm : (rows.list (some location)).Perm
      ((rows.list none).filter fun record => record.location == location) :=
    (listed_perm (some location) rows).trans (all.filter _).symm
  refine List.Perm.eq_of_pairwise ?_ (list_sorted (some location) rows)
    ((list_sorted none rows).filter _) perm
  intro first second listed others before after
  exact distinct.inj (mem_list.mp listed).1 (all.mem_iff.mp (List.mem_of_mem_filter others))
    (listed_before_antisymm before after)

end Rows

inductive Change where
  | commit (record : Record)
  | remove (path : String)

namespace Change

def path : Change → String
  | commit record => record.path
  | remove path => path

def apply : Change → Rows → Rows
  | commit record, rows => rows.commit record
  | remove path, rows => rows.erase path

def left? : Change → Option Record
  | commit record => some record
  | remove _ => none

end Change

/-- The record of a path after some changes: what the last change of that path left, or what was
there to begin with. -/
def recorded? (path : String) (start : Rows) (changes : List Change) : Option Record :=
  match (changes.filter fun change => change.path == path).getLast? with
  | some change => change.left?
  | none => start.get? path

namespace Rows

variable {rows : Rows}

theorem get?_apply (change : Change) (path : String) (rows : Rows) :
    (change.apply rows).get? path =
      if path = change.path then change.left? else rows.get? path := by
  cases change with
  | commit record => exact get?_commit record path rows
  | remove other => exact get?_erase other path rows

theorem Distinct.apply (distinct : rows.Distinct) (change : Change) :
    Distinct (change.apply rows) := by
  cases change with
  | commit record => exact distinct.commit record
  | remove path => exact distinct.erase path

def after (changes : List Change) (rows : Rows) : Rows :=
  changes.foldl (fun rows change => change.apply rows) rows

theorem get?_after (changes : List Change) (path : String) (rows : Rows) :
    (rows.after changes).get? path = recorded? path rows changes := by
  induction changes using List.reverseRecOn with
  | nil => rfl
  | append_singleton changes change ih =>
      rw [after, List.foldl_append]
      refine (get?_apply change path (rows.after changes)).trans ?_
      unfold recorded? at ih ⊢
      rw [List.filter_append]
      by_cases here : path = change.path
      · simp [here]
      · simp [here, Ne.symm here, ih]

theorem Distinct.after (distinct : rows.Distinct) (changes : List Change) :
    Distinct (rows.after changes) := by
  induction changes generalizing rows with
  | nil => exact distinct
  | cons change changes ih => exact ih (distinct.apply change)

end Rows

end Footage.Index
