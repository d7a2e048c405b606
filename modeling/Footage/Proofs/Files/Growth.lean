import Footage.Files.Tree
import Footage.Proofs.Document.Fields

/-!
# What stays when a file is put into a tree

A file may be put where nothing is, or take the place of another. Directories stay directories
then, and what was there stays there, so every path that named something still does. Making
directories leaves the files as they are.
-/

namespace Footage.Files

open Footage.Document (bind_eq_ok)

set_option autoImplicit false

namespace Tree

variable {tree grown : Tree} {location other : Location} {entry : Entry} {content : Content}

theorem entry_put (tree : Tree) (some_location : location ≠ []) (entry : Entry)
    (other : Location) :
    (tree.put location entry).entryAt? other =
      if other = location then some entry else tree.entryAt? other := by
  unfold entryAt? put
  by_cases root : other = []
  · subst root
    rw [if_pos rfl, if_neg (Ne.symm some_location), if_pos rfl]
  · rw [if_neg root, if_neg root]
    by_cases here : other = location
    · simp [here]
    · have passed : (other == location) = false := beq_false_of_ne here
      rw [if_neg here, List.lookup_cons, passed]
      simp only
      induction tree.entries with
      | nil => rfl
      | cons held rest ih =>
          by_cases removed : held.1 = location
          · rw [List.filter_cons_of_neg (by simp [removed]), ih, List.lookup_cons, removed, passed]
          · rw [List.filter_cons_of_pos (by simpa using removed), List.lookup_cons,
              List.lookup_cons, ih]

theorem entry_put_self (tree : Tree) (some_location : location ≠ []) (entry : Entry) :
    (tree.put location entry).entryAt? location = some entry := by
  rw [entry_put tree some_location, if_pos rfl]

theorem location_of_file (there : tree.entryAt? location = some (.file content)) :
    location ≠ [] := by
  rintro rfl
  cases there

structure Grows (tree grown : Tree) : Prop where
  workingDir : grown.workingDir = tree.workingDir
  kept : ∀ location entry, tree.entryAt? location = some entry →
    ∃ later, grown.entryAt? location = some later ∧ (later = .directory ↔ entry = .directory)

theorem Grows.directory (grows : tree.Grows grown)
    (there : tree.entryAt? location = some .directory) :
    grown.entryAt? location = some .directory := by
  obtain ⟨later, found, same⟩ := grows.kept location .directory there
  rw [found, same.mpr rfl]

theorem grows_put (some_location : location ≠ []) (free : tree.entryAt? location ≠ some .directory)
    (content : Content) : tree.Grows (tree.put location (.file content)) where
  workingDir := rfl
  kept := by
    intro other entry there
    rw [entry_put tree some_location]
    split
    · rename_i here
      subst here
      have file : entry ≠ .directory := by
        rintro rfl
        exact free there
      exact ⟨.file content, rfl, iff_of_false (nomatch ·) file⟩
    · exact ⟨entry, there, Iff.rfl⟩

theorem Grows.step (grows : tree.Grows grown) {dir reached : Location} {name : String}
    (stepped : tree.step dir name = .ok reached) : grown.step dir name = .ok reached := by
  unfold Tree.step at stepped ⊢
  split at stepped
  · rename_i here
    rw [if_pos here]
    exact stepped
  rename_i forward
  rw [if_neg forward]
  split at stepped
  · rename_i back
    rw [if_pos back]
    exact stepped
  rename_i named
  rw [if_neg named]
  split at stepped
  · cases stepped
  rename_i short
  rw [if_neg short]
  split at stepped
  · cases stepped
  · cases stepped
  · rename_i there
    rw [grows.directory there]
    exact stepped

theorem Grows.walk (grows : tree.Grows grown) {names : List String} {dir reached : Location}
    (walked : names.foldlM tree.step dir = .ok reached) :
    names.foldlM grown.step dir = .ok reached := by
  induction names generalizing dir with
  | nil => exact walked
  | cons name names ih =>
      rw [List.foldlM_cons] at walked ⊢
      cases stepped : tree.step dir name with
      | error cause =>
          rw [stepped] at walked
          cases walked
      | ok next =>
          rw [stepped] at walked
          rw [grows.step stepped]
          exact ih walked

theorem Grows.locate (grows : tree.Grows grown) {path : String} {target : Target}
    (located : tree.locate path = .ok target) : grown.locate path = .ok target := by
  unfold Tree.locate at located ⊢
  rw [grows.workingDir]
  split at located
  · cases located
  rename_i whole
  rw [if_neg whole]
  split at located
  · cases located
  rename_i filled
  rw [if_neg filled]
  split at located
  · cases located
  rename_i short
  rw [if_neg short]
  simp only at located ⊢
  cases ends : (Place.parts path).getLast? with
  | none =>
      rw [ends] at located
      exact located
  | some last =>
      rw [ends] at located
      obtain ⟨parent, walked, located⟩ := bind_eq_ok.mp located
      refine bind_eq_ok.mpr ⟨parent, grows.walk walked, ?_⟩
      split at located
      · rename_i dots
        rw [if_pos dots]
        obtain ⟨dir, stepped, located⟩ := bind_eq_ok.mp located
        exact bind_eq_ok.mpr ⟨dir, grows.step stepped, located⟩
      · rename_i named
        rw [if_neg named]
        exact located

theorem is_there_iff {path : String} :
    tree.isThere path = true ↔ ∃ found, tree.find path = .ok found := by
  unfold isThere
  cases tree.find path with
  | ok found => exact iff_of_true rfl ⟨found, rfl⟩
  | error cause => exact iff_of_false (nomatch ·) fun ⟨_, found⟩ => nomatch found

theorem Grows.is_there (grows : tree.Grows grown) {path : String}
    (there : tree.isThere path = true) : grown.isThere path = true := by
  rw [is_there_iff] at there ⊢
  obtain ⟨found, there⟩ := there
  obtain ⟨target, located, there⟩ := bind_eq_ok.mp there
  have located_grown := grows.locate located
  cases target with
  | directory location => exact ⟨_, bind_eq_ok.mpr ⟨_, located_grown, rfl⟩⟩
  | named parent name slash =>
      obtain ⟨child, looked, there⟩ := bind_eq_ok.mp there
      unfold childAt? at looked
      split at looked
      · cases looked
      rename_i short
      cases looked
      have looked_grown : grown.childAt? parent name = .ok (grown.entryAt? (parent ++ [name])) :=
        if_neg short
      cases held : tree.entryAt? (parent ++ [name]) with
      | none =>
          rw [held] at there
          cases there
      | some entry =>
          obtain ⟨later, held_grown, same⟩ := grows.kept _ entry held
          rw [held] at there
          rw [held_grown] at looked_grown
          cases entry with
          | directory =>
              rw [same.mpr rfl] at looked_grown
              exact ⟨_, bind_eq_ok.mpr ⟨_, located_grown,
                bind_eq_ok.mpr ⟨_, looked_grown, rfl⟩⟩⟩
          | file content =>
              cases later with
              | directory => cases same.mp rfl
              | file other =>
                  cases slash with
                  | true => cases there
                  | false =>
                      exact ⟨_, bind_eq_ok.mpr ⟨_, located_grown,
                        bind_eq_ok.mpr ⟨_, looked_grown, rfl⟩⟩⟩

def SameFiles (tree made : Tree) : Prop :=
  ∀ location content, made.entryAt? location = some (.file content) ↔
    tree.entryAt? location = some (.file content)

theorem SameFiles.trans {whole : Tree} (same : tree.SameFiles grown)
    (further : grown.SameFiles whole) : tree.SameFiles whole :=
  fun location content => (further location content).trans (same location content)

theorem make_dir_files {path : String} {made : Tree} (makes : tree.makeDir path = .ok made) :
    tree.SameFiles made := by
  obtain ⟨target, located, makes⟩ := bind_eq_ok.mp makes
  cases target with
  | directory location => cases makes
  | named parent name slash =>
      obtain ⟨child, looked, makes⟩ := bind_eq_ok.mp makes
      unfold childAt? at looked
      split at looked
      · cases looked
      cases child with
      | some entry => cases makes
      | none =>
          cases makes
          have free : tree.entryAt? (parent ++ [name]) = none := Except.ok.inj looked
          intro location content
          rw [entry_put tree (by simp)]
          split
          · rename_i here
            rw [here, free]
            exact iff_of_false (nomatch ·) (nomatch ·)
          · exact Iff.rfl

theorem make_dirs_within_files (count : Nat) (tree : Tree) (path : String) :
    tree.SameFiles (makeDirsWithin count tree path).2 := by
  have same (tree : Tree) : tree.SameFiles tree := fun _ _ => Iff.rfl
  induction count generalizing tree path with
  | zero => exact same tree
  | succ count ih =>
      unfold makeDirsWithin
      split
      · exact same tree
      split
      · rename_i made makes
        exact make_dir_files makes
      · split
        · exact same tree
        · rename_i parent _
          have before := ih tree parent
          split
          · rename_i reached
            rw [reached] at before
            exact before
          · rename_i reached
            rw [reached] at before
            split
            · rename_i whole makes
              exact before.trans (make_dir_files makes)
            · split <;> exact before
      · split <;> exact same tree

theorem make_dirs_files (tree : Tree) (path : String) : tree.SameFiles (tree.makeDirs path).2 :=
  make_dirs_within_files (path.length + 1) tree path

end Tree

end Footage.Files
