import Footage.Files.Tree

/-!
# File systems

What the storage of segments asks of a file system, over any kind of state. The tree of files is
one file system; others may fail where the tree would not.
-/

namespace Footage.Files

set_option autoImplicit false

abbrev Outcome (σ : Type) := Except FileError Unit × σ

/-- The operations that moving a file is made of. -/
structure FileSystem (σ : Type) where
  /-- Makes a directory and its missing parents. -/
  makeDirs : String → σ → Outcome σ
  /-- Renames the first path to the second within one device. -/
  rename : String → String → σ → Outcome σ
  /-- Copies the file at the first path to the second. -/
  copy : String → String → σ → Outcome σ
  /-- Removes a file. -/
  remove : String → σ → Outcome σ

def Outcome.ofAttempt {σ : Type} (before : σ) : Except FileError σ → Outcome σ
  | .ok after => (.ok (), after)
  | .error cause => (.error cause, before)

def Tree.system : FileSystem Tree where
  makeDirs := fun path tree => tree.makeDirs path
  rename := fun source target tree => .ofAttempt tree (tree.rename source target)
  copy := fun source target tree => .ofAttempt tree (tree.copy source target)
  remove := fun path tree => .ofAttempt tree (tree.remove path)

/-- Renames, or across devices copies and removes. -/
def FileSystem.moveFile {σ : Type} (files : FileSystem σ) (source target : String) (state : σ) :
    Outcome σ :=
  match files.rename source target state with
  | (.error .crossDevice, state) =>
      match files.copy source target state with
      | (.ok (), state) => files.remove source state
      | (.error cause, state) => (.error cause, state)
  | outcome => outcome

def FileSystem.within {σ τ : Type} (files : FileSystem σ) (get : τ → σ) (set : σ → τ → τ) :
    FileSystem τ where
  makeDirs := fun path whole =>
    let (outcome, part) := files.makeDirs path (get whole)
    (outcome, set part whole)
  rename := fun source target whole =>
    let (outcome, part) := files.rename source target (get whole)
    (outcome, set part whole)
  copy := fun source target whole =>
    let (outcome, part) := files.copy source target (get whole)
    (outcome, set part whole)
  remove := fun path whole =>
    let (outcome, part) := files.remove path (get whole)
    (outcome, set part whole)

end Footage.Files
