import Footage.Storage.Job

/-!
# Storage over a part of the state

A file system or an engine can work on a part of a larger state. What is read off the part and
put back there is then moved, copied and removed as it would be alone, and the rest of the state
stays what it is. What is noted beside a state makes it a larger one, of which it is the first
part.
-/

namespace Footage

set_option autoImplicit false

/-- The state with another part in front of what is noted beside it. -/
def setFirst {σ ε : Type} (part : σ) (whole : σ × ε) : σ × ε := (part, whole.2)

namespace Storage

open Footage.Files

variable {σ τ ε : Type}

def EngineMove.within (engineMove : EngineMove σ) (get : τ → σ) (set : σ → τ → τ) :
    EngineMove τ := fun source target whole =>
  let (outcome, part) := engineMove source target (get whole)
  (outcome, set part whole)

structure IsPart (get : τ → σ) (set : σ → τ → τ) : Prop where
  get_set : ∀ part whole, get (set part whole) = part
  set_get : ∀ whole, set (get whole) whole = whole
  set_set : ∀ first second whole, set second (set first whole) = set second whole

theorem first_is_part : IsPart (Prod.fst : σ × ε → σ) setFirst where
  get_set := fun _ _ => rfl
  set_get := fun _ => rfl
  set_set := fun _ _ _ => rfl

variable {get : τ → σ} {set : σ → τ → τ} (isPart : IsPart get set) (files : FileSystem σ)
  (engineMove : EngineMove σ) (source target : String) (whole : τ)

include isPart

theorem make_parent_within :
    makeParent (files.within get set) target whole =
      set (makeParent files target (get whole)) whole := by
  unfold makeParent
  cases Place.parent? target with
  | some dir => rfl
  | none => exact (isPart.set_get whole).symm

theorem move_file_within :
    (files.within get set).moveFile source target whole =
      Prod.map id (set · whole) (files.moveFile source target (get whole)) := by
  have renamed : (files.within get set).rename source target whole =
      Prod.map id (set · whole) (files.rename source target (get whole)) := rfl
  unfold FileSystem.moveFile
  rw [renamed]
  rcases files.rename source target (get whole) with ⟨outcome, first⟩
  cases outcome with
  | ok => rfl
  | error cause =>
      cases cause
      case crossDevice =>
        have copied : (files.within get set).copy source target (set first whole) =
            Prod.map id (set · (set first whole))
              (files.copy source target (get (set first whole))) := rfl
        simp only [Prod.map_apply, id_eq, copied, isPart.get_set]
        rcases files.copy source target first with ⟨outcome, second⟩
        cases outcome with
        | error cause => simp only [Prod.map_apply, id_eq, isPart.set_set]
        | ok =>
            have removed : (files.within get set).remove source (set second whole) =
                Prod.map id (set · (set second whole))
                  (files.remove source (get (set second whole))) := rfl
            simp only [Prod.map_apply, id_eq, isPart.set_set, removed, isPart.get_set]
      all_goals rfl

theorem relocate_within (relocator : Relocator) :
    relocator.relocate (files.within get set) (engineMove.within get set) source target whole =
      Prod.map id (set · whole)
        (relocator.relocate files engineMove source target (get whole)) := by
  unfold Relocator.relocate
  rw [make_parent_within isPart]
  generalize makeParent files target (get whole) = prepared
  cases relocator with
  | filesystem =>
      simp only [move_file_within isPart, isPart.get_set]
      rcases files.moveFile source target prepared with ⟨outcome, after⟩
      simp only [Prod.map_apply, id_eq, isPart.set_set]
  | engine =>
      simp only [EngineMove.within, isPart.get_set]
      rcases engineMove source target prepared with ⟨outcome, after⟩
      simp only [Prod.map_apply, id_eq, isPart.set_set]

end Storage

end Footage
