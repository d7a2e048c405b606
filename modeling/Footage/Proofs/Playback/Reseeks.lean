import Footage.Proofs.Playback.Itinerary
import Mathlib.Data.List.Induction

/-!
# No more seeks than needed

After a step the two noted times agree, at the ends of the clip too, and only a new position makes
them differ. So over a decoder that refuses no seek, every seek on the stepping handle is due to a
new position of its own.
-/

namespace Footage.Playback

set_option autoImplicit false

variable {σ H : Type}

namespace Motion

def seeks : Motion H → Bool
  | .sought _ _ => true
  | _ => false

def repositions : Motion H → Bool
  | .repositioned => true
  | _ => false

end Motion

/-- A new position was set, and no handle was moved to it by a seek yet. -/
def Due (motions : List (Motion H)) : Prop :=
  Since (fun motion => motion.repositions = true) (fun motion => motion.seeks = true) motions

/-- Every seek comes after a new position, with no other seek since. -/
def Thrifty (motions : List (Motion H)) : Prop :=
  Always (fun before motion => motion.seeks = true → Due before) motions

def Operation.positions : Operation → Bool
  | .seek _ | .setPrevMs _ => true
  | _ => false

variable {motions : List (Motion H)}

/-- Every seek has used up a new position, and one that is due is left over. -/
theorem Thrifty.counts (thrifty : Thrifty motions) :
    motions.countP Motion.seeks ≤ motions.countP Motion.repositions ∧
      (Due motions → motions.countP Motion.seeks < motions.countP Motion.repositions) := by
  induction motions using List.reverseRecOn with
  | nil => exact ⟨Nat.le_refl 0, fun due => absurd due not_since_nil⟩
  | append_singleton motions motion ih =>
      obtain ⟨earlier, allowed⟩ := always_snoc.mp thrifty
      obtain ⟨most, fewer⟩ := ih earlier
      simp only [List.countP_append, List.countP_singleton, Due, since_snoc]
      cases motion with
      | stepped handle =>
          simp only [Motion.seeks, Motion.repositions, Bool.false_eq_true, if_false, Nat.add_zero,
            false_or, not_false_iff, true_and]
          exact ⟨most, fewer⟩
      | sought handle accepted =>
          -- The seek uses up the new position that it was due to, and leaves none due.
          have paid := fewer (allowed rfl)
          simp only [Motion.seeks, Motion.repositions, Bool.false_eq_true, if_false, if_true,
            false_or, not_true, false_and]
          exact ⟨paid, fun impossible => nomatch impossible⟩
      | repositioned =>
          simp only [Motion.seeks, Motion.repositions, Bool.false_eq_true, if_false, if_true]
          exact ⟨Nat.le_succ_of_le most, fun _ => Nat.lt_succ_of_le most⟩

namespace Reader

variable {decoder : Decoder σ H}

/-- Where the noted times differ a new position was set since the last seek. -/
def Spares (reader : Reader H) (motions : List (Motion H)) : Prop :=
  Thrifty motions ∧ (reader.diverged = true → Due motions)

theorem track_spares
    (obliging : ∀ handle after state, (decoder.perform handle (.seek after) state).1 = true)
    (operation : Operation) (reader : Reader H) (state : σ × List (Motion H))
    (spares : reader.Spares state.2) :
    (reader.track decoder operation state).1.Spares
      (reader.track decoder operation state).2.2 := by
  obtain ⟨thrifty, due⟩ := spares
  obtain ⟨added, motions, adds, -⟩ := track_adds decoder operation reader state
  rw [motions]
  have anew {after : Reader H} : after.Spares (state.2 ++ [.repositioned]) :=
    ⟨always_snoc.mpr ⟨thrifty, fun seeks => nomatch seeks⟩, fun _ => since_snoc.mpr (.inl rfl)⟩
  cases adds with
  | rested stays same =>
      rw [List.append_nil]
      exact ⟨thrifty, fun diverged => due (same ▸ diverged)⟩
  | barred missing same =>
      rw [List.append_nil]
      exact ⟨thrifty, fun diverged => due (same ▸ diverged)⟩
  | jumped => exact anew
  | placed => exact anew
  | refused held diverged still refusal =>
      obtain ⟨before, refusal⟩ := refusal
      rw [obliging] at refusal
      cases refusal
  | stepped held steps agreed agrees =>
      refine ⟨always_snoc.mpr ⟨thrifty, fun seeks => nomatch seeks⟩, ?_⟩
      intro diverged
      exact absurd (agrees.symm.trans diverged) Bool.false_ne_true
  | @resynced handle held diverged agrees =>
      have sought : Thrifty (state.2 ++ [.sought handle true]) :=
        always_snoc.mpr ⟨thrifty, fun _ => due diverged⟩
      have stepped : Thrifty (state.2 ++ [.sought handle true] ++ [.stepped handle]) :=
        always_snoc.mpr ⟨sought, fun seeks => nomatch seeks⟩
      rw [List.append_assoc, List.singleton_append] at stepped
      refine ⟨stepped, ?_⟩
      intro diverged
      exact absurd (agrees.symm.trans diverged) Bool.false_ne_true

theorem track_unpositioned (operation : Operation) (stays : operation.positions = false)
    (reader : Reader H) (state : σ × List (Motion H))
    (none_set : state.2.countP Motion.repositions = 0) :
    (reader.track decoder operation state).2.2.countP Motion.repositions = 0 := by
  obtain ⟨added, motions, adds, -⟩ := track_adds decoder operation reader state
  rw [motions, List.countP_append, none_set]
  cases adds with
  | jumped jump =>
      subst jump
      cases stays
  | placed set =>
      subst set
      cases stays
  | _ => rfl

/-- Over a decoder that refuses no seek, whatever is done with a clip after it was opened: between
any two seeks on the stepping handle, and before the first, a new position was set by a jump that
found a frame or from outside. So there are at most as many seeks as new positions, and without
jumps and times from outside there are none. -/
theorem reseeks_due (decoder : Decoder σ H)
    (obliging : ∀ handle after state, (decoder.perform handle (.seek after) state).1 = true)
    (spec : OpenSpec) (reader : Reader H) (state : σ) (operations : List Operation) :
    let opened := (reader.openClip decoder spec state).2
    let tracked := opened.1.trackAll decoder operations (opened.2, [])
    let motions := tracked.2.2
    (tracked.1, tracked.2.1) = performAll decoder operations opened.1 opened.2 ∧
      tracked.1.Owns motions ∧ Thrifty motions ∧
      motions.countP Motion.seeks ≤ motions.countP Motion.repositions ∧
      ((∀ operation ∈ operations, operation.positions = false) →
        motions.countP Motion.seeks = 0) := by
  intro opened tracked motions
  have agrees : opened.1.diverged = false := open_clip_agrees decoder spec reader state
  have begun : opened.1.Spares ([] : List (Motion H)) := by
    refine ⟨always_nil, ?_⟩
    intro diverged
    exact absurd (agrees.symm.trans diverged) Bool.false_ne_true
  have spares : tracked.1.Spares motions :=
    track_all_keeps Spares operations (fun operation _ => track_spares obliging operation) begun
  have owns : tracked.1.Owns motions :=
    track_all_keeps Owns operations (fun operation _ => track_owns decoder operation)
      (owns_nil opened.1)
  have counts := spares.1.counts.1
  refine ⟨track_all_plain operations opened.1 (opened.2, []), owns, spares.1, counts, ?_⟩
  intro stays
  have none_set : motions.countP Motion.repositions = 0 :=
    track_all_keeps (fun _ motions => motions.countP Motion.repositions = 0) operations
      (fun operation member => track_unpositioned operation (stays operation member)) rfl
  exact Nat.le_zero.mp (none_set ▸ counts)

/-- A jump after the first frame, a lookup, two steps to the last frame and over the end, and back
to the start from outside. -/
theorem reseeks_due_twice :
    let tape := Tape.decoder [0, 100, 200]
    let spec := OpenSpec.probe "clip.mp4"
    let operations : List Operation :=
      [.nextFrame, .seek 150, .frameAt 0, .nextFrame, .nextFrame, .setPrevMs none, .seek 70,
        .nextFrame, .prevFrame]
    let opened := (Reader.openClip tape spec {} []).2
    let motions := (opened.1.trackAll tape operations (opened.2, [])).2.2
    (∀ handle after state, (tape.perform handle (.seek after) state).1 = true) ∧
      motions =
        [.stepped 0, .repositioned, .sought 0 true, .stepped 0, .stepped 0, .repositioned,
          .repositioned, .sought 0 true, .stepped 0, .stepped 0] ∧
      Thrifty motions ∧ motions.countP Motion.seeks ≤ motions.countP Motion.repositions := by
  intro tape spec operations
  have obliging (handle : Nat) (after : Option Int64) (state : List Nat) :
      (tape.perform handle (.seek after) state).1 = true := rfl
  have due := reseeks_due tape obliging spec {} [] operations
  exact ⟨obliging, by decide, due.2.2.1, due.2.2.2.1⟩

end Reader

end Footage.Playback
