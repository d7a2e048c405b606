import Footage.Proofs.Playback.Itinerary
import Mathlib.Data.List.Induction

/-!
# Refused seeks

A handle that refuses a seek may stand anywhere. The next step tries the seek again, as the noted
times still differ, unless a jump happens to land on the time that was noted for the handle before:
then nothing is left of the refusal, and the handle is stepped from wherever it stands. There is
no other way to such a step.
-/

namespace Footage.Playback

set_option autoImplicit false

variable {σ H : Type} {motions : List (Motion H)} {handle : H}

/-- The handle refused a seek, and granted none since. -/
def Lost (handle : H) (motions : List (Motion H)) : Prop :=
  Since (fun motion => motion = .sought handle false) (fun motion => motion = .sought handle true)
    motions

/-- No handle was stepped between a seek that it refused and the next that it granted. -/
def Charted (motions : List (Motion H)) : Prop :=
  Always (fun before motion => ∀ handle, motion = .stepped handle → ¬Lost handle before) motions

theorem lost_snoc {motion : Motion H} (refused : motion ≠ .sought handle false)
    (granted : motion ≠ .sought handle true) :
    Lost handle (motions ++ [motion]) ↔ Lost handle motions := by
  rw [Lost, since_snoc]
  exact ⟨fun lost => (lost.resolve_left refused).2, fun lost => .inr ⟨granted, lost⟩⟩

theorem lost_repositioned : Lost handle (motions ++ [.repositioned]) ↔ Lost handle motions :=
  lost_snoc (fun same => nomatch same) (fun same => nomatch same)

theorem lost_stepped {other : H} :
    Lost handle (motions ++ [.stepped other]) ↔ Lost handle motions :=
  lost_snoc (fun same => nomatch same) (fun same => nomatch same)

theorem not_lost_granted : ¬Lost handle (motions ++ [.sought handle true]) := by
  rw [Lost, since_snoc]
  rintro (impossible | ⟨granted, -⟩)
  · cases impossible
  · exact granted rfl

theorem charted_unstepped {motion : Motion H} (still : ∀ handle, motion ≠ .stepped handle) :
    Charted (motions ++ [motion]) ↔ Charted motions := by
  rw [Charted, always_snoc]
  exact and_iff_left fun handle stepped => absurd stepped (still handle)

theorem charted_repositioned : Charted (motions ++ [.repositioned]) ↔ Charted motions :=
  charted_unstepped fun _ same => nomatch same

theorem charted_sought {reply : Bool} :
    Charted (motions ++ [.sought handle reply]) ↔ Charted motions :=
  charted_unstepped fun _ same => nomatch same

theorem charted_stepped :
    Charted (motions ++ [.stepped handle]) ↔ Charted motions ∧ ¬Lost handle motions := by
  rw [Charted, always_snoc]
  refine and_congr_right fun _ => ?_
  constructor
  · intro allowed
    exact allowed handle rfl
  · intro known other same
    cases same
    exact known

namespace Reader

variable {decoder : Decoder σ H} {reader : Reader H} {state : σ × List (Motion H)}

/-- Nobody knows where the stepping handle stands. -/
def Adrift (reader : Reader H) (motions : List (Motion H)) : Prop :=
  ∃ handle, reader.stepping = some handle ∧ Lost handle motions

/-- The stepping handle is adrift, and the reader does not notice. -/
def Misled (reader : Reader H) (motions : List (Motion H)) : Prop :=
  reader.Adrift motions ∧ reader.diverged = false

/-- A jump that makes the noted times agree before the handle was moved. -/
def Deceives (decoder : Decoder σ H) (reader : Reader H) (state : σ × List (Motion H))
    (ms : Int64) : Prop :=
  reader.Adrift state.2 ∧ reader.diverged = true ∧ reader.forceReseek = false ∧
    ∃ frame, (reader.seek decoder.tracked ms state).1 = some frame ∧
      reader.cursorMs = some frame.ms

theorem Owns.lost (owns : reader.Owns motions) (lost : Lost handle motions) :
    reader.stepping = some handle := by
  obtain ⟨earlier, motion, later, rfl, refused, -⟩ := lost
  have member : motion ∈ earlier ++ motion :: later :=
    List.mem_append_right earlier List.mem_cons_self
  exact owns motion member handle (by rw [refused, Motion.handle?])

theorem Owns.adrift (owns : reader.Owns motions) (lost : Lost handle motions) :
    reader.Adrift motions :=
  ⟨handle, owns.lost lost, lost⟩

/-- A handle is stepped from an unknown place exactly where the reader is misled. -/
theorem track_charted (operation : Operation) (owns : reader.Owns state.2) :
    Charted (reader.track decoder operation state).2.2 ↔
      Charted state.2 ∧ (reader.steps operation = true → ¬reader.Misled state.2) := by
  obtain ⟨added, motions, adds, keeps⟩ := track_adds decoder operation reader state
  rw [motions]
  have aware (diverged : reader.diverged = true) : ¬reader.Misled state.2 := by
    rintro ⟨-, agreed⟩
    exact Bool.false_ne_true (agreed.symm.trans diverged)
  have idle (stays : reader.steps operation = false) :
      reader.steps operation = true → ¬reader.Misled state.2 := by
    intro steps
    exact absurd (stays.symm.trans steps) Bool.false_ne_true
  cases adds with
  | rested stays same =>
      rw [List.append_nil]
      exact (and_iff_left (idle stays)).symm
  | barred missing same =>
      rw [List.append_nil]
      refine (and_iff_left ?_).symm
      rintro - ⟨⟨handle, held, -⟩, -⟩
      rw [missing] at held
      cases held
  | jumped jump =>
      subst jump
      rw [charted_repositioned]
      exact (and_iff_left (idle rfl)).symm
  | placed set =>
      subst set
      rw [charted_repositioned]
      exact (and_iff_left (idle rfl)).symm
  | refused held diverged =>
      rw [charted_sought]
      exact (and_iff_left fun _ => aware diverged).symm
  | @stepped handle held steps agreed agrees =>
      rw [charted_stepped]
      refine and_congr_right fun _ => ?_
      -- A lost handle was moved before, so it is the one that steps now.
      constructor
      · rintro known - ⟨⟨other, stepping, lost⟩, -⟩
        have same : handle = other := Option.some.inj (held.symm.trans (keeps other stepping))
        exact known (same ▸ lost)
      · intro clear lost
        exact clear steps ⟨owns.adrift lost, agreed⟩
  | @resynced handle held diverged agrees =>
      rw [← List.singleton_append, ← List.append_assoc, charted_stepped, charted_sought,
        and_iff_left not_lost_granted]
      exact (and_iff_left fun _ => aware diverged).symm

/-- Only a jump misleads the reader, one to the time that was noted for the handle. -/
theorem track_misled (operation : Operation) (owns : reader.Owns state.2)
    (clear : ¬reader.Misled state.2)
    (misled : (reader.track decoder operation state).1.Misled
      (reader.track decoder operation state).2.2) :
    ∃ ms, operation = .seek ms ∧ reader.Deceives decoder state ms := by
  obtain ⟨added, motions, adds, keeps⟩ := track_adds decoder operation reader state
  obtain ⟨⟨handle, stepping, lost⟩, agrees⟩ := misled
  rw [motions] at lost
  have unaware (diverged : (reader.track decoder operation state).1.diverged = true) : False :=
    Bool.false_ne_true (agrees.symm.trans diverged)
  cases adds with
  | rested stays same =>
      rw [List.append_nil] at lost
      exact absurd ⟨owns.adrift lost, same.symm.trans agrees⟩ clear
  | barred missing same =>
      rw [List.append_nil] at lost
      exact absurd ⟨owns.adrift lost, same.symm.trans agrees⟩ clear
  | @jumped ms frame jump found prevMs cursorMs forceReseek =>
      -- The noted times differed before the jump, and it was the jump that made them agree.
      rw [lost_repositioned] at lost
      have adrift := owns.adrift lost
      have diverged : reader.diverged = true := by
        by_contra agreed
        exact clear ⟨adrift, Bool.eq_false_iff.mpr agreed⟩
      obtain ⟨unforced, same⟩ := not_diverged agrees
      refine ⟨ms, jump, adrift, diverged, forceReseek.symm.trans unforced, frame, found, ?_⟩
      rw [← cursorMs, ← same, prevMs]
  | placed set diverged => exact (unaware diverged).elim
  | refused held diverged still => exact (unaware still).elim
  | stepped held steps agreed =>
      rw [lost_stepped] at lost
      exact absurd ⟨owns.adrift lost, agreed⟩ clear
  | @resynced other held diverged =>
      have same : other = handle := Option.some.inj (held.symm.trans stepping)
      subst same
      rw [← List.singleton_append, ← List.append_assoc, lost_stepped] at lost
      exact absurd lost not_lost_granted

/-- Whatever is done with a clip after it was opened, and whichever seeks are refused: a handle is
stepped from an unknown place exactly where a misled reader steps. As long as no jump deceives the
reader it is not misled, and a handle that refused a seek is not stepped until it grants one. -/
theorem steps_charted (decoder : Decoder σ H) (spec : OpenSpec) (reader : Reader H) (state : σ)
    (operations : List Operation) :
    let opened := (reader.openClip decoder spec state).2
    let run (past : List Operation) := opened.1.trackAll decoder past (opened.2, [])
    ((run operations).1, (run operations).2.1) =
        performAll decoder operations opened.1 opened.2 ∧
      (run operations).1.Owns (run operations).2.2 ∧
      (Charted (run operations).2.2 ↔
        Always (fun past operation => (run past).1.steps operation = true →
          ¬(run past).1.Misled (run past).2.2) operations) ∧
      (Always (fun past operation => ∀ ms, operation = .seek ms →
          ¬(run past).1.Deceives decoder (run past).2 ms) operations →
        ¬(run operations).1.Misled (run operations).2.2 ∧ Charted (run operations).2.2) := by
  intro opened run
  have owns (past : List Operation) : (run past).1.Owns (run past).2.2 :=
    track_all_keeps Owns past (fun operation _ => track_owns decoder operation) (owns_nil opened.1)
  have further (past : List Operation) (operation : Operation) :
      run (past ++ [operation]) = (run past).1.track decoder operation (run past).2 :=
    track_all_snoc past operation opened.1 (opened.2, [])
  refine ⟨track_all_plain operations opened.1 (opened.2, []), owns operations, ?_, ?_⟩
  · induction operations using List.reverseRecOn with
    | nil => exact iff_of_true always_nil always_nil
    | append_singleton past operation ih =>
        rw [further, track_charted operation (owns past), always_snoc, ih]
  · intro undeceived
    induction operations using List.reverseRecOn with
    | nil => exact ⟨fun misled => not_since_nil misled.1.choose_spec.2, always_nil⟩
    | append_singleton past operation ih =>
        obtain ⟨earlier, honest⟩ := always_snoc.mp undeceived
        obtain ⟨clear, charted⟩ := ih earlier
        rw [further]
        constructor
        · intro misled
          obtain ⟨ms, jump, deceives⟩ := track_misled operation (owns past) clear misled
          exact honest ms jump deceives
        · exact (track_charted operation (owns past)).mpr ⟨charted, fun _ => clear⟩

end Reader

/-- The tape, but as many seeks are refused as the second part of the state says; a refused seek
leaves the handle before the first frame. -/
def Tape.balky (times : List Int64) : Decoder (List Nat × Nat) Nat where
  openClip := fun spec (positions, refusals) =>
    let (outcome, positions) := (decoder times).openClip spec positions
    (outcome, positions, refusals)
  perform := fun handle call (positions, refusals) =>
    match call, refusals with
    | .seek _, refusals + 1 => (false, positions.set handle 0, refusals)
    | call, refusals =>
        let (reply, positions) := (decoder times).perform handle call positions
        (reply, positions, refusals)

/-- The seek after a jump to the last frame is refused. A jump back to the first frame makes the
noted times agree, and the next step delivers that frame once more. -/
theorem Reader.stepped_after_refusal :
    let tape := Tape.balky [0, 100, 200]
    let opened := (Reader.openClip tape (OpenSpec.probe "clip.mp4") {} ([], 1)).2
    let operations : List Operation := [.nextFrame, .seek 200, .nextFrame, .seek 0]
    let run := opened.1.trackAll tape operations (opened.2, [])
    let last := run.1.trackAll tape [.nextFrame] run.2
    run.2.2 = [.stepped 0, .repositioned, .sought 0 false, .repositioned] ∧
      last.2.2 = run.2.2 ++ [.stepped 0] ∧ ¬Charted last.2.2 ∧
      (run.1.nextFrame tape.tracked run.2).1 = some (Tape.frame 0) := by
  intro tape opened operations run last
  have moved : run.2.2 = [.stepped 0, .repositioned, .sought 0 false, .repositioned] := by decide
  have further : last.2.2 = run.2.2 ++ [.stepped 0] := by decide
  refine ⟨moved, further, ?_, by decide⟩
  rw [further, charted_stepped, moved]
  rintro ⟨-, known⟩
  refine known ⟨[.stepped 0, .repositioned], .sought 0 false, [.repositioned], rfl, rfl, ?_⟩
  simp

end Footage.Playback
