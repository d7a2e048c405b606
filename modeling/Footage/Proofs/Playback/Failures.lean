import Footage.Proofs.Playback.Bearings
import Footage.Proofs.Playback.Plans

/-!
# Failures leave the position alone

A step that finds no handle, or whose handle refuses to be moved to where the step starts, and a
jump, a lookup or a question about the clip that brings nothing: after each of these the reader
has noted what it had noted before. So whatever is done next, the plan for it is the same, also
whether and to where the next step moves the handle. A handle may have been taken on the way, by
one mode, but no mode has lost one.
-/

namespace Footage.Playback

set_option autoImplicit false

variable {σ H : Type}

namespace CursorPair

/-- All modes but one have the handle that they had or none, and that one keeps what it had. -/
structure Extends (pair taken : CursorPair H) : Prop where
  spec : taken.spec = pair.spec
  kept : ∀ mode handle, pair.held mode = some handle → taken.held mode = some handle
  others : ∃ one : Mode, ∀ mode, mode ≠ one → taken.held mode = pair.held mode

variable {decoder : Decoder σ H} {pair taken : CursorPair H} {found : Option H} {state after : σ}

theorem Extends.refl (pair : CursorPair H) : pair.Extends pair :=
  ⟨rfl, fun _ _ held => held, .sequential, fun _ _ => rfl⟩

theorem Extends.lend {mode : Mode} {handle : H} (missing : pair.held mode = none) :
    pair.Extends (pair.lend mode handle) where
  spec := spec_lend
  kept := fun _ _ held => held_lend_missing missing held
  others := ⟨mode, fun _ different => held_lend_other different⟩

theorem take_extends {slot : Slot} (took : pair.take decoder slot state = (found, taken, after)) :
    pair.Extends taken := by
  cases take_takes took with
  | any => exact .refl pair
  | held held => exact .refl pair
  | first missing free => exact .lend missing
  | opened missing taken opens => exact .lend missing
  | refused missing taken refuses => exact .refl pair

end CursorPair

/-- The answer brings nothing. -/
def Answer.missing : Answer → Bool
  | .frame found => found.isNone
  | .time found => found.isNone
  | .times found => found.isNone
  | .size found => found.isNone
  | .verdict _ | .nothing => false

namespace Reader

def held (reader : Reader H) (mode : Mode) : Option H := reader.pair.bind (·.held mode)

/-- Where the next step moves the stepping handle to first, if it moves it at all. -/
def pendingSeek (reader : Reader H) : Option (Option Int64) :=
  if reader.diverged then some reader.prevMs else none

theorem stride_plan_pending (forward : Bool) (reader : Reader H) :
    reader.stridePlan forward =
      match reader.pendingSeek with
      | none => reader.advance forward
      | some target => .ask (.seek target) fun (accepted : Bool) =>
          if accepted then reader.moved.advance forward else .done (.frame none, reader) := by
  unfold stridePlan pendingSeek
  split <;> rfl

/-- An operation brings nothing: a step for want of a handle that stands where the step starts,
the others for any reason. -/
inductive Fails (decoder : Decoder σ H) (reader : Reader H) (state : σ) : Operation → Prop where
  /-- There is no handle for stepping, and none can be opened. -/
  | barred {operation : Operation} (step : operation = .nextFrame ∨ operation = .prevFrame)
      (missing : (reader.take decoder .sequential state).1 = none) :
      Fails decoder reader state operation
  /-- The handle refuses to be moved to where the step starts. -/
  | refused {operation : Operation} {handle : H} {later : Reader H} {between : σ}
      (step : operation = .nextFrame ∨ operation = .prevFrame)
      (took : reader.take decoder .sequential state = (some handle, later, between))
      (diverged : reader.diverged = true)
      (refusal : (decoder.perform handle (.seek reader.prevMs) between).1 = false) :
      Fails decoder reader state operation
  | seek (ms : Int64) (missed : (reader.seek decoder ms state).1 = none) :
      Fails decoder reader state (.seek ms)
  | frameAt (ms : Int64) (missed : (reader.frameAt decoder ms state).1 = none) :
      Fails decoder reader state (.frameAt ms)
  | duration (missed : (reader.duration decoder state).1 = none) :
      Fails decoder reader state .duration
  | frameOffsets (missed : (reader.frameOffsets decoder state).1 = none) :
      Fails decoder reader state .frameOffsets

/-- Nothing but the handles has changed. What modes had is still theirs, and at most one mode has
got a handle. -/
structure Undisturbed (reader after : Reader H) : Prop where
  prevMs : after.prevMs = reader.prevMs
  done : after.done = reader.done
  knownDuration : after.knownDuration = reader.knownDuration
  knownOffsets : after.knownOffsets = reader.knownOffsets
  muted : after.muted = reader.muted
  requestedSize : after.requestedSize = reader.requestedSize
  pendingSeek : after.pendingSeek = reader.pendingSeek
  /-- Nor has anything else that was noted. -/
  notes : after.notes = reader.notes
  /-- The settings for handles to come are the same too. -/
  spec : after.pair.map CursorPair.spec = reader.pair.map CursorPair.spec
  kept : ∀ mode handle, reader.held mode = some handle → after.held mode = some handle
  others : ∃ one : Mode, ∀ mode, mode ≠ one → after.held mode = reader.held mode

variable {decoder : Decoder σ H} {reader : Reader H} {state : σ} {operation : Operation}

theorem Undisturbed.of_extends {after : Reader H} (notes : after.notes = reader.notes)
    (pairs : (reader.pair = none ∧ after.pair = none) ∨
      ∃ pair last, reader.pair = some pair ∧ after.pair = some last ∧ pair.Extends last) :
    reader.Undisturbed after where
  prevMs := show after.notes.prevMs = reader.notes.prevMs by rw [notes]
  done := show after.notes.done = reader.notes.done by rw [notes]
  knownDuration := show after.notes.knownDuration = reader.notes.knownDuration by rw [notes]
  knownOffsets := show after.notes.knownOffsets = reader.notes.knownOffsets by rw [notes]
  muted := show after.notes.muted = reader.notes.muted by rw [notes]
  requestedSize := show after.notes.requestedSize = reader.notes.requestedSize by rw [notes]
  pendingSeek := show after.notes.pendingSeek = reader.notes.pendingSeek by rw [notes]
  notes := notes
  spec := by
    rcases pairs with ⟨none_before, none_after⟩ | ⟨pair, last, before, later, extended⟩
    · rw [none_before, none_after]
    · rw [before, later]
      exact congrArg some extended.spec
  kept := by
    rcases pairs with ⟨none_before, -⟩ | ⟨pair, last, before, later, extended⟩
    · intro mode handle held
      simp [Reader.held, none_before] at held
    · simpa only [Reader.held, before, later, Option.bind_some] using extended.kept
  others := by
    rcases pairs with ⟨none_before, none_after⟩ | ⟨pair, last, before, later, extended⟩
    · exact ⟨.sequential, fun _ _ => by rw [Reader.held, Reader.held, none_before, none_after]⟩
    · simpa only [Reader.held, before, later, Option.bind_some] using extended.others

/-- An operation that tells no setting only ever adds to the handles that modes have. -/
theorem perform_extends (unsettled : ∀ setting, reader.notes.need operation ≠ .all setting) :
    (reader.pair = none ∧ (reader.perform decoder operation state).1.pair = none) ∨
      ∃ pair last, reader.pair = some pair ∧
        (reader.perform decoder operation state).1.pair = some last ∧ pair.Extends last := by
  cases holds : reader.pair with
  | none => exact .inl ⟨rfl, (perform_closed decoder state operation holds).1⟩
  | some pair =>
      obtain ⟨last, later, extended⟩ :=
        perform_keeps_pair (fun last _ => pair.Extends last) decoder operation holds (.refl pair)
          (fun _ took => CursorPair.take_extends took)
          (fun _ _ _ extended => extended)
          (fun needs => absurd needs (unsettled _))
      exact .inr ⟨pair, last, rfl, later, extended⟩

/-- A step that finds no handle, and one that gives up with its handle, note nothing. -/
theorem given_up_notes
    (needs : reader.notes.need operation = .none ∨ reader.notes.need operation = .one .sequential)
    (lacks : reader.notes.unaided operation = (.frame none, reader.notes))
    (gives_up : ∀ handle later after,
      reader.take decoder .sequential state = (some handle, later, after) →
      ((reader.notes.plan operation).run decoder handle after).1 = (.frame none, reader.notes)) :
    reader.answer decoder operation state = .frame none ∧
      (reader.perform decoder operation state).1.notes = reader.notes := by
  suffices carried : (reader.carryOut decoder operation state).1 = .frame none ∧
      (reader.carryOut decoder operation state).2.1.notes = reader.notes by
    rw [← perform_carried] at carried
    exact carried
  rcases needs with idle | needs
  · unfold carryOut
    rw [idle, lacks]
    exact ⟨rfl, rfl⟩
  cases holds : reader.pair with
  | none =>
      unfold carryOut
      rw [needs, holds, lacks]
      exact ⟨rfl, rfl⟩
  | some pair =>
      rcases took : pair.take decoder .sequential state with ⟨found, taken, after⟩
      rw [carry_out_one needs holds took]
      cases found with
      | none =>
          rw [lacks]
          exact ⟨rfl, rfl⟩
      | some handle =>
          have gave_up := gives_up handle _ after (take_eq holds took)
          rcases ran : (reader.notes.plan operation).run decoder handle after with ⟨result, last⟩
          rw [ran] at gave_up
          subst gave_up
          simp only [ran]
          exact ⟨trivial, rfl⟩

theorem step_planned (reader : Reader H)
    (step : operation = .nextFrame ∨ operation = .prevFrame) :
    (reader.notes.need operation = .none ∨ reader.notes.need operation = .one .sequential) ∧
      reader.notes.unaided operation = (.frame none, reader.notes) ∧
      ∃ forward, reader.notes.plan operation = reader.notes.stridePlan forward := by
  rcases step with rfl | rfl
  · refine ⟨?_, rfl, true, rfl⟩
    cases finished : reader.done with
    | true => exact .inl (if_pos finished)
    | false => exact .inr (if_neg (Bool.eq_false_iff.mp finished))
  · exact ⟨.inr rfl, rfl, false, rfl⟩

theorem stride_plan_refused {forward : Bool} {handle : H} (diverged : reader.diverged = true)
    (refusal : (decoder.perform handle (.seek reader.prevMs) state).1 = false) :
    ((reader.notes.stridePlan forward).run decoder handle state).1 =
      (.frame none, reader.notes) := by
  have pending : reader.notes.pendingSeek = some reader.prevMs := if_pos diverged
  rw [stride_plan_pending, pending]
  simp only [Plan.run]
  rw [refusal]
  rfl

theorem missed_notes
    (alone : (reader.notes.unaided operation).1.missing = true →
      (reader.notes.unaided operation).2 = reader.notes)
    (plans : (reader.notes.plan operation).Within (fun _ => true) fun result =>
      result.1.missing = true → result.2 = reader.notes)
    (missed : (reader.answer decoder operation state).missing = true) :
    (reader.perform decoder operation state).1.notes = reader.notes := by
  obtain ⟨later, unnoted, result⟩ :=
    perform_promised (fun answer later => answer.missing = true → later = reader.notes)
      alone plans decoder state
  rw [result, unnoted missed]
  rfl

/-- An operation that fails brings nothing, and notes nothing either. -/
theorem Fails.unnoted (fails : reader.Fails decoder state operation) :
    (reader.answer decoder operation state).missing = true ∧
      (reader.perform decoder operation state).1.notes = reader.notes := by
  cases fails with
  | barred step missing =>
      obtain ⟨needs, lacks, -⟩ := step_planned reader step
      have gives_up : ∀ other later after,
          reader.take decoder .sequential state = (some other, later, after) →
          ((reader.notes.plan operation).run decoder other after).1 =
            (.frame none, reader.notes) :=
        fun other later after took => nomatch missing.symm.trans (congrArg Prod.fst took)
      obtain ⟨answered, same⟩ := given_up_notes needs lacks gives_up
      exact ⟨congrArg Answer.missing answered, same⟩
  | refused step took diverged refusal =>
      obtain ⟨needs, lacks, forward, plans⟩ := step_planned reader step
      have gives_up : ∀ other later after,
          reader.take decoder .sequential state = (some other, later, after) →
          ((reader.notes.plan operation).run decoder other after).1 =
            (.frame none, reader.notes) := by
        intro other later after taken
        cases took.symm.trans taken
        rw [plans]
        exact stride_plan_refused diverged refusal
      obtain ⟨answered, same⟩ := given_up_notes needs lacks gives_up
      exact ⟨congrArg Answer.missing answered, same⟩
  | seek ms missed =>
      have missing : (reader.answer decoder (.seek ms) state).missing = true :=
        Option.isNone_iff_eq_none.mpr missed
      refine ⟨missing, missed_notes (fun _ => rfl) ⟨rfl, ?_⟩ missing⟩
      intro frame absent
      cases frame with
      | none => rfl
      | some frame => cases absent
  | frameAt ms missed =>
      have missing : (reader.answer decoder (.frameAt ms) state).missing = true :=
        Option.isNone_iff_eq_none.mpr missed
      exact ⟨missing, missed_notes (fun _ => rfl)
        ⟨rfl, fun _ _ => rfl⟩ missing⟩
  | duration missed =>
      have missing : (reader.answer decoder .duration state).missing = true :=
        Option.isNone_iff_eq_none.mpr missed
      -- A length that is known is the answer.
      have unknown : reader.knownDuration = none := by
        cases known : reader.knownDuration with
        | none => rfl
        | some length => simp [Reader.duration, known] at missed
      refine ⟨missing, missed_notes (fun _ => rfl) ⟨rfl, ?_⟩ missing⟩
      intro length absent
      cases length with
      | none => simp only [notes, unknown]
      | some length => cases absent
  | frameOffsets missed =>
      have missing : (reader.answer decoder .frameOffsets state).missing = true :=
        Option.isNone_iff_eq_none.mpr missed
      have unknown : reader.knownOffsets = none := by
        cases known : reader.knownOffsets with
        | none => rfl
        | some offsets => simp [Reader.frameOffsets, known] at missed
      refine ⟨missing, missed_notes (fun _ => rfl) ⟨rfl, ?_⟩ missing⟩
      intro offsets absent
      cases offsets with
      | none => simp only [notes, unknown]
      | some offsets => cases absent

theorem Fails.unsettled (fails : reader.Fails decoder state operation) (setting : Call) :
    reader.notes.need operation ≠ .all setting := by
  intro needs
  rcases need_all needs with ⟨on, rfl, -⟩ | ⟨width, height, rfl, -⟩ <;> cases fails with
  | barred step missing => rcases step with same | same <;> cases same
  | refused step took diverged refusal => rcases step with same | same <;> cases same

/-- Whatever the decoder does and whatever happened before: an operation that fails leaves the
position and all that is known about the clip alone, also whether and to where the next step moves
the handle. It takes no handle away and gives one to one mode at most. -/
theorem failure_undisturbed (decoder : Decoder σ H) (reader : Reader H) (state : σ)
    (operation : Operation) (fails : reader.Fails decoder state operation) :
    (reader.answer decoder operation state).missing = true ∧
      reader.Undisturbed (reader.perform decoder operation state).1 := by
  obtain ⟨missing, notes⟩ := fails.unnoted
  exact ⟨missing, .of_extends notes (perform_extends fails.unsettled)⟩

/-- The handle refuses the seek after a jump. The step after that seeks again, and goes on from
where the jump landed. -/
theorem refused_step_undisturbed :
    let tape := Tape.balky [0, 100, 200]
    let opened := (openClip tape (.probe "clip.mp4") {} ([], 1)).2
    let before := performAll tape [.nextFrame, .seek 100] opened.1 opened.2
    let after := before.1.perform tape .nextFrame before.2
    before.1.Fails tape before.2 .nextFrame ∧ before.1.Undisturbed after.1 ∧
      after.1.pendingSeek = some (some 100) ∧
      (after.1.nextFrame tape after.2).1 = some (Tape.frame 200) := by
  intro tape opened before after
  have fails : before.1.Fails tape before.2 .nextFrame :=
    .refused (.inl rfl) rfl (by decide) (by decide)
  exact ⟨fails, (failure_undisturbed tape before.1 before.2 .nextFrame fails).2, by decide,
    by decide⟩

end Reader

end Footage.Playback
