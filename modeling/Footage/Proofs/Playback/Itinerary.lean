import Footage.Proofs.Playback.Turns

/-!
# The motions of the stepping handle

A decoder can be tracked: steps and seeks on its handles are noted beside its state, the seeks
with their replies, and a reader over it notes when its position is set anew. The motions of a run
then show in one order what moved the handle and what gave occasion to it. One operation adds at
most a seek and a step, and which of them it adds is decided by whether the noted times differ.
-/

namespace Footage.Playback

set_option autoImplicit false

/-- What bears on where the stepping handle stands. -/
inductive Motion (H : Type) where
  /-- The handle was asked for the frame after or before. -/
  | stepped (handle : H)
  /-- The handle was asked to seek, and did or refused to. -/
  | sought (handle : H) (accepted : Bool)
  /-- A jump found a frame, or a position was set from outside. -/
  | repositioned
deriving DecidableEq, Repr

section Histories

variable {α : Type}

/-- Something of one kind happened, and nothing of the other kind since. -/
def Since (begins ends : α → Prop) (events : List α) : Prop :=
  ∃ earlier event later, events = earlier ++ event :: later ∧ begins event ∧
    ∀ other ∈ later, ¬ends other

/-- Everything that happened was allowed after what had happened before. -/
def Always (allowed : List α → α → Prop) (events : List α) : Prop :=
  ∀ before event after, events = before ++ event :: after → allowed before event

variable {begins ends : α → Prop} {allowed : List α → α → Prop} {events : List α} {event : α}

theorem snoc_eq_split {before after : List α} {other : α} :
    events ++ [event] = before ++ other :: after ↔
      (before = events ∧ other = event ∧ after = []) ∨
        ∃ front, after = front ++ [event] ∧ events = before ++ other :: front := by
  constructor
  · intro split
    rcases List.eq_nil_or_concat after with rfl | ⟨front, final, rfl⟩
    · obtain ⟨same, last⟩ := List.append_inj' split rfl
      cases last
      exact .inl ⟨same.symm, rfl, rfl⟩
    · rw [List.concat_eq_append] at split ⊢
      rw [← List.cons_append, ← List.append_assoc] at split
      obtain ⟨same, last⟩ := List.append_inj' split rfl
      cases last
      exact .inr ⟨front, rfl, same⟩
  · rintro (⟨rfl, rfl, rfl⟩ | ⟨front, rfl, rfl⟩)
    · rfl
    · rw [List.append_assoc, List.cons_append]

theorem not_since_nil : ¬Since begins ends ([] : List α) := by
  rintro ⟨earlier, event, later, split, -⟩
  exact absurd split (by simp)

theorem since_snoc :
    Since begins ends (events ++ [event]) ↔
      begins event ∨ (¬ends event ∧ Since begins ends events) := by
  constructor
  · rintro ⟨earlier, first, later, split, begun, unended⟩
    rcases snoc_eq_split.mp split with ⟨-, rfl, -⟩ | ⟨front, rfl, before⟩
    · exact .inl begun
    · rw [List.forall_mem_append] at unended
      exact .inr ⟨unended.2 event List.mem_cons_self, earlier, first, front, before, begun,
        unended.1⟩
  · rintro (begun | ⟨unended, earlier, first, later, rfl, begun, others⟩)
    · exact ⟨events, event, [], rfl, begun, fun _ member => nomatch member⟩
    · refine ⟨earlier, first, later ++ [event], by simp, begun, ?_⟩
      exact List.forall_mem_append.mpr ⟨others, List.forall_mem_singleton.mpr unended⟩

theorem always_nil : Always allowed ([] : List α) := by
  intro before event after split
  exact absurd split (by simp)

theorem always_snoc :
    Always allowed (events ++ [event]) ↔ Always allowed events ∧ allowed events event := by
  constructor
  · intro always
    refine ⟨?_, always events event [] rfl⟩
    intro before other after split
    exact always before other (after ++ [event]) (snoc_eq_split.mpr (.inr ⟨after, rfl, split⟩))
  · rintro ⟨always, last⟩ before other after split
    rcases snoc_eq_split.mp split with ⟨rfl, rfl, -⟩ | ⟨front, -, earlier⟩
    · exact last
    · exact always before other front earlier

end Histories

variable {σ H : Type}

namespace Motion

def made (handle : H) : (call : Call) → call.Reply → List (Motion H)
  | .nextFrame, _ => [.stepped handle]
  | .prevFrame, _ => [.stepped handle]
  | .seek _, accepted => [.sought handle accepted]
  | _, _ => []

theorem made_still {call : Call} (handle : H) (reply : call.Reply) (still : call.still = true) :
    made handle call reply = [] := by
  cases call <;> first | rfl | cases still

def handle? : Motion H → Option H
  | .stepped handle => some handle
  | .sought handle _ => some handle
  | .repositioned => none

end Motion

def Notebook.motions : Notebook H H (List (Motion H)) := .listed (fun _ => []) Motion.made

def Decoder.tracked (decoder : Decoder σ H) : Decoder (σ × List (Motion H)) H :=
  decoder.noting .motions

namespace Reader

def track (decoder : Decoder σ H) (operation : Operation) (reader : Reader H)
    (state : σ × List (Motion H)) : Reader H × σ × List (Motion H) :=
  let (after, reached, motions) := reader.perform decoder.tracked operation state
  (after, reached,
    if reader.repositions decoder.tracked state operation then motions ++ [.repositioned]
    else motions)

def trackAll (decoder : Decoder σ H) :
    List Operation → Reader H → σ × List (Motion H) → Reader H × σ × List (Motion H)
  | [], reader, state => (reader, state)
  | operation :: rest, reader, state =>
      let (after, reached) := reader.track decoder operation state
      trackAll decoder rest after reached

end Reader

variable {decoder : Decoder σ H}

theorem Quiet.motions {before after : Option (CursorPair H) × σ × List (Motion H)}
    (quiet : Quiet decoder.tracked before after) : after.2.2 = before.2.2 := by
  have asked (handle : H) (call : Call) (still : call.still = true)
      (state : σ × List (Motion H)) :
      (decoder.tracked.perform handle call state).2.2 = state.2 := by
    refine (congrArg (state.2 ++ ·) (Motion.made_still _ _ still)).trans ?_
    exact List.append_nil _
  have opened {spec : OpenSpec} {outcome : Except ClipError H}
      {state reached : σ × List (Motion H)}
      (opens : decoder.tracked.openClip spec state = (outcome, reached)) :
      reached.2 = state.2 := (Decoder.noting_open opens).trans (List.append_nil _)
  cases quiet with
  | take slot took =>
      cases CursorPair.take_takes took with
      | any => rfl
      | held _ => rfl
      | @first mode handle _ _ => exact asked handle (.setMode mode) rfl _
      | @opened mode handle _ _ _ opens =>
          exact (asked handle (.setMode mode) rfl _).trans (opened opens)
      | refused _ _ refuses => exact opened refuses
  | ask call member still => exact asked _ call still _
  | look ms held => exact List.append_nil _
  | respec spec path_eq start_eq => rfl

namespace Reader

variable {reader later : Reader H} {state reached : σ × List (Motion H)}

theorem Rests.motions (rests : reader.Rests decoder.tracked state later reached) :
    reached.2 = state.2 := by
  let kept (whole : Option (CursorPair H) × σ × List (Motion H)) : Prop := whole.2.2 = state.2
  exact rests.keeps kept (fun quiet same => quiet.motions.trans same) rfl

theorem track_all_plain (operations : List Operation) (reader : Reader H)
    (state : σ × List (Motion H)) :
    ((reader.trackAll decoder operations state).1, (reader.trackAll decoder operations state).2.1) =
      performAll decoder operations reader state.1 := by
  induction operations generalizing reader state with
  | nil => rfl
  | cons operation rest ih =>
      have same : Prod.map id Prod.fst (reader.perform decoder.tracked operation state) =
          reader.perform decoder operation state.1 :=
        perform_all_project_id (decoder.noting_projects .motions) [operation] reader state
      have further := ih (reader.track decoder operation state).1
        (reader.track decoder operation state).2
      simp only [performAll, ← same]
      exact further

/-- The motions that one operation adds, with what it leaves of the difference between the noted
times. -/
inductive Adds (decoder : Decoder σ H) (reader : Reader H) (state : σ × List (Motion H))
    (operation : Operation) (after : Reader H) : List (Motion H) → Prop where
  | rested (stays : reader.steps operation = false) (same : after.diverged = reader.diverged) :
      Adds decoder reader state operation after []
  | barred (missing : reader.stepping = none) (same : after.diverged = reader.diverged) :
      Adds decoder reader state operation after []
  | jumped {ms : Int64} {frame : Frame} (jump : operation = .seek ms)
      (found : (reader.seek decoder.tracked ms state).1 = some frame)
      (prevMs : after.prevMs = some frame.ms) (cursorMs : after.cursorMs = reader.cursorMs)
      (forceReseek : after.forceReseek = reader.forceReseek) :
      Adds decoder reader state operation after [.repositioned]
  | placed {ms : Option Int64} (set : operation = .setPrevMs ms)
      (diverged : after.diverged = true) :
      Adds decoder reader state operation after [.repositioned]
  | refused {handle : H} (held : after.stepping = some handle)
      (diverged : reader.diverged = true) (still : after.diverged = true)
      (refusal : ∃ before, (decoder.perform handle (.seek reader.prevMs) before).1 = false) :
      Adds decoder reader state operation after [.sought handle false]
  | stepped {handle : H} (held : after.stepping = some handle)
      (steps : reader.steps operation = true) (agreed : reader.diverged = false)
      (agrees : after.diverged = false) :
      Adds decoder reader state operation after [.stepped handle]
  | resynced {handle : H} (held : after.stepping = some handle)
      (diverged : reader.diverged = true) (agrees : after.diverged = false) :
      Adds decoder reader state operation after [.sought handle true, .stepped handle]

theorem settled_alike (forward : Bool) (frame : Option Frame) (reader : Reader H) :
    (reader.settled forward frame).stepping = reader.stepping ∧
      (reader.settled forward frame).diverged = reader.diverged := by
  unfold settled
  split <;> exact ⟨rfl, rfl⟩

theorem stepped_agrees (forward : Bool) (frame : Option Frame) (agrees : reader.diverged = false) :
    (reader.stepped forward frame).diverged = false := by
  simp [diverged, stepped, (not_diverged agrees).1]

theorem tracked_seek {handle : H} {after : Option Int64} {reply : Bool}
    (asked : decoder.tracked.perform handle (.seek after) state = (reply, reached)) :
    (decoder.perform handle (.seek after) state.1).1 = reply ∧
      reached.2 = state.2 ++ [.sought handle reply] := by
  cases asked
  exact ⟨rfl, rfl⟩

theorem tracked_step {handle : H} {forward : Bool} {frame : Option Frame}
    (called : stepCall decoder.tracked forward handle state = (frame, reached)) :
    reached.2 = state.2 ++ [.stepped handle] := by
  cases forward <;> cases called <;> rfl

theorem stepping_of_barred {τ G : Type} {decoder : Decoder τ G} {reader later : Reader G}
    {state reached : τ}
    (took : reader.take decoder .sequential state = (none, later, reached)) :
    reader.stepping = none := by
  cases holds : reader.pair with
  | none => simp only [stepping, holds, Option.bind_none]
  | some pair =>
      cases held : pair.sequential with
      | none => simp only [stepping, holds, Option.bind_some, held]
      | some handle =>
          have kept : pair.take decoder .sequential state = (some handle, pair, state) :=
            CursorPair.take_held .sequential state held
          rw [take_eq holds kept] at took
          cases took

/-- A step adds nothing, a seek that is refused, a step, or a seek and a step. -/
theorem strides_adds {operation : Operation} {forward : Bool} {frame : Option Frame}
    (steps : reader.steps operation = true)
    (strides : reader.Strides decoder.tracked forward state (frame, later, reached)) :
    ∃ added, reached.2 = state.2 ++ added ∧
      Adds decoder reader state operation (later.settled forward frame) added ∧
      ∀ handle, reader.stepping = some handle →
        (later.settled forward frame).stepping = some handle := by
  obtain ⟨same_handle, same_times⟩ := settled_alike forward frame later
  rw [same_handle]
  cases strides with
  | barred rests took =>
      refine ⟨[], by rw [rests.motions, List.append_nil], ?_, fun _ => rests.stepping⟩
      exact .barred (stepping_of_barred took) (same_times.trans rests.diverged)
  | @refused _ between _ handle rests held diverged refusal =>
      obtain ⟨reply, motions⟩ := tracked_seek refusal
      rw [rests.prevMs] at reply
      refine ⟨[.sought handle false], by rw [motions, rests.motions], ?_,
        fun _ => rests.stepping⟩
      exact .refused (same_handle.trans held) (rests.diverged ▸ diverged)
        (same_times.trans diverged) ⟨between.1, reply⟩
  | @made _ ready between before _ handle _ rests held resynced called =>
      have agrees : (ready.stepped forward frame).diverged = false :=
        stepped_agrees forward frame resynced.agrees
      have motions := tracked_step called
      cases resynced with
      | agreed agreed =>
          refine ⟨[.stepped handle], by rw [motions, rests.motions], ?_,
            fun _ => rests.stepping⟩
          exact .stepped (same_handle.trans held) steps (rests.diverged.symm.trans agreed)
            (same_times.trans agrees)
      | sought diverged accepted =>
          -- The seek is noted before the step that it makes ready.
          have sought := (tracked_seek accepted).2
          refine ⟨[.sought handle true, .stepped handle], ?_, ?_, fun _ => rests.stepping⟩
          · rw [motions, sought, rests.motions, List.append_assoc, List.singleton_append]
          · exact .resynced (same_handle.trans held) (rests.diverged ▸ diverged)
              (same_times.trans agrees)

/-- Every operation adds some of these motions, and keeps a stepping handle. -/
theorem track_adds (decoder : Decoder σ H) (operation : Operation) (reader : Reader H)
    (state : σ × List (Motion H)) :
    ∃ added, (reader.track decoder operation state).2.2 = state.2 ++ added ∧
      Adds decoder reader state operation (reader.track decoder operation state).1 added ∧
      ∀ handle, reader.stepping = some handle →
        (reader.track decoder operation state).1.stepping = some handle := by
  have turns := perform_turns decoder.tracked operation reader state
  unfold track
  generalize reader.perform decoder.tracked operation state = outcome at turns ⊢
  cases turns with
  | rested rests stays kept =>
      simp only [kept, Bool.false_eq_true, if_false]
      refine ⟨[], by rw [rests.motions, List.append_nil], ?_, fun _ => rests.stepping⟩
      exact .rested stays rests.diverged
  | finished => exact ⟨[], (List.append_nil _).symm, .rested rfl rfl, fun _ held => held⟩
  | @jumped ms frame later _ found rests =>
      have kept : reader.repositions decoder.tracked state (.seek ms) = true := by
        simp only [repositions, found, Option.isSome_some]
      simp only [kept, if_true]
      refine ⟨[.repositioned], by rw [rests.motions], ?_, fun _ => rests.stepping⟩
      exact .jumped rfl found rfl rests.cursorMs rests.forceReseek
  | placed ms =>
      refine ⟨[.repositioned], rfl, ?_, fun _ held => held⟩
      exact .placed rfl rfl
  | stepped forward way undone strides =>
      have steps : reader.steps operation = true := by
        subst way
        cases forward with
        | true => simp [Reader.steps, undone rfl]
        | false => rfl
      have kept : reader.repositions decoder.tracked state operation = false := by
        subst way
        cases forward <;> rfl
      simp only [kept, Bool.false_eq_true, if_false]
      exact strides_adds steps strides

theorem open_clip_agrees (decoder : Decoder σ H) (spec : OpenSpec) (reader : Reader H) (state : σ) :
    (reader.openClip decoder spec state).2.1.diverged = false := by
  simp only [openClip, CursorPair.openClip]
  rcases decoder.openClip spec (reader.close decoder state).2 with ⟨outcome, after⟩
  cases outcome <;> rfl

theorem track_all_keeps (kept : Reader H → List (Motion H) → Prop)
    (operations : List Operation)
    (steady : ∀ operation ∈ operations, ∀ (reader : Reader H) (state : σ × List (Motion H)),
      kept reader state.2 →
        kept (reader.track decoder operation state).1 (reader.track decoder operation state).2.2)
    (begun : kept reader state.2) :
    kept (reader.trackAll decoder operations state).1
      (reader.trackAll decoder operations state).2.2 := by
  induction operations generalizing reader state with
  | nil => exact begun
  | cons operation rest ih =>
      rw [List.forall_mem_cons] at steady
      exact ih steady.2 (steady.1 reader state begun)

theorem track_all_snoc (operations : List Operation) (operation : Operation) (reader : Reader H)
    (state : σ × List (Motion H)) :
    reader.trackAll decoder (operations ++ [operation]) state =
      (reader.trackAll decoder operations state).1.track decoder operation
        (reader.trackAll decoder operations state).2 := by
  induction operations generalizing reader state with
  | nil => rfl
  | cons first rest ih =>
      exact ih (reader.track decoder first state).1 (reader.track decoder first state).2

def Owns (reader : Reader H) (motions : List (Motion H)) : Prop :=
  ∀ motion ∈ motions, ∀ handle, motion.handle? = some handle → reader.stepping = some handle

theorem Adds.owns {operation : Operation} {after : Reader H} {added : List (Motion H)}
    (adds : reader.Adds decoder state operation after added) : after.Owns added := by
  have alone {motion : Motion H} (only : ∀ handle, motion.handle? = some handle →
      after.stepping = some handle) : after.Owns [motion] :=
    List.forall_mem_singleton.mpr only
  have mine {handle : H} (held : after.stepping = some handle) (other : H)
      (same : some handle = some other) : after.stepping = some other := held.trans same
  cases adds with
  | rested => exact fun _ member => nomatch member
  | barred => exact fun _ member => nomatch member
  | jumped => exact alone fun _ impossible => nomatch impossible
  | placed => exact alone fun _ impossible => nomatch impossible
  | refused held => exact alone (mine held)
  | stepped held => exact alone (mine held)
  | resynced held => exact List.forall_mem_cons.mpr ⟨mine held, alone (mine held)⟩

theorem track_owns (decoder : Decoder σ H) (operation : Operation) (reader : Reader H)
    (state : σ × List (Motion H)) (owns : reader.Owns state.2) :
    (reader.track decoder operation state).1.Owns (reader.track decoder operation state).2.2 := by
  obtain ⟨added, motions, adds, keeps⟩ := track_adds decoder operation reader state
  rw [motions]
  refine List.forall_mem_append.mpr ⟨?_, adds.owns⟩
  intro motion member handle moved
  exact keeps handle (owns motion member handle moved)

theorem owns_nil (reader : Reader H) : reader.Owns [] :=
  fun _ member => nomatch member

end Reader

end Footage.Playback
