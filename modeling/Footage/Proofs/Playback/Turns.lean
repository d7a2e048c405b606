import Footage.Proofs.Playback.Lifespan
import Mathlib.Logic.Relation

/-!
# What an operation does to the position

Lookups, questions about the clip and settings take handles, ask them and look up frames, but
leave the noted times alone and call nothing that moves the stepping handle. Besides them there
are jumps, new positions from outside, and steps; a step moves the stepping handle first where the
noted times differ, and does nothing more when the handle refuses. What all of these keep is kept
by every run.
-/

namespace Footage.Playback

set_option autoImplicit false

variable {σ H : Type}

/-- One thing done with the handles of a clip that leaves the stepping handle where it is. -/
inductive Quiet (decoder : Decoder σ H) :
    Option (CursorPair H) × σ → Option (CursorPair H) × σ → Prop where
  | take {pair taken : CursorPair H} {found : Option H} {state after : σ} (slot : Slot)
      (took : pair.take decoder slot state = (found, taken, after)) :
      Quiet decoder (some pair, state) (some taken, after)
  | ask {pair : CursorPair H} {state : σ} {handle : H} (call : Call)
      (member : handle ∈ pair.handles) (still : call.still = true) :
      Quiet decoder (some pair, state) (some pair, (decoder.perform handle call state).2)
  | look {pair : CursorPair H} {state : σ} {handle : H} (ms : Int64)
      (held : pair.random = some handle) :
      Quiet decoder (some pair, state) (some pair, (decoder.perform handle (.frameAt ms) state).2)
  | respec {pair : CursorPair H} {state : σ} (spec : OpenSpec)
      (path_eq : spec.path = pair.spec.path) (start_eq : spec.startMs = pair.spec.startMs) :
      Quiet decoder (some pair, state) (some { pair with spec }, state)

variable {decoder : Decoder σ H}

namespace CursorPair

variable {pair taken : CursorPair H} {found : Option H} {state after : σ}

theorem tell_all_quiet (decoder : Decoder σ H) (call : Call) (still : call.still = true)
    (pair : CursorPair H) (state : σ) :
    Relation.ReflTransGen (Quiet decoder) (some pair, state)
      (some pair, pair.tellAll decoder call state) := by
  apply tell_all_keeps fun reached =>
    Relation.ReflTransGen (Quiet decoder) (some pair, state) (some pair, reached)
  · exact .refl
  · intro handle member reached quiet
    exact quiet.tail (.ask call member still)

end CursorPair

theorem Quiet.stepping {before after : Option (CursorPair H) × σ} {handle : H}
    (quiet : Quiet decoder before after)
    (held : before.1.bind CursorPair.sequential = some handle) :
    after.1.bind CursorPair.sequential = some handle := by
  cases quiet with
  | take slot took => exact CursorPair.take_keeps .sequential held took
  | ask call member still => exact held
  | look ms found => exact held
  | respec spec path_eq start_eq => exact held

namespace Reader

def stepping (reader : Reader H) : Option H := reader.pair.bind CursorPair.sequential

/-- The operation moves the stepping handle, unless it refuses to be moved. A reader that is done
does not step forward. -/
def steps (reader : Reader H) : Operation → Bool
  | .nextFrame => !reader.done
  | .prevFrame => true
  | _ => false

def repositions (decoder : Decoder σ H) (reader : Reader H) (state : σ) : Operation → Bool
  | .seek ms => (reader.seek decoder ms state).1.isSome
  | .setPrevMs _ => true
  | _ => false

structure Rests (decoder : Decoder σ H) (reader : Reader H) (state : σ) (after : Reader H)
    (reached : σ) : Prop where
  quiet : Relation.ReflTransGen (Quiet decoder) (reader.pair, state) (after.pair, reached)
  firstMs : after.firstMs = reader.firstMs
  prevMs : after.prevMs = reader.prevMs
  cursorMs : after.cursorMs = reader.cursorMs
  forceReseek : after.forceReseek = reader.forceReseek
  done : after.done = reader.done

/-- The stepping handle was moved to where the next step starts, or stood there already. -/
inductive Resynced (decoder : Decoder σ H) (handle : H) (reader : Reader H) (state : σ) :
    Reader H → σ → Prop where
  | agreed (agrees : reader.diverged = false) : Resynced decoder handle reader state reader state
  | sought {reached : σ} (diverged : reader.diverged = true)
      (accepted : decoder.perform handle (.seek reader.prevMs) state = (true, reached)) :
      Resynced decoder handle reader state
        { reader with cursorMs := reader.prevMs, forceReseek := false } reached

def stepCall (decoder : Decoder σ H) (forward : Bool) (handle : H) (state : σ) :
    Option Frame × σ :=
  if forward then decoder.perform handle .nextFrame state
  else decoder.perform handle .prevFrame state

inductive Strides (decoder : Decoder σ H) (forward : Bool) (reader : Reader H) (state : σ) :
    Option Frame × Reader H × σ → Prop where
  /-- There is no stepping handle, and none can be opened. -/
  | barred {later : Reader H} {reached : σ} (rests : reader.Rests decoder state later reached)
      (took : reader.take decoder .sequential state = (none, later, reached)) :
      Strides decoder forward reader state (none, later, reached)
  | refused {later : Reader H} {between reached : σ} {handle : H}
      (rests : reader.Rests decoder state later between) (held : later.stepping = some handle)
      (diverged : later.diverged = true)
      (refusal : decoder.perform handle (.seek later.prevMs) between = (false, reached)) :
      Strides decoder forward reader state (none, later, reached)
  | made {later ready : Reader H} {between before reached : σ} {handle : H}
      {frame : Option Frame} (rests : reader.Rests decoder state later between)
      (held : later.stepping = some handle)
      (resynced : later.Resynced decoder handle between ready before)
      (called : stepCall decoder forward handle before = (frame, reached)) :
      Strides decoder forward reader state (frame, ready.stepped forward frame, reached)

def settled (forward : Bool) (frame : Option Frame) (reader : Reader H) : Reader H :=
  if !forward && frame.isSome then { reader with done := false } else reader

/-- The ways in which an operation can go, by what it does to the position. -/
inductive Turns (decoder : Decoder σ H) (reader : Reader H) (state : σ) :
    Operation → Reader H × σ → Prop where
  | rested {operation : Operation} {after : Reader H} {reached : σ}
      (rests : reader.Rests decoder state after reached)
      (stays : reader.steps operation = false)
      (kept : reader.repositions decoder state operation = false) :
      Turns decoder reader state operation (after, reached)
  | finished : Turns decoder reader state .markDone (reader.markDone, state)
  | jumped {ms : Int64} {frame : Frame} {later : Reader H} {reached : σ}
      (found : (reader.seek decoder ms state).1 = some frame)
      (rests : reader.Rests decoder state later reached) :
      Turns decoder reader state (.seek ms)
        ({ later with prevMs := some frame.ms, done := false }, reached)
  | placed (ms : Option Int64) :
      Turns decoder reader state (.setPrevMs ms) (reader.setPrevMs ms, state)
  | stepped {operation : Operation} {frame : Option Frame} {after : Reader H} {reached : σ}
      (forward : Bool) (way : operation = if forward then .nextFrame else .prevFrame)
      (undone : forward = true → reader.done = false)
      (strides : reader.Strides decoder forward state (frame, after, reached)) :
      Turns decoder reader state operation (after.settled forward frame, reached)

variable {reader later after : Reader H} {state between reached : σ} {found : Option H}
  {handle : H}

theorem Rests.refl (decoder : Decoder σ H) (reader : Reader H) (state : σ) :
    reader.Rests decoder state reader state :=
  ⟨.refl, rfl, rfl, rfl, rfl, rfl⟩

theorem Rests.diverged (rests : reader.Rests decoder state later reached) :
    later.diverged = reader.diverged := by
  simp only [Reader.diverged, rests.forceReseek, rests.prevMs, rests.cursorMs]

theorem Rests.keeps (kept : Option (CursorPair H) × σ → Prop)
    (rests : reader.Rests decoder state later reached)
    (steady : ∀ {before after}, Quiet decoder before after → kept before → kept after)
    (begun : kept (reader.pair, state)) : kept (later.pair, reached) := by
  have quiet := rests.quiet
  generalize (later.pair, reached) = last at quiet
  induction quiet with
  | refl => exact begun
  | tail _ final ih => exact steady final ih

theorem Rests.stepping (rests : reader.Rests decoder state later reached)
    (held : reader.stepping = some handle) : later.stepping = some handle := by
  let kept (whole : Option (CursorPair H) × σ) : Prop :=
    whole.1.bind CursorPair.sequential = some handle
  exact rests.keeps kept Quiet.stepping held

theorem take_rests {slot : Slot}
    (took : reader.take decoder slot state = (found, later, reached)) :
    reader.Rests decoder state later reached ∧
      ∀ handle, found = some handle → ∃ pair taken, reader.pair = some pair ∧
        pair.take decoder slot state = (some handle, taken, reached) ∧
        later.pair = some taken := by
  unfold Reader.take at took
  cases holds : reader.pair with
  | none =>
      rw [holds] at took
      cases took
      exact ⟨.refl _ _ _, fun _ impossible => nomatch impossible⟩
  | some pair =>
      rw [holds] at took
      rcases inner : pair.take decoder slot state with ⟨handle, taken, after⟩
      simp only [inner] at took
      cases took
      have quiet := Relation.ReflTransGen.single (Quiet.take slot inner)
      rw [← holds] at quiet
      refine ⟨⟨quiet, rfl, rfl, rfl, rfl, rfl⟩, ?_⟩
      intro handle same
      subst same
      exact ⟨pair, taken, rfl, inner, rfl⟩

theorem take_stepping
    (took : reader.take decoder .sequential state = (some handle, later, reached)) :
    later.stepping = some handle := by
  obtain ⟨pair, taken, -, inner, holds⟩ := (take_rests took).2 handle rfl
  simp only [stepping, holds, Option.bind_some]
  exact CursorPair.take_holds .sequential inner

theorem Rests.tail {pair : CursorPair H} (rests : reader.Rests decoder state later between)
    (holds : later.pair = some pair)
    (last : Quiet decoder (some pair, between) (some pair, reached)) :
    reader.Rests decoder state later reached := by
  rw [← holds] at last
  exact { rests with quiet := rests.quiet.tail last }

theorem ask_rests (decoder : Decoder σ H) (slot : Slot) (call : Call) (still : call.still = true)
    (reader : Reader H) (state : σ) :
    reader.Rests decoder state (reader.ask decoder slot call state).2.1
      (reader.ask decoder slot call state).2.2 := by
  unfold ask
  rcases took : reader.take decoder slot state with ⟨found, taken, after⟩
  obtain ⟨rests, members⟩ := take_rests took
  cases found with
  | none => exact rests
  | some handle =>
      obtain ⟨pair, last, -, inner, holds⟩ := members handle rfl
      exact rests.tail holds (.ask call (CursorPair.take_mem inner) still)

theorem frame_at_rests (decoder : Decoder σ H) (ms : Int64) (reader : Reader H) (state : σ) :
    reader.Rests decoder state (reader.ask decoder .random (.frameAt ms) state).2.1
      (reader.ask decoder .random (.frameAt ms) state).2.2 := by
  unfold ask
  rcases took : reader.take decoder .random state with ⟨found, taken, after⟩
  obtain ⟨rests, members⟩ := take_rests took
  cases found with
  | none => exact rests
  | some handle =>
      obtain ⟨pair, last, -, inner, holds⟩ := members handle rfl
      exact rests.tail holds (.look ms (CursorPair.take_holds .random inner))

/-- New settings are told to all handles that are open, and kept for those opened later. -/
theorem settle_rests {pair : CursorPair H} (decoder : Decoder σ H) (call : Call)
    (still : call.still = true) (state : σ) (spec : OpenSpec) (path_eq : spec.path = pair.spec.path)
    (start_eq : spec.startMs = pair.spec.startMs) (holds : reader.pair = some pair) :
    reader.Rests decoder state { reader with pair := some { pair with spec } }
      (pair.tellAll decoder call state) := by
  have told := (CursorPair.tell_all_quiet decoder call still pair state).tail
    (.respec spec path_eq start_eq)
  rw [← holds] at told
  exact ⟨told, rfl, rfl, rfl, rfl, rfl⟩

theorem resync_moves {moved : Bool}
    (synced : later.resync decoder handle between = (moved, after, reached)) :
    (moved = true ∧ later.Resynced decoder handle between after reached) ∨
      (moved = false ∧ after = later ∧ later.diverged = true ∧
        decoder.perform handle (.seek later.prevMs) between = (false, reached)) := by
  unfold resync at synced
  split at synced
  · rename_i diverged
    rcases sought : decoder.perform handle (.seek later.prevMs) between with ⟨accepted, moved_to⟩
    rw [sought] at synced
    cases accepted with
    | true =>
        cases synced
        exact .inl ⟨rfl, .sought diverged sought⟩
    | false =>
        cases synced
        exact .inr ⟨rfl, rfl, diverged, rfl⟩
  · rename_i agrees
    cases synced
    exact .inl ⟨rfl, .agreed (Bool.eq_false_iff.mpr agrees)⟩

theorem Resynced.agrees (resynced : later.Resynced decoder handle between after reached) :
    after.diverged = false := by
  cases resynced with
  | agreed agrees => exact agrees
  | sought diverged accepted => simp [Reader.diverged]

theorem step_strides (decoder : Decoder σ H) (forward : Bool) (reader : Reader H) (state : σ) :
    reader.Strides decoder forward state (reader.step decoder forward state) := by
  unfold step
  rcases took : reader.take decoder .sequential state with ⟨found, later, between⟩
  obtain ⟨rests, -⟩ := take_rests took
  cases found with
  | none => exact .barred rests took
  | some handle =>
      have held := take_stepping took
      rcases synced : later.resync decoder handle between with ⟨moved, ready, before⟩
      rcases resync_moves synced with ⟨rfl, resynced⟩ | ⟨rfl, rfl, diverged, refusal⟩
      · rcases called : stepCall decoder forward handle before with ⟨frame, reached⟩
        have calls : (if forward then decoder.perform handle .nextFrame before
            else decoder.perform handle .prevFrame before) = (frame, reached) := called
        simp only [synced, calls]
        exact .made rests held resynced called
      · simp only [synced]
        exact .refused rests held diverged refusal

theorem seek_turns (decoder : Decoder σ H) (ms : Int64) (reader : Reader H) (state : σ) :
    reader.Turns decoder state (.seek ms) (reader.seek decoder ms state).2 := by
  have rests := frame_at_rests decoder ms reader state
  rcases asked : reader.ask decoder .random (.frameAt ms) state with ⟨reply, later, reached⟩
  rw [asked] at rests
  cases found : reply.join with
  | some frame =>
      have jumped : reader.seek decoder ms state =
          (some frame, { later with prevMs := some frame.ms, done := false }, reached) := by
        simp only [seek, frameAt, asked, found]
      rw [jumped]
      exact .jumped (congrArg Prod.fst jumped) rests
  | none =>
      have missed : reader.seek decoder ms state = (none, later, reached) := by
        simp only [seek, frameAt, asked, found]
      rw [missed]
      refine .rested rests rfl ?_
      simp only [repositions, missed, Option.isSome_none]

/-- Every operation goes in one of these ways, also where no clip is open. -/
theorem perform_turns (decoder : Decoder σ H) (operation : Operation) (reader : Reader H)
    (state : σ) :
    reader.Turns decoder state operation (reader.perform decoder operation state) := by
  cases operation with
  | nextFrame =>
      simp only [perform, nextFrame]
      split
      · rename_i done
        exact .rested (.refl _ _ _) (by simp [steps, done]) rfl
      · rename_i undone
        exact .stepped true rfl (fun _ => Bool.eq_false_iff.mpr undone)
          (step_strides decoder true reader state)
  | prevFrame =>
      simp only [perform, prevFrame]
      exact .stepped false rfl (fun impossible => absurd impossible Bool.false_ne_true)
        (step_strides decoder false reader state)
  | seek ms => exact seek_turns decoder ms reader state
  | frameAt ms => exact .rested (frame_at_rests decoder ms reader state) rfl rfl
  | setPrevMs ms => exact .placed ms
  | markDone => exact .finished
  | duration =>
      simp only [perform, duration]
      split
      · exact .rested (.refl _ _ _) rfl rfl
      · have rests := ask_rests decoder .any .duration rfl reader state
        exact .rested { rests with } rfl rfl
  | frameOffsets =>
      simp only [perform, frameOffsets]
      split
      · exact .rested (.refl _ _ _) rfl rfl
      · have rests := ask_rests decoder .random .frameOffsets rfl reader state
        exact .rested { rests with } rfl rfl
  | nextFrameOffset =>
      exact .rested (ask_rests decoder .sequential .nextFrameOffset rfl reader state) rfl rfl
  | hasAudio => exact .rested (ask_rests decoder .any .hasAudio rfl reader state) rfl rfl
  | inputSize => exact .rested (ask_rests decoder .any .inputSize rfl reader state) rfl rfl
  | setMute on =>
      simp only [perform, setMute]
      split
      · rename_i pair holds
        have rests := settle_rests decoder (.setMute on) rfl state
          { pair.spec with options := { pair.spec.options with audioMute := on } } rfl rfl holds
        exact .rested { rests with } rfl rfl
      · exact .rested { Rests.refl decoder reader state with } rfl rfl
  | setOutputSize width height =>
      simp only [perform, setOutputSize]
      split
      · rename_i pair holds
        have rests := settle_rests decoder (.setOutputSize width height) rfl state
          { pair.spec with width, height } rfl rfl holds
        exact .rested { rests with } rfl rfl
      · exact .rested { Rests.refl decoder reader state with } rfl rfl

end Reader

end Footage.Playback
