import Footage.Proofs.Playback.Faithful
import Footage.Proofs.Playback.Independence

/-!
# Interchangeable handles

What an interchangeable handle answers is decided by its settings and its position, and a lookup
by its settings and the time alone. All handles of a pair have the settings of the pair, so it
does not matter which of them a mode has taken over: only the position of the one that steps
counts.
-/

namespace Footage.Playback

set_option autoImplicit false

variable {σ H S P : Type}

/-- Only these move a handle to a position that matters afterwards. -/
def Call.steps : Call → Bool
  | .nextFrame | .prevFrame | .seek _ => true
  | _ => false

/-- What a call that changes settings does to the specification of new handles. -/
def Call.settle : Call → OpenSpec → OpenSpec
  | .setMute on, spec => { spec with options := { spec.options with audioMute := on } }
  | .setOutputSize width height, spec => { spec with width, height }
  | _, spec => spec

structure Interchangeable (S P : Type) (decoder : Decoder σ H) (path : String)
    (startMs : Int64) extends Independent (S × P) decoder path startMs where
  front : P
  /-- The settings that a specification asks for. -/
  look : OpenSpec → S
  begins : ∀ spec, begun spec = (look spec, front)
  moves : S → P → (call : Call) → call.Reply × P
  lookup : S → Int64 → Option Frame
  stepped : ∀ handle call state settings position, Live handle state → call.steps = true →
    condition handle state = (settings, position) →
    (decoder.perform handle call state).1 = (moves settings position call).1 ∧
      condition handle (decoder.perform handle call state).2 =
        (settings, (moves settings position call).2)
  /-- Settings, modes and questions about the clip move no handle. -/
  still : ∀ handle call state spec position, Live handle state → call.still = true →
    condition handle state = (look spec, position) →
    condition handle (decoder.perform handle call state).2 = (look (call.settle spec), position)
  found : ∀ handle ms state settings position, Live handle state →
    condition handle state = (settings, position) →
    (decoder.perform handle (.frameAt ms) state).1 = lookup settings ms ∧
      (condition handle (decoder.perform handle (.frameAt ms) state).2).1 = settings

def Tape.interchangeable (times : List Int64) (path : String) (startMs : Int64) :
    Interchangeable Unit Nat (Tape.decoder times) path startMs where
  Live := fun handle positions => handle < positions.length
  condition := fun handle positions => ((), positions.getD handle 0)
  begun := fun _ => ((), 0)
  front := 0
  look := fun _ => ()
  moves := fun _ position call =>
    let (reply, positions) := (Tape.decoder times).perform 0 call [position]
    (reply, positions.getD 0 0)
  lookup := fun _ ms => times[countUpTo times ms - 1]?.map Tape.frame
  begins := fun _ => rfl
  opens := by
    intro spec positions _ _
    obtain ⟨handle, opens, fresh, live, position⟩ := Tape.open_new times spec positions
    exact ⟨handle, opens, fresh, live, Prod.ext rfl position⟩
  opens_apart := by
    intro spec positions other live
    obtain ⟨still_live, position⟩ := Tape.open_apart times spec live
    exact ⟨still_live, Prod.ext rfl position⟩
  apart := by
    intro handle call positions other different live
    obtain ⟨still_live, position⟩ := Tape.perform_apart times call different live
    exact ⟨still_live, Prod.ext rfl position⟩
  stays := Tape.perform_live
  assigned := fun _ _ _ _ => rfl
  stepped := by
    intro handle call positions settings position live steps condition
    obtain ⟨-, rfl⟩ := Prod.mk.inj condition
    cases call with
    | nextFrame => exact ⟨rfl, Prod.ext rfl (Tape.position_set_self live _)⟩
    | seek after => exact ⟨rfl, Prod.ext rfl (Tape.position_set_self live _)⟩
    | prevFrame =>
        simp only [Tape.decoder, List.getD_cons_zero]
        split
        · exact ⟨rfl, Prod.ext rfl (Tape.position_set_self live _)⟩
        · exact ⟨rfl, condition⟩
    | _ => cases steps
  still := by
    intro handle call positions spec position live still condition
    cases call with
    | nextFrame => cases still
    | prevFrame => cases still
    | frameAt ms => cases still
    | seek after => cases still
    | _ => exact condition
  found := fun _ _ _ _ _ _ _ => ⟨rfl, rfl⟩

variable {decoder : Decoder σ H} {path : String} {startMs : Int64}

namespace CursorPair

/-- All handles have the settings of the pair, the first one is not used yet, and stepping goes
on from the position. -/
structure InTune (handles : Interchangeable S P decoder path startMs) (pair : CursorPair H)
    (position : P) (state : σ) : Prop where
  apart : pair.Apart handles.toIndependent state
  first : ∀ handle ∈ pair.first, handles.condition handle state = (handles.look pair.spec,
    handles.front)
  sequential : ∀ handle ∈ pair.sequential,
    handles.condition handle state = (handles.look pair.spec, position)
  unstarted : pair.sequential = none → position = handles.front
  random : ∀ handle ∈ pair.random,
    (handles.condition handle state).1 = handles.look pair.spec

variable {handles : Interchangeable S P decoder path startMs} {pair : CursorPair H} {state : σ}
  {handle : H} {position : P}

theorem InTune.offered (tuned : pair.InTune handles position state) :
    pair.offered handles.toIndependent state = (handles.look pair.spec, handles.front) := by
  unfold CursorPair.offered
  cases held : pair.first with
  | none => exact handles.begins pair.spec
  | some handle => exact tuned.first handle held

/-- A mode finds a handle in the same condition, whichever handle that is. -/
theorem take_mode_in_tune (mode : Mode) (tuned : pair.InTune handles position state) :
    ∃ handle taken after, pair.take decoder mode.slot state = (some handle, taken, after) ∧
      taken.held mode = some handle ∧ taken.spec = pair.spec ∧
      taken.InTune handles position after := by
  rcases take_apart mode tuned.apart with
    ⟨handle, held, took⟩ | ⟨handle, after, missing, took, apart, condition, others⟩
  · exact ⟨handle, pair, state, took, held, rfl, tuned⟩
  · rw [tuned.offered] at condition
    refine ⟨handle, _, after, took, held_lend, spec_lend, ?_⟩
    cases mode with
    | sequential =>
        refine ⟨apart, (fun _ impossible => nomatch impossible), ?_,
          (fun impossible => nomatch impossible), ?_⟩
        · rintro other ⟨⟩
          rw [tuned.unstarted missing]
          exact condition
        · intro other member
          rw [others other member]
          exact tuned.random other member
    | random =>
        refine ⟨apart, (fun _ impossible => nomatch impossible), ?_, tuned.unstarted, ?_⟩
        · intro other member
          rw [others other member]
          exact tuned.sequential other member
        · rintro other ⟨⟩
          exact congrArg Prod.fst condition

theorem take_in_tune (slot : Slot) (tuned : pair.InTune handles position state) :
    ∃ held taken after, pair.take decoder slot state = (held, taken, after) ∧
      taken.spec = pair.spec ∧ taken.InTune handles position after ∧
      ∀ handle, held = some handle → handle ∈ taken.handles := by
  rcases slot.any_or_mode with rfl | ⟨mode, rfl⟩
  · exact ⟨pair.anyOpen, pair, state, rfl, rfl, tuned, fun _ held => any_open_mem held⟩
  · obtain ⟨handle, taken, after, took, -, spec, kept⟩ := take_mode_in_tune mode tuned
    exact ⟨some handle, taken, after, took, spec, kept, fun _ same => take_mem (same ▸ took)⟩

theorem InTune.untouched (tuned : pair.InTune handles position state) {call : Call} {other : H}
    (member : other ∈ pair.handles) (different : other ≠ handle) :
    handles.condition other (decoder.perform handle call state).2 =
      handles.condition other state :=
  (handles.toIndependent.apart _ _ _ _ different (tuned.apart.live other member)).2

/-- A step of the stepping handle is decided by the settings of the pair and the position. -/
theorem InTune.step (tuned : pair.InTune handles position state) (call : Call)
    (steps : call.steps = true) (held : pair.sequential = some handle) :
    (decoder.perform handle call state).1 =
        (handles.moves (handles.look pair.spec) position call).1 ∧
      pair.InTune handles (handles.moves (handles.look pair.spec) position call).2
        (decoder.perform handle call state).2 := by
  have member := held_mem .sequential held
  have open_after : call ≠ .close := by
    intro same
    subst same
    cases steps
  obtain ⟨reply, condition⟩ := handles.stepped handle call state _ _
    (tuned.apart.live handle member) steps (tuned.sequential handle held)
  refine ⟨reply, tuned.apart.perform member call open_after, ?_, ?_, ?_, ?_⟩
  · intro other first
    have different : other ≠ handle := by
      intro same
      subst same
      exact tuned.apart.first_outside first (List.mem_append_left _ (Option.mem_toList.mpr held))
    rw [tuned.untouched (first_mem first) different]
    exact tuned.first other first
  · intro other same
    rw [held] at same
    cases same
    exact condition
  · intro missing
    rw [held] at missing
    cases missing
  · intro other random
    have different : other ≠ handle := by
      intro same
      subst same
      exact tuned.apart.random_ne_sequential random held
    rw [tuned.untouched (held_mem .random random) different]
    exact tuned.random other random

/-- A lookup is decided by the settings of the pair and the time, and moves no other handle than
the one that looks up. -/
theorem InTune.look_up (tuned : pair.InTune handles position state) (ms : Int64)
    (held : pair.random = some handle) :
    (decoder.perform handle (.frameAt ms) state).1 =
        handles.lookup (handles.look pair.spec) ms ∧
      pair.InTune handles position (decoder.perform handle (.frameAt ms) state).2 := by
  have member := held_mem .random held
  have settings := tuned.random handle held
  obtain ⟨reply, kept⟩ := handles.found handle ms state _ _ (tuned.apart.live handle member)
    (Prod.ext settings rfl)
  refine ⟨reply, tuned.apart.perform member _ (by simp), ?_, ?_, tuned.unstarted, ?_⟩
  · intro other first
    have different : other ≠ handle := by
      intro same
      subst same
      exact tuned.apart.first_outside first (List.mem_append_right _ (Option.mem_toList.mpr held))
    rw [tuned.untouched (first_mem first) different]
    exact tuned.first other first
  · intro other stepping
    have different : other ≠ handle := by
      intro same
      subst same
      exact tuned.apart.random_ne_sequential held stepping
    rw [tuned.untouched (held_mem .sequential stepping) different]
    exact tuned.sequential other stepping
  · intro other same
    rw [held] at same
    cases same
    exact kept

/-- A question about the clip changes nothing that counts, whichever handle is asked. -/
theorem InTune.ask (tuned : pair.InTune handles position state) (call : Call)
    (still : call.still = true) (question : ∀ spec, call.settle spec = spec)
    (member : handle ∈ pair.handles) :
    pair.InTune handles position (decoder.perform handle call state).2 := by
  have open_after : call ≠ .close := by
    intro same
    subst same
    cases still
  have kept : ∀ other ∈ pair.handles, ∀ spot,
      handles.condition other state = (handles.look pair.spec, spot) →
      handles.condition other (decoder.perform handle call state).2 =
        (handles.look pair.spec, spot) := by
    intro other listed spot condition
    by_cases same : other = handle
    · subst same
      have asked := handles.still other call state pair.spec spot
        (tuned.apart.live other listed) still condition
      rwa [question] at asked
    · rw [tuned.untouched listed same]
      exact condition
  refine ⟨tuned.apart.perform member call open_after, ?_, ?_, tuned.unstarted, ?_⟩
  · intro other first
    exact kept other (first_mem first) _ (tuned.first other first)
  · intro other stepping
    exact kept other (held_mem .sequential stepping) _ (tuned.sequential other stepping)
  · intro other random
    have whole := kept other (held_mem .random random) _ (Prod.ext (tuned.random other random) rfl)
    exact congrArg Prod.fst whole

/-- Telling all handles of a list a setting changes the settings of those in the list. -/
theorem tell_each_conditions (call : Call) (still : call.still = true) (told : List H)
    (distinct : told.Nodup) (spec : OpenSpec) (other : H) (spot : P)
    (live : ∀ handle ∈ told, handles.Live handle state) (live_other : handles.Live other state)
    (condition : handles.condition other state = (handles.look spec, spot)) :
    let after := told.foldl (fun state handle => decoder.tell handle call state) state
    handles.Live other after ∧
      (other ∈ told → handles.condition other after = (handles.look (call.settle spec), spot)) ∧
      (other ∉ told → handles.condition other after = (handles.look spec, spot)) := by
  have open_after : call ≠ .close := by
    intro same
    subst same
    cases still
  induction told generalizing state spec with
  | nil => exact ⟨live_other, fun member => absurd member (by simp), fun _ => condition⟩
  | cons handle rest ih =>
      obtain ⟨outside, others⟩ := List.nodup_cons.mp distinct
      have live_handle := live handle List.mem_cons_self
      have live_rest : ∀ listed ∈ rest,
          handles.Live listed (decoder.perform handle call state).2 := by
        intro listed member
        have different : listed ≠ handle := fun same => outside (same ▸ member)
        exact (handles.toIndependent.apart _ _ _ _ different
          (live listed (List.mem_cons_of_mem _ member))).1
      by_cases same : other = handle
      · subst same
        have settled := handles.still other call state spec spot live_other still condition
        have live_after := handles.stays other call state live_other open_after
        obtain ⟨live_last, -, kept⟩ := ih others _ live_rest live_after settled
        exact ⟨live_last, fun _ => kept outside, fun absent => absurd List.mem_cons_self absent⟩
      · obtain ⟨live_after, untouched⟩ :=
          handles.toIndependent.apart handle call state other same live_other
        obtain ⟨live_last, told, kept⟩ :=
          ih others spec live_rest live_after (untouched.trans condition)
        refine ⟨live_last, ?_, ?_⟩
        · intro member
          exact told ((List.mem_cons.mp member).resolve_left same)
        · intro absent
          exact kept fun member => absent (List.mem_cons_of_mem _ member)

theorem settle_path (call : Call) (spec : OpenSpec) : (call.settle spec).path = spec.path := by
  cases call <;> rfl

theorem settle_start (call : Call) (spec : OpenSpec) :
    (call.settle spec).startMs = spec.startMs := by
  cases call <;> rfl

/-- New settings reach all handles of a pair and its specification alike. -/
theorem InTune.settle (tuned : pair.InTune handles position state) (call : Call)
    (still : call.still = true) :
    InTune handles { pair with spec := call.settle pair.spec } position
      (pair.tellAll decoder call state) := by
  have told : ∀ other ∈ pair.handles, ∀ spot,
      handles.condition other state = (handles.look pair.spec, spot) →
      handles.Live other (pair.tellAll decoder call state) ∧
        handles.condition other (pair.tellAll decoder call state) =
          (handles.look (call.settle pair.spec), spot) := by
    intro other member spot condition
    obtain ⟨live, settled, -⟩ := tell_each_conditions call still pair.handles
      tuned.apart.distinct pair.spec other spot tuned.apart.live
      (tuned.apart.live other member) condition
    exact ⟨live, settled member⟩
  have first := fun other held =>
    told other (first_mem held) _ (tuned.first other held)
  have sequential := fun other held =>
    told other (held_mem .sequential held) _ (tuned.sequential other held)
  have random := fun other held =>
    told other (held_mem .random held) _ (Prod.ext (tuned.random other held) rfl)
  refine ⟨⟨?_, ?_, ?_, tuned.apart.distinct⟩, ?_, ?_, tuned.unstarted, ?_⟩
  · exact (settle_path call pair.spec).trans tuned.apart.path_eq
  · exact (settle_start call pair.spec).trans tuned.apart.start_eq
  · intro other member
    simp only [CursorPair.handles, List.mem_append, Option.mem_toList] at member
    rcases member with (held | held) | held
    · exact (first other held).1
    · exact (sequential other held).1
    · exact (random other held).1
  · intro other held
    exact (first other held).2
  · intro other held
    exact (sequential other held).2
  · intro other held
    exact congrArg Prod.fst (random other held).2

end CursorPair

end Footage.Playback
