import Footage.Proofs.Playback.Faithful
import Footage.Proofs.Playback.Independence

/-!
# The handles of a pair

The two modes of a pair never share a handle, so looking up frames does not move the handle that
steps. Whatever mode takes over the first handle, a handle that is opened later is a new one.
-/

namespace Footage.Playback

set_option autoImplicit false

variable {σ H : Type} {decoder : Decoder σ H} {path : String} {startMs : Int64}

/-- The condition of a handle is where it stands. -/
def Faithful.independent (faithful : Faithful decoder path startMs) :
    Independent Nat decoder path startMs where
  Live := faithful.Live
  condition := faithful.position
  begun := fun _ => 0
  opens := faithful.opens
  opens_apart := faithful.opens_apart
  apart := faithful.apart
  stays := faithful.stays
  assigned := fun handle mode state live => faithful.still handle (.setMode mode) state live rfl

namespace CursorPair

structure Sound (faithful : Faithful decoder path startMs) (pair : CursorPair H) (state : σ) :
    Prop where
  path_eq : pair.spec.path = path
  start_eq : pair.spec.startMs = startMs
  live : ∀ handle ∈ pair.handles, faithful.Live handle state
  distinct : pair.handles.Nodup

/-- If a time is noted for the stepping handle, that is where it stands. -/
def Stands (faithful : Faithful decoder path startMs) (pair : CursorPair H)
    (cursorMs : Option Int64) (state : σ) : Prop :=
  ∀ ms, cursorMs = some ms → ∃ handle, pair.sequential = some handle ∧
    faithful.position handle state = countUpTo faithful.times ms

variable {faithful : Faithful decoder path startMs} {pair : CursorPair H} {state : σ}
  {handle : H} {cursorMs : Option Int64}

theorem Sound.apart (sound : pair.Sound faithful state) :
    pair.Apart faithful.independent state :=
  ⟨sound.path_eq, sound.start_eq, sound.live, sound.distinct⟩

theorem Apart.sound (apart : pair.Apart faithful.independent state) :
    pair.Sound faithful state :=
  ⟨apart.path_eq, apart.start_eq, apart.live, apart.distinct⟩

/-- There always is a handle for a mode, and taking it moves no handle for which a time is noted:
where the one for stepping is new, there is none yet. -/
theorem take_mode_sound (mode : Mode) (sound : pair.Sound faithful state) :
    ∃ handle taken after, pair.take decoder mode.slot state = (some handle, taken, after) ∧
      taken.held mode = some handle ∧ taken.Sound faithful after ∧
      ∀ cursorMs, pair.Stands faithful cursorMs state →
        taken.Stands faithful cursorMs after := by
  rcases take_apart mode sound.apart with
    ⟨handle, held, took⟩ | ⟨handle, after, missing, took, apart, -, others⟩
  · exact ⟨handle, pair, state, took, held, sound, fun _ stands => stands⟩
  · refine ⟨handle, _, after, took, held_lend, apart.sound, ?_⟩
    intro cursorMs stands ms noted
    obtain ⟨stepping, held, position⟩ := stands ms noted
    cases mode with
    | sequential => cases missing.symm.trans held
    | random => exact ⟨stepping, held, (others stepping held).trans position⟩

theorem Sound.random_ne_sequential (sound : pair.Sound faithful state)
    (held : pair.random = some handle) : pair.sequential ≠ some handle :=
  sound.apart.random_ne_sequential held

theorem take_sound (slot : Slot) (sound : pair.Sound faithful state) :
    ∃ held taken after, pair.take decoder slot state = (held, taken, after) ∧
      taken.Sound faithful after ∧
      (∀ cursorMs, pair.Stands faithful cursorMs state →
        taken.Stands faithful cursorMs after) ∧
      ∀ handle, held = some handle → handle ∈ taken.handles := by
  rcases slot.any_or_mode with rfl | ⟨mode, rfl⟩
  · exact ⟨pair.anyOpen, pair, state, rfl, sound, fun _ stands => stands,
      fun _ held => any_open_mem held⟩
  · obtain ⟨handle, taken, after, took, -, kept, stands⟩ := take_mode_sound mode sound
    exact ⟨some handle, taken, after, took, kept, stands, fun _ same => take_mem (same ▸ took)⟩

theorem Sound.perform (sound : pair.Sound faithful state) (member : handle ∈ pair.handles)
    (call : Call) (open_after : call ≠ .close) :
    pair.Sound faithful (decoder.perform handle call state).2 :=
  (sound.apart.perform member call open_after).sound

theorem Sound.perform_stands (sound : pair.Sound faithful state)
    (stands : pair.Stands faithful cursorMs state) (call : Call)
    (unmoved : call.still = true ∨ pair.sequential ≠ some handle) :
    pair.Stands faithful cursorMs (decoder.perform handle call state).2 := by
  intro ms noted
  obtain ⟨stepping, held, position⟩ := stands ms noted
  have live := sound.live stepping (held_mem .sequential held)
  refine ⟨stepping, held, ?_⟩
  by_cases same : stepping = handle
  · subst same
    rcases unmoved with still | other
    · rw [faithful.still _ _ _ live still, position]
    · exact absurd held other
  · rw [(faithful.apart _ _ _ _ same live).2, position]

theorem still_open {call : Call} (still : call.still = true) : call ≠ .close := by
  intro same
  subst same
  cases still

end CursorPair

end Footage.Playback
