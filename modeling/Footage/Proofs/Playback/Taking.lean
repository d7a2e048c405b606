import Footage.Playback.Reader

/-!
# Taking a handle

A mode keeps the handle that it has. A mode without one takes over the first handle of the clip,
or else a new one is opened for it, which can be refused. Both modes take handles in the same
ways, so everything about a take is stated once, for any mode.
-/

namespace Footage.Playback

set_option autoImplicit false

variable {σ H : Type}

def Mode.other : Mode → Mode
  | .sequential => .random
  | .random => .sequential

theorem Mode.eq_or_other (wish mode : Mode) : wish = mode ∨ wish = mode.other := by
  cases wish <;> cases mode <;> simp [Mode.other]

def Mode.slot : Mode → Slot
  | .sequential => .sequential
  | .random => .random

theorem Slot.any_or_mode (slot : Slot) : slot = .any ∨ ∃ mode : Mode, slot = mode.slot := by
  cases slot with
  | any => exact .inl rfl
  | sequential => exact .inr ⟨.sequential, rfl⟩
  | random => exact .inr ⟨.random, rfl⟩

namespace CursorPair

def held (pair : CursorPair H) : Mode → Option H
  | .sequential => pair.sequential
  | .random => pair.random

def give (mode : Mode) (found : Option H) (pair : CursorPair H) : CursorPair H :=
  match mode with
  | .sequential => { pair with sequential := found }
  | .random => { pair with random := found }

/-- The pair with a handle for the mode, in place of the first one. -/
def lend (mode : Mode) (handle : H) (pair : CursorPair H) : CursorPair H :=
  match mode with
  | .sequential => { pair with first := none, sequential := some handle }
  | .random => { pair with first := none, random := some handle }

/-- The ways in which a handle is taken. -/
inductive Takes (decoder : Decoder σ H) (pair : CursorPair H) (state : σ) :
    Slot → Option H → CursorPair H → σ → Prop where
  | any : Takes decoder pair state .any pair.anyOpen pair state
  | held {mode : Mode} {handle : H} (held : pair.held mode = some handle) :
      Takes decoder pair state mode.slot (some handle) pair state
  /-- The mode takes over the first handle. -/
  | first {mode : Mode} {handle : H} (missing : pair.held mode = none)
      (free : pair.first = some handle) :
      Takes decoder pair state mode.slot (some handle) (pair.lend mode handle)
        (decoder.tell handle (.setMode mode) state)
  /-- The first handle is taken, and the mode gets a new one. -/
  | opened {mode : Mode} {handle : H} {after : σ} (missing : pair.held mode = none)
      (taken : pair.first = none)
      (opens : decoder.openClip pair.spec state = (.ok handle, after)) :
      Takes decoder pair state mode.slot (some handle) (pair.lend mode handle)
        (decoder.tell handle (.setMode mode) after)
  | refused {mode : Mode} {cause : ClipError} {after : σ} (missing : pair.held mode = none)
      (taken : pair.first = none)
      (refuses : decoder.openClip pair.spec state = (.error cause, after)) :
      Takes decoder pair state mode.slot none pair after

section Members

variable {pair : CursorPair H} {mode one : Mode} {handle another : H}

theorem mem_handles :
    handle ∈ pair.handles ↔ pair.first = some handle ∨ ∃ mode, pair.held mode = some handle := by
  have modes : (∃ mode, pair.held mode = some handle) ↔
      pair.sequential = some handle ∨ pair.random = some handle := by
    constructor
    · rintro ⟨_ | _, held⟩
      · exact .inl held
      · exact .inr held
    · rintro (held | held)
      · exact ⟨.sequential, held⟩
      · exact ⟨.random, held⟩
  rw [modes]
  simp [handles]

theorem first_mem (free : pair.first = some handle) : handle ∈ pair.handles :=
  mem_handles.mpr (.inl free)

theorem held_mem (mode : Mode) (held : pair.held mode = some handle) : handle ∈ pair.handles :=
  mem_handles.mpr (.inr ⟨mode, held⟩)

theorem any_open_mem (found : pair.anyOpen = some handle) : handle ∈ pair.handles := by
  unfold anyOpen at found
  rcases Option.or_eq_some_iff.mp found with held | ⟨-, found⟩
  · exact held_mem .sequential held
  · rcases Option.or_eq_some_iff.mp found with held | ⟨-, free⟩
    · exact held_mem .random held
    · exact first_mem free

theorem held_lend : (pair.lend mode handle).held mode = some handle := by
  cases mode <;> rfl

theorem held_lend_other (different : one ≠ mode) :
    (pair.lend mode handle).held one = pair.held one := by
  cases mode <;> cases one <;> first | rfl | exact absurd rfl different

theorem spec_lend : (pair.lend mode handle).spec = pair.spec := by
  cases mode <;> rfl

theorem held_give {found : Option H} : (pair.give mode found).held mode = found := by
  cases mode <;> rfl

theorem first_give {found : Option H} : (pair.give mode found).first = pair.first := by
  cases mode <;> rfl

theorem first_lend : (pair.lend mode handle).first = none := by
  cases mode <;> rfl

theorem held_lend_missing (missing : pair.held mode = none)
    (held : pair.held one = some another) :
    (pair.lend mode handle).held one = some another := by
  have different : one ≠ mode := by
    rintro rfl
    cases missing.symm.trans held
  exact (held_lend_other different).trans held

/-- Lending a handle to a mode that has none adds that handle, in place of the first one. -/
theorem mem_lend (missing : pair.held mode = none) :
    another ∈ (pair.lend mode handle).handles ↔
      another = handle ∨ ∃ mode, pair.held mode = some another := by
  rw [mem_handles, first_lend]
  constructor
  · rintro (impossible | ⟨one, held⟩)
    · cases impossible
    · by_cases same : one = mode
      · subst same
        rw [held_lend] at held
        exact .inl (Option.some.inj held).symm
      · rw [held_lend_other same] at held
        exact .inr ⟨one, held⟩
  · rintro (rfl | ⟨one, held⟩)
    · exact .inr ⟨mode, held_lend⟩
    · exact .inr ⟨one, held_lend_missing missing held⟩

theorem handles_lend :
    (pair.lend mode handle).handles.Perm (handle :: (pair.held mode.other).toList) := by
  cases mode with
  | sequential => exact .refl _
  | random => exact List.perm_append_singleton handle _

end Members

section Takes

variable {decoder : Decoder σ H} {pair taken : CursorPair H} {found : Option H} {state after : σ}
  {slot : Slot} {mode : Mode} {handle : H}

theorem take_held (mode : Mode) (state : σ) (holds : pair.held mode = some handle) :
    pair.take decoder mode.slot state = (some handle, pair, state) := by
  cases mode with
  | sequential => simp [take, Mode.slot, takeSequential, show pair.sequential = _ from holds]
  | random => simp [take, Mode.slot, takeRandom, show pair.random = _ from holds]

theorem take_missing (mode : Mode) (state : σ) (missing : pair.held mode = none) :
    pair.take decoder mode.slot state =
      let (claimed, left, after) := pair.claim decoder mode state
      (claimed, left.give mode claimed, after) := by
  cases mode with
  | sequential => simp only [take, Mode.slot, takeSequential, show pair.sequential = _ from missing,
      give]
  | random => simp only [take, Mode.slot, takeRandom, show pair.random = _ from missing, give]

theorem claim_takes {left : CursorPair H} (missing : pair.held mode = none)
    (claims : pair.claim decoder mode state = (found, left, after)) :
    pair.Takes decoder state mode.slot found (left.give mode found) after := by
  obtain ⟨spec, first, sequential, random⟩ := pair
  unfold claim at claims
  cases first with
  | some handle =>
      cases claims
      cases mode <;> exact .first missing rfl
  | none =>
      rcases opens : decoder.openClip spec state with ⟨outcome, reached⟩
      simp only [opens] at claims
      cases outcome with
      | ok handle =>
          cases claims
          cases mode <;> exact .opened missing rfl opens
      | error cause =>
          cases claims
          -- A mode that had nothing and is given nothing leaves the pair as it was.
          have same : give mode none ⟨spec, none, sequential, random⟩ =
              ⟨spec, none, sequential, random⟩ := by
            cases mode <;> cases missing <;> rfl
          rw [same]
          exact .refused missing rfl opens

theorem take_takes (took : pair.take decoder slot state = (found, taken, after)) :
    pair.Takes decoder state slot found taken after := by
  rcases slot.any_or_mode with rfl | ⟨mode, rfl⟩
  · cases took
    exact .any
  · cases held : pair.held mode with
    | some handle =>
        rw [take_held mode state held] at took
        cases took
        exact .held held
    | none =>
        rw [take_missing mode state held] at took
        cases took
        exact claim_takes held rfl

theorem take_holds (mode : Mode)
    (took : pair.take decoder mode.slot state = (found, taken, after)) :
    taken.held mode = found := by
  cases held : pair.held mode with
  | some handle =>
      rw [take_held mode state held] at took
      cases took
      exact held
  | none =>
      rw [take_missing mode state held] at took
      cases took
      exact held_give

theorem take_mem (took : pair.take decoder slot state = (some handle, taken, after)) :
    handle ∈ taken.handles := by
  rcases slot.any_or_mode with rfl | ⟨mode, rfl⟩
  · obtain ⟨found, rest⟩ := Prod.mk.inj took
    cases rest
    exact any_open_mem found
  · exact held_mem mode (take_holds mode took)

theorem take_keeps (mode : Mode) (held : pair.held mode = some handle)
    (took : pair.take decoder slot state = (found, taken, after)) :
    taken.held mode = some handle := by
  cases take_takes took with
  | any => exact held
  | held _ => exact held
  | first missing _ => exact held_lend_missing missing held
  | opened missing _ _ => exact held_lend_missing missing held
  | refused _ _ _ => exact held

end Takes

end CursorPair

end Footage.Playback
