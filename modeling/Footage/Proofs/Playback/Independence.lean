import Footage.Proofs.Playback.Taking

/-!
# Independent handles

Every open handle is in a condition of its own: a position, settings, or whatever else decides
its answers. New handles and calls on other handles leave that condition alone. The handles of a
pair then stay apart, whichever mode takes over the first of them and whenever the second is
opened.
-/

namespace Footage.Playback

set_option autoImplicit false

variable {σ H C : Type}

structure Independent (C : Type) (decoder : Decoder σ H) (path : String) (startMs : Int64) where
  /-- The handle is open on the clip. -/
  Live : H → σ → Prop
  condition : H → σ → C
  /-- The condition of a new handle. -/
  begun : OpenSpec → C
  opens : ∀ spec state, spec.path = path → spec.startMs = startMs →
    ∃ handle, (decoder.openClip spec state).1 = .ok handle ∧ ¬Live handle state ∧
      Live handle (decoder.openClip spec state).2 ∧
      condition handle (decoder.openClip spec state).2 = begun spec
  opens_apart : ∀ spec state other, Live other state →
    Live other (decoder.openClip spec state).2 ∧
      condition other (decoder.openClip spec state).2 = condition other state
  apart : ∀ handle call state other, other ≠ handle → Live other state →
    Live other (decoder.perform handle call state).2 ∧
      condition other (decoder.perform handle call state).2 = condition other state
  stays : ∀ handle call state, Live handle state → call ≠ .close →
    Live handle (decoder.perform handle call state).2
  assigned : ∀ handle mode state, Live handle state →
    condition handle (decoder.perform handle (.setMode mode) state).2 = condition handle state

variable {decoder : Decoder σ H} {path : String} {startMs : Int64}

namespace CursorPair

variable {pair : CursorPair H} {state : σ} {handle : H}

theorem held_taken (mode : Mode) (held : pair.held mode = some handle) :
    handle ∈ pair.sequential.toList ++ pair.random.toList := by
  cases mode with
  | sequential => exact List.mem_append_left _ (Option.mem_toList.mpr held)
  | random => exact List.mem_append_right _ (Option.mem_toList.mpr held)

theorem taken_mem (held : handle ∈ pair.sequential.toList ++ pair.random.toList) :
    handle ∈ pair.handles := by
  unfold handles
  rw [List.append_assoc]
  exact List.mem_append_right _ held

/-- The handles are open on the clip, and no two of them are the same. -/
structure Apart (independent : Independent C decoder path startMs) (pair : CursorPair H)
    (state : σ) : Prop where
  path_eq : pair.spec.path = path
  start_eq : pair.spec.startMs = startMs
  live : ∀ handle ∈ pair.handles, independent.Live handle state
  distinct : pair.handles.Nodup

/-- The condition of the handle that a mode without one gets: that of the first handle, or that
of a new one. -/
def offered (independent : Independent C decoder path startMs) (pair : CursorPair H)
    (state : σ) : C :=
  pair.first.elim (independent.begun pair.spec) fun handle => independent.condition handle state

variable {independent : Independent C decoder path startMs}

theorem Apart.first_outside (apart : pair.Apart independent state)
    (held : pair.first = some handle) :
    handle ∉ pair.sequential.toList ++ pair.random.toList := by
  have distinct := apart.distinct
  unfold handles at distinct
  rw [held, Option.toList_some, List.append_assoc] at distinct
  exact (List.nodup_cons.mp distinct).1

theorem claim_apart (mode : Mode) (apart : pair.Apart independent state) :
    ∃ handle after,
      pair.claim decoder mode state = (some handle, { pair with first := none }, after) ∧
        handle ∉ pair.sequential.toList ++ pair.random.toList ∧
        independent.Live handle after ∧
        independent.condition handle after = pair.offered independent state ∧
        ∀ other ∈ pair.sequential.toList ++ pair.random.toList,
          independent.Live other after ∧
            independent.condition other after = independent.condition other state := by
  have settled : Call.setMode mode ≠ .close := by simp
  obtain ⟨spec, first, sequential, random⟩ := pair
  cases first with
  | some handle =>
      have outside := apart.first_outside rfl
      have open_first := apart.live handle (first_mem rfl)
      refine ⟨handle, _, rfl, outside, ?_, ?_, ?_⟩
      · exact independent.stays _ _ _ open_first settled
      · exact independent.assigned _ _ _ open_first
      · intro other member
        have different : other ≠ handle := fun same => outside (same ▸ member)
        exact independent.apart _ _ _ _ different (apart.live other (taken_mem member))
  | none =>
      have live : ∀ other ∈ sequential.toList ++ random.toList,
          independent.Live other state :=
        fun other member => apart.live other (taken_mem member)
      obtain ⟨handle, opened, fresh, opens, begun⟩ :=
        independent.opens spec state apart.path_eq apart.start_eq
      have outside : handle ∉ sequential.toList ++ random.toList :=
        fun member => fresh (live handle member)
      rcases reply : decoder.openClip spec state with ⟨outcome, middle⟩
      rw [reply] at opened opens begun
      subst opened
      refine ⟨handle, decoder.tell handle (.setMode mode) middle, ?_, outside, ?_, ?_, ?_⟩
      · simp only [claim, reply]
      · exact independent.stays _ _ _ opens settled
      · exact (independent.assigned _ _ _ opens).trans begun
      · intro other member
        have different : other ≠ handle := fun same => outside (same ▸ member)
        have kept := independent.opens_apart spec state other (live other member)
        rw [reply] at kept
        have untouched := independent.apart handle (.setMode mode) middle other different kept.1
        exact ⟨untouched.1, untouched.2.trans kept.2⟩

/-- The handle of a mode is there already, or else it is taken now and that of the other mode is
left as it is. -/
theorem take_apart (mode : Mode) (apart : pair.Apart independent state) :
    (∃ handle, pair.held mode = some handle ∧
      pair.take decoder mode.slot state = (some handle, pair, state)) ∨
    ∃ handle after, pair.held mode = none ∧
      pair.take decoder mode.slot state = (some handle, pair.lend mode handle, after) ∧
      Apart independent (pair.lend mode handle) after ∧
      independent.condition handle after = pair.offered independent state ∧
      ∀ other ∈ pair.held mode.other,
        independent.condition other after = independent.condition other state := by
  cases held : pair.held mode with
  | some handle => exact .inl ⟨handle, rfl, take_held mode state held⟩
  | none =>
      obtain ⟨handle, after, claimed, outside, live, condition, others⟩ := claim_apart mode apart
      have kept (other : H) (member : other ∈ pair.held mode.other) :=
        others other (held_taken mode.other member)
      refine .inr ⟨handle, after, rfl, ?_, ⟨?_, ?_, ?_, ?_⟩, condition, ?_⟩
      · rw [take_missing mode state held, claimed]
        cases mode <;> rfl
      · exact (congrArg OpenSpec.path spec_lend).trans apart.path_eq
      · exact (congrArg OpenSpec.startMs spec_lend).trans apart.start_eq
      · intro other member
        rcases List.mem_cons.mp (handles_lend.mem_iff.mp member) with same | member
        · exact same ▸ live
        · exact (kept other (Option.mem_toList.mp member)).1
      · have fresh : handle ∉ (pair.held mode.other).toList :=
          fun member => outside (held_taken mode.other (Option.mem_toList.mp member))
        have single : (pair.held mode.other).toList.Nodup := by
          cases pair.held mode.other <;> simp
        exact handles_lend.nodup_iff.mpr (List.nodup_cons.mpr ⟨fresh, single⟩)
      · exact fun other member => (kept other member).2

theorem Apart.random_ne_sequential (apart : pair.Apart independent state)
    (held : pair.random = some handle) : pair.sequential ≠ some handle := by
  intro same
  have twice : [handle, handle].Sublist pair.handles := by
    unfold handles
    rw [held, same, List.append_assoc]
    exact List.sublist_append_right _ _
  have distinct := apart.distinct.sublist twice
  simp at distinct

theorem Apart.perform (apart : pair.Apart independent state) (member : handle ∈ pair.handles)
    (call : Call) (open_after : call ≠ .close) :
    pair.Apart independent (decoder.perform handle call state).2 := by
  refine ⟨apart.path_eq, apart.start_eq, ?_, apart.distinct⟩
  intro other listed
  by_cases same : other = handle
  · subst same
    exact independent.stays _ _ _ (apart.live other member) open_after
  · exact (independent.apart _ _ _ _ same (apart.live other listed)).1

theorem tell_all_keeps (kept : σ → Prop) (call : Call) (holds : kept state)
    (each : ∀ handle ∈ pair.handles, ∀ state, kept state →
      kept (decoder.perform handle call state).2) :
    kept (pair.tellAll decoder call state) := by
  unfold tellAll
  generalize pair.handles = told at each
  induction told generalizing state with
  | nil => exact holds
  | cons handle rest ih =>
      rw [List.foldl_cons]
      apply ih
      · exact each handle List.mem_cons_self state holds
      · intro other member
        exact each other (List.mem_cons_of_mem _ member)

end CursorPair

end Footage.Playback
