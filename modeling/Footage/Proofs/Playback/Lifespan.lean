import Footage.Proofs.Playback.Watching

/-!
# From the first call on a handle to its close

Over a watched decoder that may refuse any clip and leave any question unanswered, the handles of
a pair are exactly those that were opened since its clip was: one, or two once both modes have
been asked for. The first of them serves the mode that was asked for first. A handle learns its
mode once and before it is moved, and closing it is the last call on it.
-/

namespace Footage.Playback

set_option autoImplicit false

variable {σ H : Type} {decoder : Decoder σ H}

namespace Call

/-- The call moves a handle, or leaves it at a position that is not defined. -/
def moves : Call → Bool
  | .nextFrame | .prevFrame | .seek _ | .frameAt _ => true
  | _ => false

/-- The call neither assigns a handle to a mode nor closes it. -/
def keeps : Call → Bool
  | .setMode _ | .close => false
  | _ => true

end Call

/-- What was called on a handle that is open, and the mode that it was assigned to. -/
inductive Living : Option Mode → List Call → Prop where
  | unassigned {calls : List Call} (early : ∀ call ∈ calls, call.keeps ∧ ¬call.moves) :
      Living none calls
  | assigned {before after : List Call} (mode : Mode)
      (early : ∀ call ∈ before, call.keeps ∧ ¬call.moves) (late : ∀ call ∈ after, call.keeps) :
      Living (some mode) (before ++ .setMode mode :: after)

/-- What was called on a handle that was closed in the end. -/
inductive Spent : List Call → Prop where
  | closed {mode : Option Mode} {calls : List Call} (living : Living mode calls) :
      Spent (calls ++ [.close])

namespace Living

variable {calls : List Call} {call : Call} {mode : Mode}

theorem fresh : Living none [] :=
  .unassigned fun _ member => nomatch member

theorem wait (living : Living none calls) (keeps : call.keeps = true)
    (still : call.moves = false) : Living none (calls ++ [call]) := by
  cases living with
  | unassigned early =>
      refine .unassigned (List.forall_mem_append.mpr ⟨early, ?_⟩)
      exact List.forall_mem_singleton.mpr ⟨keeps, Bool.not_eq_true _ ▸ still⟩

theorem assign (living : Living none calls) (mode : Mode) :
    Living (some mode) (calls ++ [.setMode mode]) := by
  cases living with
  | unassigned early => exact .assigned mode early (fun _ member => nomatch member)

theorem work (living : Living (some mode) calls) (keeps : call.keeps = true) :
    Living (some mode) (calls ++ [call]) := by
  cases living with
  | assigned _ early late =>
      rw [List.append_assoc]
      refine .assigned mode early (List.forall_mem_append.mpr ⟨late, ?_⟩)
      exact List.forall_mem_singleton.mpr keeps

end Living

namespace CursorPair

variable {pair : CursorPair H} {spec : OpenSpec} {own other : Option H} {handle : H}

/-- The pair of a clip where this mode was the first to be asked for. -/
def devoted (spec : OpenSpec) (mode : Mode) (own other : Option H) : CursorPair H :=
  match mode with
  | .sequential => ⟨spec, none, own, other⟩
  | .random => ⟨spec, none, other, own⟩

theorem mem_devoted (mode : Mode) :
    handle ∈ (devoted spec mode own other).handles ↔ own = some handle ∨ other = some handle := by
  cases mode with
  | sequential => simp [devoted, handles]
  | random => simp [devoted, handles, or_comm]

theorem devoted_first (mode : Mode) : (devoted spec mode own other).first = none := by
  cases mode <;> rfl

theorem devoted_spec (mode : Mode) : (devoted spec mode own other).spec = spec := by
  cases mode <;> rfl

theorem respec_devoted (mode : Mode) (later : OpenSpec) :
    { devoted spec mode own other with spec := later } = devoted later mode own other := by
  cases mode <;> rfl

theorem held_own (mode : Mode) : (devoted spec mode own other).held mode = own := by
  cases mode <;> rfl

theorem held_other (mode : Mode) : (devoted spec mode own other).held mode.other = other := by
  cases mode <;> rfl

theorem take_other (mode : Mode) (state : σ) :
    (devoted spec mode own none).take decoder mode.other.slot state =
      match decoder.openClip spec state with
      | (.ok handle, state) =>
          (some handle, devoted spec mode own (some handle),
            decoder.tell handle (.setMode mode.other) state)
      | (.error _, state) => (none, devoted spec mode own none, state) := by
  rw [take_missing mode.other state (held_other mode)]
  simp only [claim, devoted_first, devoted_spec]
  rcases decoder.openClip spec state with ⟨outcome, after⟩
  cases outcome <;> cases mode <;> rfl

end CursorPair

/-- A pair holds all handles opened since its clip was, which came after those of the past, while
these modes were asked for. -/
inductive Holding (past : List (List Call)) :
    List Mode → CursorPair (Nat × H) → List (List Call) → Prop where
  | unclaimed {spec : OpenSpec} {handle : H} {calls : List Call} (living : Living none calls) :
      Holding past [] ⟨spec, some (past.length, handle), none, none⟩ (past ++ [calls])
  | single {spec : OpenSpec} {handle : H} {calls : List Call} {wanted : List Mode} (mode : Mode)
      (living : Living (some mode) calls) (first : wanted.head? = some mode) :
      Holding past wanted (.devoted spec mode (some (past.length, handle)) none)
        (past ++ [calls])
  | double {spec : OpenSpec} {handle another : H} {calls later : List Call} {wanted : List Mode}
      (mode : Mode) (living : Living (some mode) calls) (first : wanted.head? = some mode)
      (second : Living (some mode.other) later) (both : mode.other ∈ wanted) :
      Holding past wanted
        (.devoted spec mode (some (past.length, handle)) (some (past.length + 1, another)))
        (past ++ [calls, later])

namespace Holding

variable {past histories : List (List Call)} {wanted : List Mode}
  {pair : CursorPair (Nat × H)} {handle : Nat × H}

theorem modify_own (past own : List (List Call)) (number : Nat) (change : List Call → List Call) :
    (past ++ own).modify (past.length + number) change = past ++ own.modify number change :=
  List.modifyTailIdx_add _ number past own

/-- A call on a handle of the pair is noted among those of that handle. -/
theorem note (call : Call) (member : handle ∈ pair.handles) (keeps : call.keeps = true)
    (assigned : call.moves = true → pair.first = none)
    (holding : Holding past wanted pair histories) :
    Holding past wanted pair (histories.modify handle.1 (· ++ [call])) := by
  cases holding with
  | unclaimed living =>
      have same : handle.1 = past.length + 0 := by
        simp only [CursorPair.handles, Option.toList_some, Option.toList_none,
          List.append_nil, List.mem_singleton] at member
        rw [member, Nat.add_zero]
      rw [same, modify_own]
      refine .unclaimed (living.wait keeps ?_)
      cases moves : call.moves with
      | false => rfl
      | true => cases assigned moves
  | single mode living first =>
      rcases (CursorPair.mem_devoted mode).mp member with own | other
      · cases own
        exact modify_own past _ 0 _ ▸ .single mode (living.work keeps) first
      · cases other
  | double mode living first second both =>
      rcases (CursorPair.mem_devoted mode).mp member with own | other
      · cases own
        exact modify_own past _ 0 _ ▸ .double mode (living.work keeps) first second both
      · cases other
        exact modify_own past _ 1 _ ▸ .double mode living first (second.work keeps) both

theorem respec (spec : OpenSpec) (holding : Holding past wanted pair histories) :
    Holding past wanted { pair with spec } histories := by
  cases holding with
  | unclaimed living => exact .unclaimed living
  | single mode living first =>
      rw [CursorPair.respec_devoted]
      exact .single mode living first
  | double mode living first second both =>
      rw [CursorPair.respec_devoted]
      exact .double mode living first second both

theorem again (wish : Mode) (claimed : pair.first = none)
    (holding : Holding past wanted pair histories) :
    Holding past (wanted ++ [wish]) pair histories := by
  cases holding with
  | unclaimed living => cases claimed
  | single mode living first => exact .single mode living (by simp [first])
  | double mode living first second both =>
      exact .double mode living (by simp [first]) second (List.mem_append_left _ both)

theorem claimed (mode : Mode) (found : pair.held mode = some handle)
    (holding : Holding past wanted pair histories) : pair.first = none := by
  cases holding with
  | unclaimed living => cases mode <;> cases found
  | single mode living first => exact CursorPair.devoted_first mode
  | double mode living first second both => exact CursorPair.devoted_first mode

/-- The first handle goes to the mode that is asked for first, and the other mode gets one of its
own as soon as the decoder opens one. -/
theorem take (decoder : Decoder σ H) (wish : Mode) (state : σ)
    (holding : Holding past wanted pair histories) :
    ∃ found taken after,
      pair.take decoder.watched wish.slot (state, histories) = (found, taken, after) ∧
        Holding past (wanted ++ [wish]) taken after.2 ∧ taken.held wish = found ∧
        taken.first = none := by
  cases served : pair.held wish with
  | some handle =>
      have first := holding.claimed wish served
      exact ⟨_, _, _, CursorPair.take_held wish _ served, holding.again wish first, served, first⟩
  | none =>
      cases holding with
      | @unclaimed spec handle calls living =>
          have claimed : Holding past ([] ++ [wish])
              (.devoted spec wish (some (past.length, handle)) none)
              ((past ++ [calls]).modify past.length (· ++ [.setMode wish])) :=
            modify_own past [calls] 0 _ ▸ .single wish (living.assign wish) rfl
          cases wish with
          | sequential => exact ⟨_, _, _, rfl, claimed, rfl, rfl⟩
          | random => exact ⟨_, _, _, rfl, claimed, rfl, rfl⟩
      | @single spec handle calls _ mode living first =>
          -- The mode that was first has its handle, so the wish is for the other one.
          rcases wish.eq_or_other mode with rfl | rfl
          · rw [CursorPair.held_own] at served
            cases served
          · rw [CursorPair.take_other]
            have asked : (wanted ++ [mode.other]).head? = some mode := by simp [first]
            rcases opens : decoder.watched.openClip spec (state, past ++ [calls]) with
              ⟨outcome, after⟩
            cases outcome with
            | error cause =>
                have noted : after.2 = past ++ [calls] := Decoder.noting_open opens
                refine ⟨none, _, after, rfl, ?_, CursorPair.held_other mode,
                  CursorPair.devoted_first mode⟩
                rw [noted]
                exact .single mode living asked
            | ok named =>
                have number : (past ++ [calls]).length = past.length + 1 := by simp
                obtain ⟨another, rfl⟩ : ∃ another, named = (past.length + 1, another) := by
                  obtain ⟨own, same⟩ := Decoder.noting_name opens
                  exact ⟨own, same.trans (Prod.ext number rfl)⟩
                have noted : after.2 = past ++ ([calls] ++ [[]]) :=
                  (Decoder.noting_open opens).trans (List.append_assoc _ _ _)
                have both : Holding past (wanted ++ [mode.other])
                    (.devoted spec mode (some (past.length, handle)) (some (past.length + 1, another)))
                    (after.2.modify (past.length + 1) (· ++ [.setMode mode.other])) := by
                  rw [noted, modify_own]
                  exact .double mode living asked (Living.fresh.assign mode.other) (by simp)
                exact ⟨_, _, _, rfl, both, CursorPair.held_other mode,
                  CursorPair.devoted_first mode⟩
      | double mode living first second both =>
          rcases wish.eq_or_other mode with rfl | rfl
          · rw [CursorPair.held_own] at served
            cases served
          · rw [CursorPair.held_other] at served
            cases served

theorem close (decoder : Decoder σ H) (state : σ)
    (holding : Holding past wanted pair histories) :
    ∃ own, (pair.close decoder.watched (state, histories)).2.2 = past ++ own ∧
      ∀ calls ∈ own, Spent calls := by
  cases holding with
  | @unclaimed spec handle calls living =>
      exact ⟨_, modify_own past [calls] 0 _, List.forall_mem_singleton.mpr (.closed living)⟩
  | @single spec handle calls _ mode living first =>
      refine ⟨[calls ++ [.close]], ?_, List.forall_mem_singleton.mpr (.closed living)⟩
      cases mode <;> exact modify_own past [calls] 0 _
  | @double spec handle another calls later _ mode living first second both =>
      refine ⟨[calls ++ [.close], later ++ [.close]], ?_, ?_⟩
      · have left := modify_own past [calls, later] 0 (· ++ [.close])
        have right := modify_own past [calls, later] 1 (· ++ [.close])
        cases mode with
        | sequential =>
            refine (congrArg (List.modify · (past.length + 1) (· ++ [.close])) left).trans ?_
            exact modify_own past _ 1 _
        | random =>
            refine (congrArg (List.modify · past.length (· ++ [.close])) right).trans ?_
            exact modify_own past _ 0 _
      · exact List.forall_mem_cons.mpr
          ⟨.closed living, List.forall_mem_singleton.mpr (.closed second)⟩

theorem own (holding : Holding past wanted pair histories) :
    ∃ first rest, histories = past ++ first :: rest ∧ Living wanted.head? first ∧
      rest.length ≤ 1 ∧
      ∀ second ∈ rest, ∃ mode ∈ wanted, wanted.head? ≠ some mode ∧ Living (some mode) second := by
  cases holding with
  | unclaimed living =>
      exact ⟨_, [], rfl, living, Nat.zero_le 1, fun _ member => nomatch member⟩
  | single mode living first =>
      exact ⟨_, [], rfl, first ▸ living, Nat.zero_le 1, fun _ member => nomatch member⟩
  | double mode living first second both =>
      refine ⟨_, [_], rfl, first ▸ living, Nat.le_refl 1, ?_⟩
      refine List.forall_mem_singleton.mpr ⟨mode.other, both, ?_, second⟩
      rw [first]
      cases mode <;> simp [Mode.other]

end Holding

end Footage.Playback
