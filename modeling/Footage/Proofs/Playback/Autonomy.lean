import Footage.Proofs.Playback.Plans

/-!
# Nothing is left of an earlier clip

Some decoders decide by the specification alone whether they open a handle and how that handle
will answer. Over such a decoder two readers that have noted the same, and whose modes have
handles in the same conditions, cannot be told apart, whatever else happened before. A clip that
was just opened is such a case: the reader behaves as a new one does.
-/

namespace Footage.Playback

set_option autoImplicit false

variable {σ H C : Type}

/-- Every open handle is in a condition that decides its answers and changes with the calls on
that handle alone; it begins as the specification says. -/
structure Autonomous (C : Type) (decoder : Decoder σ H) where
  Live : H → σ → Prop
  condition : H → σ → C
  /-- The condition of a new handle; none where the decoder refuses. -/
  begun : OpenSpec → Option C
  react : C → (call : Call) → call.Reply × C
  opens : ∀ spec state start, begun spec = some start →
    ∃ handle, (decoder.openClip spec state).1 = .ok handle ∧ ¬Live handle state ∧
      Live handle (decoder.openClip spec state).2 ∧
      condition handle (decoder.openClip spec state).2 = start
  refuses : ∀ spec state, begun spec = none →
    ∃ cause, (decoder.openClip spec state).1 = .error cause
  opens_apart : ∀ spec state other, Live other state →
    Live other (decoder.openClip spec state).2 ∧
      condition other (decoder.openClip spec state).2 = condition other state
  apart : ∀ handle call state other, other ≠ handle → Live other state →
    Live other (decoder.perform handle call state).2 ∧
      condition other (decoder.perform handle call state).2 = condition other state
  reacts : ∀ handle call state, Live handle state → call ≠ .close →
    (decoder.perform handle call state).1 = (react (condition handle state) call).1 ∧
      Live handle (decoder.perform handle call state).2 ∧
      condition handle (decoder.perform handle call state).2 =
        (react (condition handle state) call).2

def Tape.autonomous (times : List Int64) : Autonomous Nat (Tape.decoder times) where
  Live := fun handle positions => handle < positions.length
  condition := fun handle positions => positions.getD handle 0
  begun := fun _ => some 0
  react := fun position call =>
    let (reply, positions) := (Tape.decoder times).perform 0 call [position]
    (reply, positions.getD 0 0)
  opens := by
    intro spec positions start begun
    cases begun
    exact open_new times spec positions
  refuses := fun _ _ refused => nomatch refused
  opens_apart := fun spec _ _ live => open_apart times spec live
  apart := fun _ call _ _ different live => perform_apart times call different live
  reacts := by
    intro handle call positions live opens
    refine ⟨?_, perform_live handle call positions live opens, ?_⟩
    · cases call with
      | prevFrame =>
          simp only [decoder, List.getD_cons_zero]
          split <;> rfl
      | _ => rfl
    · cases call with
      | nextFrame => exact position_set_self live _
      | frameAt ms => exact position_set_self live _
      | seek after => exact position_set_self live _
      | prevFrame =>
          simp only [decoder, List.getD_cons_zero]
          split
          · exact position_set_self live _
          · rfl
      | _ => rfl

def Request.answer (decoder : Decoder σ H) (reader : Reader H) (state : σ) : Request → Answer
  | .openClip spec => .verdict (reader.openClip decoder spec state).1
  | .close => .nothing
  | .operate operation => reader.answer decoder operation state

def Slot.mode? : Slot → Option Mode
  | .sequential => some .sequential
  | .random => some .random
  | .any => none

theorem mode_slot (mode : Mode) : mode.slot.mode? = some mode := by
  cases mode <;> rfl

namespace CursorPair

def seat (pair : CursorPair H) : Option Mode → Option H
  | none => pair.first
  | some mode => pair.held mode

def seats : List (Option Mode) := [none, some .sequential, some .random]

theorem handles_seats (pair : CursorPair H) : pair.handles = seats.filterMap pair.seat := by
  obtain ⟨spec, first, sequential, random⟩ := pair
  cases first <;> cases sequential <;> cases random <;> rfl

theorem seat_lend (mode : Mode) (handle : H) (pair : CursorPair H) (place : Option Mode) :
    (pair.lend mode handle).seat place =
      if place = some mode then some handle else if place = none then none
        else pair.seat place := by
  cases mode <;> cases place with
  | none => rfl
  | some other => cases other <;> rfl

/-- After a handle was lent it sits in one place, and what sits elsewhere did so before. -/
theorem seated_lend {mode : Mode} {handle other : H} {pair : CursorPair H} {place : Option Mode}
    (seated : (pair.lend mode handle).seat place = some other) :
    (place = some mode ∧ other = handle) ∨
      ∃ another, place = some another ∧ pair.held another = some other := by
  rw [seat_lend] at seated
  split at seated
  · rename_i same
    exact .inl ⟨same, (Option.some.inj seated).symm⟩
  · split at seated
    · cases seated
    · rename_i belongs
      obtain ⟨another, rfl⟩ := Option.ne_none_iff_exists'.mp belongs
      exact .inr ⟨another, rfl, seated⟩

variable {decoder : Decoder σ H} (autonomous : Autonomous C decoder)

structure Own (pair : CursorPair H) (state : σ) : Prop where
  live : ∀ {place handle}, pair.seat place = some handle → autonomous.Live handle state
  apart : ∀ {place other handle}, pair.seat place = some handle →
    pair.seat other = some handle → place = other

def look (pair : CursorPair H) (state : σ) (place : Option Mode) : Option C :=
  (pair.seat place).map (autonomous.condition · state)

end CursorPair

namespace Autonomous

def place (slot : Slot) (look : Option Mode → Option C) : Option Mode :=
  match slot.mode? with
  | some mode => some mode
  | none =>
      if (look (some .sequential)).isSome then some .sequential
      else if (look (some .random)).isSome then some .random
      else none

/-- The conditions once the slot was served. A mode without a handle gets the first one or a new
one, and tells it the mode. -/
def served {decoder : Decoder σ H} (autonomous : Autonomous C decoder) (slot : Slot)
    (spec : OpenSpec) (look : Option Mode → Option C) : Option Mode → Option C :=
  match slot.mode? with
  | none => look
  | some mode =>
      match look (some mode), (look none).or (autonomous.begun spec) with
      | none, some offered => fun place =>
          if place = some mode then some (autonomous.react offered (.setMode mode)).2
          else if place = none then none
          else look place
      | _, _ => look

end Autonomous

namespace CursorPair

variable {decoder : Decoder σ H} {autonomous : Autonomous C decoder} {pair taken : CursorPair H}
  {state after : σ} {handle : H} {call : Call} {place : Option Mode}

theorem look_none (autonomous : Autonomous C decoder) (state : σ)
    (empty : pair.seat place = none) : pair.look autonomous state place = none := by
  rw [look, empty]
  rfl

theorem look_some (autonomous : Autonomous C decoder) (state : σ)
    (seated : pair.seat place = some handle) :
    pair.look autonomous state place = some (autonomous.condition handle state) := by
  rw [look, seated]
  rfl

/-- A call changes the condition of the handle that is called, as that says. -/
theorem Own.perform (own : pair.Own autonomous state) (call : Call)
    (seated : pair.seat place = some handle) (opens : call ≠ .close) :
    (decoder.perform handle call state).1 =
        (autonomous.react (autonomous.condition handle state) call).1 ∧
      pair.Own autonomous (decoder.perform handle call state).2 ∧
      ∀ other, pair.look autonomous (decoder.perform handle call state).2 other =
        if other = place then some (autonomous.react (autonomous.condition handle state) call).2
        else pair.look autonomous state other := by
  obtain ⟨reply, live, condition⟩ := autonomous.reacts handle call state (own.live seated) opens
  have others {elsewhere : Option Mode} {other : H} (different : elsewhere ≠ place)
      (held : pair.seat elsewhere = some other) :=
    autonomous.apart handle call state other
      (fun same => different (own.apart held (same ▸ seated))) (own.live held)
  refine ⟨reply, ⟨?_, own.apart⟩, ?_⟩
  · intro elsewhere other held
    by_cases same : elsewhere = place
    · subst same
      cases seated.symm.trans held
      exact live
    · exact (others same held).1
  · intro elsewhere
    unfold look
    split
    · rename_i same
      rw [same, seated, Option.map_some, condition]
    · rename_i different
      cases held : pair.seat elsewhere with
      | none => rfl
      | some other => rw [Option.map_some, Option.map_some, (others different held).2]

theorem tell_places (told : List (Option Mode)) (distinct : told.Nodup)
    (own : pair.Own autonomous state) (opens : call ≠ .close) :
    let after := (told.filterMap pair.seat).foldl
      (fun state handle => decoder.tell handle call state) state
    pair.Own autonomous after ∧ ∀ place, pair.look autonomous after place =
      if place ∈ told then
        (pair.look autonomous state place).map fun condition => (autonomous.react condition call).2
      else pair.look autonomous state place := by
  induction told generalizing state with
  | nil => exact ⟨own, fun place => (if_neg List.not_mem_nil).symm⟩
  | cons head rest ih =>
      obtain ⟨outside, others⟩ := List.nodup_cons.mp distinct
      cases seated : pair.seat head with
      | none =>
          obtain ⟨owned, looks⟩ := ih others own
          rw [List.filterMap_cons_none seated]
          refine ⟨owned, fun place => (looks place).trans ?_⟩
          by_cases same : place = head
          · subst same
            simp [look_none autonomous state seated]
          · simp [same]
      | some handle =>
          obtain ⟨-, owned, looks⟩ := own.perform call seated opens
          obtain ⟨later, conditions⟩ := ih others owned
          rw [List.filterMap_cons_some seated]
          refine ⟨later, fun place => (conditions place).trans ?_⟩
          rw [looks]
          by_cases same : place = head
          · subst same
            simp [outside, look_some autonomous state seated]
          · simp [same]

theorem Own.opening (own : pair.Own autonomous state) (spec : OpenSpec) :
    pair.Own autonomous (decoder.openClip spec state).2 ∧
      ∀ place, pair.look autonomous (decoder.openClip spec state).2 place =
        pair.look autonomous state place := by
  refine ⟨⟨fun held => (autonomous.opens_apart spec state _ (own.live held)).1, own.apart⟩, ?_⟩
  intro place
  unfold look
  cases held : pair.seat place with
  | none => rfl
  | some handle =>
      rw [Option.map_some, Option.map_some,
        (autonomous.opens_apart spec state handle (own.live held)).2]

/-- An open handle that no mode has is lent to one, which tells it so. -/
theorem Own.assign (own : pair.Own autonomous state) (mode : Mode)
    (live : autonomous.Live handle state) (outside : ∀ other, pair.held other ≠ some handle) :
    (pair.lend mode handle).Own autonomous (decoder.tell handle (.setMode mode) state) ∧
      ∀ place, (pair.lend mode handle).look autonomous
          (decoder.tell handle (.setMode mode) state) place =
        if place = some mode then
          some (autonomous.react (autonomous.condition handle state) (.setMode mode)).2
        else if place = none then none
        else pair.look autonomous state place := by
  have lent : (pair.lend mode handle).Own autonomous state := by
    constructor
    · intro place other held
      rcases seated_lend held with ⟨-, rfl⟩ | ⟨another, rfl, before⟩
      · exact live
      · exact own.live (show pair.seat (some another) = _ from before)
    · intro place elsewhere other held there
      rcases seated_lend held with ⟨rfl, rfl⟩ | ⟨one, rfl, before⟩ <;>
        rcases seated_lend there with ⟨rfl, same⟩ | ⟨another, rfl, earlier⟩
      · rfl
      · exact absurd earlier (outside another)
      · exact absurd (same ▸ before) (outside one)
      · exact own.apart (show pair.seat (some one) = _ from before)
          (show pair.seat (some another) = _ from earlier)
  have seated : (pair.lend mode handle).seat (some mode) = some handle := held_lend
  obtain ⟨-, owned, looks⟩ := lent.perform (.setMode mode) seated (nomatch ·)
  refine ⟨owned, fun place => (looks place).trans ?_⟩
  by_cases same : place = some mode
  · rw [if_pos same, if_pos same]
  · rw [if_neg same, if_neg same]
    unfold look
    rw [seat_lend, if_neg same]
    split <;> rfl

/-- How a slot is served is decided by the conditions of the handles. -/
theorem Own.take {slot : Slot} {found : Option H} (own : pair.Own autonomous state)
    (took : pair.take decoder slot state = (found, taken, after)) :
    taken.spec = pair.spec ∧ taken.Own autonomous after ∧
      (∀ place, taken.look autonomous after place =
        autonomous.served slot pair.spec (pair.look autonomous state) place) ∧
      found = taken.seat (Autonomous.place slot (pair.look autonomous state)) := by
  cases take_takes took with
  | any =>
      refine ⟨rfl, own, fun _ => rfl, ?_⟩
      simp only [Autonomous.place, Slot.mode?, look, Option.isSome_map]
      obtain ⟨spec, first, sequential, random⟩ := pair
      cases sequential <;> cases random <;> rfl
  | @held mode handle held =>
      have known := look_some autonomous state (show pair.seat (some mode) = _ from held)
      refine ⟨rfl, own, ?_, ?_⟩
      · intro place
        simp only [Autonomous.served, mode_slot, known]
      · simp only [Autonomous.place, mode_slot]
        exact held.symm
  | @first mode handle missing free =>
      have empty := look_none autonomous state (show pair.seat (some mode) = _ from missing)
      have known := look_some autonomous state (show pair.seat none = _ from free)
      have outside (other : Mode) : pair.held other ≠ some handle := by
        intro held
        cases own.apart (show pair.seat none = _ from free)
          (show pair.seat (some other) = _ from held)
      have seated : pair.seat none = some handle := free
      obtain ⟨owned, looks⟩ := own.assign mode (own.live seated) outside
      refine ⟨spec_lend, owned, ?_, ?_⟩
      · intro place
        simp only [looks, Autonomous.served, mode_slot, empty, known, Option.some_or]
      · simp only [Autonomous.place, mode_slot]
        exact held_lend.symm
  | @opened mode handle between missing taken opens =>
      have empty := look_none autonomous state (show pair.seat (some mode) = _ from missing)
      have unseated := look_none autonomous state (show pair.seat none = _ from taken)
      cases begun : autonomous.begun pair.spec with
      | none =>
          obtain ⟨cause, refused⟩ := autonomous.refuses pair.spec state begun
          rw [opens] at refused
          cases refused
      | some start =>
          obtain ⟨same, granted, fresh, live, condition⟩ :=
            autonomous.opens pair.spec state start begun
          obtain ⟨kept, unchanged⟩ := own.opening pair.spec
          rw [opens] at granted live condition kept unchanged
          cases granted
          have outside (other : Mode) : pair.held other ≠ some handle :=
            fun held => fresh (own.live (show pair.seat (some other) = _ from held))
          obtain ⟨owned, looks⟩ := kept.assign mode live outside
          refine ⟨spec_lend, owned, ?_, ?_⟩
          · intro place
            simp only [looks, unchanged, condition, Autonomous.served, mode_slot, empty, unseated,
              begun, Option.none_or]
          · simp only [Autonomous.place, mode_slot]
            exact held_lend.symm
  | @refused mode cause reached missing taken refuses =>
      have empty := look_none autonomous state (show pair.seat (some mode) = _ from missing)
      have unseated := look_none autonomous state (show pair.seat none = _ from taken)
      cases begun : autonomous.begun pair.spec with
      | some start =>
          obtain ⟨handle, granted, -⟩ := autonomous.opens pair.spec state start begun
          rw [refuses] at granted
          cases granted
      | none =>
          obtain ⟨kept, unchanged⟩ := own.opening pair.spec
          rw [refuses] at kept unchanged
          refine ⟨rfl, kept, ?_, ?_⟩
          · intro place
            simp only [unchanged, Autonomous.served, mode_slot, empty, unseated, begun,
              Option.none_or]
          · simp only [Autonomous.place, mode_slot]
            exact missing.symm

theorem Own.fresh (spec : OpenSpec) (live : autonomous.Live handle state) :
    Own autonomous ⟨spec, some handle, none, none⟩ state := by
  have only {place : Option Mode} {other : H}
      (seated : seat ⟨spec, some handle, none, none⟩ place = some other) :
      place = none ∧ other = handle := by
    rcases place with _ | _ | _ <;> cases seated
    exact ⟨rfl, rfl⟩
  constructor
  · intro place other seated
    rw [(only seated).2]
    exact live
  · intro place other found seated seated_there
    rw [(only seated).1, (only seated_there).1]

structure Twins (autonomous : Autonomous C decoder) (pair : CursorPair H) (state : σ)
    (twin : CursorPair H) (there : σ) : Prop where
  own : pair.Own autonomous state
  twin_own : twin.Own autonomous there
  spec : twin.spec = pair.spec
  look : twin.look autonomous there = pair.look autonomous state

variable {twin taken_there : CursorPair H} {there after_there : σ} {handle_there : H}

theorem Twins.take {slot : Slot} {found found_there : Option H}
    (twins : pair.Twins autonomous state twin there)
    (took : pair.take decoder slot state = (found, taken, after))
    (took_there : twin.take decoder slot there = (found_there, taken_there, after_there)) :
    taken.Twins autonomous after taken_there after_there ∧
      ∃ place, found = taken.seat place ∧ found_there = taken_there.seat place := by
  obtain ⟨spec, own, looks, finds⟩ := twins.own.take took
  obtain ⟨spec_there, own_there, looks_there, finds_there⟩ := twins.twin_own.take took_there
  rw [twins.look] at finds_there
  refine ⟨⟨own, own_there, ?_, ?_⟩, _, finds, finds_there⟩
  · rw [spec_there, twins.spec, spec]
  · funext place
    rw [looks, looks_there, twins.spec, twins.look]

theorem Twins.fresh (spec : OpenSpec) (live : autonomous.Live handle state)
    (live_there : autonomous.Live handle_there there)
    (same : autonomous.condition handle_there there = autonomous.condition handle state) :
    Twins autonomous ⟨spec, some handle, none, none⟩ state ⟨spec, some handle_there, none, none⟩
      there where
  own := .fresh spec live
  twin_own := .fresh spec live_there
  spec := rfl
  look := by
    funext place
    rcases place with _ | _ | _
    · exact congrArg some same
    · rfl
    · rfl

theorem Twins.perform (twins : pair.Twins autonomous state twin there)
    (seated : pair.seat place = some handle) (seated_there : twin.seat place = some handle_there)
    (opens : call ≠ .close) :
    (decoder.perform handle call state).1 = (decoder.perform handle_there call there).1 ∧
      pair.Twins autonomous (decoder.perform handle call state).2 twin
        (decoder.perform handle_there call there).2 := by
  obtain ⟨reply, own, looks⟩ := twins.own.perform call seated opens
  obtain ⟨reply_there, own_there, looks_there⟩ := twins.twin_own.perform call seated_there opens
  have same : autonomous.condition handle_there there = autonomous.condition handle state := by
    have looked := congrFun twins.look place
    rw [look_some _ _ seated, look_some _ _ seated_there] at looked
    exact Option.some.inj looked
  refine ⟨by rw [reply, reply_there, same], own, own_there, twins.spec, ?_⟩
  funext elsewhere
  rw [looks, looks_there, same, twins.look]

theorem Twins.run {α : Type} {allowed : Call → Bool} {promised : α → Prop} {plan : Plan α}
    (within : plan.Within allowed promised) (opens : ∀ call, allowed call = true → call ≠ .close)
    (twins : pair.Twins autonomous state twin there)
    (seated : pair.seat place = some handle) (seated_there : twin.seat place = some handle_there) :
    (plan.run decoder handle state).1 = (plan.run decoder handle_there there).1 ∧
      pair.Twins autonomous (plan.run decoder handle state).2 twin
        (plan.run decoder handle_there there).2 := by
  induction plan generalizing state there with
  | done result => exact ⟨rfl, twins⟩
  | ask call next ih =>
      obtain ⟨permitted, further⟩ := within
      obtain ⟨reply, later⟩ := twins.perform seated seated_there (opens call permitted)
      simp only [Plan.run, ← reply]
      exact ih _ (further _) later

theorem Twins.settle (twins : pair.Twins autonomous state twin there) (opens : call ≠ .close) :
    Twins autonomous { pair with spec := call.settle pair.spec } (pair.tellAll decoder call state)
      { twin with spec := call.settle twin.spec } (twin.tellAll decoder call there) := by
  have distinct : seats.Nodup := by decide
  obtain ⟨own, looks⟩ := tell_places seats distinct twins.own opens
  obtain ⟨own_there, looks_there⟩ := tell_places seats distinct twins.twin_own opens
  rw [← handles_seats] at own looks own_there looks_there
  refine ⟨⟨own.live, own.apart⟩, ⟨own_there.live, own_there.apart⟩, by rw [twins.spec], ?_⟩
  funext place
  refine (looks_there place).trans (Eq.trans ?_ (looks place).symm)
  rw [twins.look]

end CursorPair

namespace Reader

variable {decoder : Decoder σ H}

structure Alike (autonomous : Autonomous C decoder) (reader : Reader H) (state : σ)
    (twin : Reader H) (there : σ) : Prop where
  notes : twin.notes = reader.notes
  pairs : (reader.pair = none ∧ twin.pair = none) ∨
    ∃ pair other, reader.pair = some pair ∧ twin.pair = some other ∧
      pair.Twins autonomous state other there

variable {autonomous : Autonomous C decoder} {reader twin : Reader H} {state there : σ}

theorem Alike.perform (alike : reader.Alike autonomous state twin there) (operation : Operation) :
    reader.answer decoder operation state = twin.answer decoder operation there ∧
      (reader.perform decoder operation state).1.Alike autonomous
        (reader.perform decoder operation state).2 (twin.perform decoder operation there).1
        (twin.perform decoder operation there).2 := by
  suffices carried :
      (reader.carryOut decoder operation state).1 = (twin.carryOut decoder operation there).1 ∧
        (reader.carryOut decoder operation state).2.1.Alike autonomous
          (reader.carryOut decoder operation state).2.2
          (twin.carryOut decoder operation there).2.1
          (twin.carryOut decoder operation there).2.2 by
    rw [← perform_carried, ← perform_carried] at carried
    exact carried
  obtain ⟨notes, ⟨closed, closed_there⟩ | ⟨pair, other, holds, holds_there, twins⟩⟩ := alike
  · unfold carryOut
    rw [notes, closed, closed_there]
    cases reader.notes.need operation <;> exact ⟨rfl, rfl, .inl ⟨rfl, rfl⟩⟩
  · cases needs : reader.notes.need operation with
    | none =>
        unfold carryOut
        rw [notes, holds, holds_there, needs]
        exact ⟨rfl, rfl, .inr ⟨pair, other, rfl, rfl, twins⟩⟩
    | all setting =>
        have opens : setting ≠ .close := by
          rcases need_all needs with ⟨on, -, rfl⟩ | ⟨width, height, -, rfl⟩ <;> exact (nomatch ·)
        unfold carryOut
        rw [notes, holds, holds_there, needs]
        exact ⟨rfl, rfl, .inr ⟨_, _, rfl, rfl, twins.settle opens⟩⟩
    | one slot =>
        have needs_there : twin.notes.need operation = .one slot := notes ▸ needs
        rcases took : pair.take decoder slot state with ⟨found, taken, after⟩
        rcases took_there : other.take decoder slot there with ⟨found_there, taken_there, reached⟩
        obtain ⟨later, place, finds, finds_there⟩ := twins.take took took_there
        rw [carry_out_one needs holds took, carry_out_one needs_there holds_there took_there, notes]
        have looks := congrFun later.look place
        simp only [CursorPair.look, ← finds, ← finds_there] at looks
        cases found with
        | none =>
            obtain rfl := Option.map_eq_none_iff.mp looks
            exact ⟨rfl, rfl, .inr ⟨_, _, rfl, rfl, later⟩⟩
        | some handle =>
            obtain ⟨handle_there, rfl, -⟩ := Option.map_eq_some_iff.mp looks
            obtain ⟨same, last⟩ := later.run (plan_within operation reader.notes)
              (fun _ calls => (calls_neutral calls).1) finds.symm finds_there.symm
            rcases ran : (reader.notes.plan operation).run decoder handle after with
              ⟨⟨answer, noted⟩, final⟩
            rcases ran_there : (reader.notes.plan operation).run decoder handle_there reached with
              ⟨⟨answer_there, noted_there⟩, final_there⟩
            rw [ran, ran_there] at same last
            cases same
            simp only [ran, ran_there]
            exact ⟨trivial, rfl, .inr ⟨_, _, rfl, rfl, last⟩⟩

/-- A new clip leaves nothing of what was noted before. Where it is refused, the clip before is
closed all the same. -/
theorem open_clip_outcome (decoder : Decoder σ H) (spec : OpenSpec) (reader : Reader H)
    (state : σ) :
    (∃ handle after,
      decoder.openClip spec (reader.close decoder state).2 = (.ok handle, after) ∧
        reader.openClip decoder spec state =
          (true,
            { pair := some ⟨spec, some handle, none, none⟩
              path := spec.path
              requestedSize := (spec.width, spec.height)
              firstMs := spec.startMs
              muted := spec.options.audioMute },
            after)) ∨
    ∃ cause after,
      decoder.openClip spec (reader.close decoder state).2 = (.error cause, after) ∧
        reader.openClip decoder spec state =
          (false,
            { path := reader.path
              requestedSize := reader.requestedSize
              firstMs := reader.firstMs
              muted := spec.options.audioMute },
            after) := by
  rcases opens : decoder.openClip spec (reader.close decoder state).2 with ⟨outcome, after⟩
  cases outcome with
  | ok handle =>
      refine .inl ⟨handle, after, rfl, ?_⟩
      simp only [openClip, CursorPair.openClip, opens]
      rfl
  | error cause =>
      refine .inr ⟨cause, after, rfl, ?_⟩
      simp only [openClip, CursorPair.openClip, opens]
      rfl

/-- A clip is opened or refused alike, and once it is open nothing else counts. -/
theorem open_clip_alike (autonomous : Autonomous C decoder) (spec : OpenSpec)
    (reader : Reader H) (state : σ) (twin : Reader H) (there : σ)
    (same : (autonomous.begun spec).isSome = true ∨ twin.notes = reader.notes) :
    (reader.openClip decoder spec state).1 = (autonomous.begun spec).isSome ∧
      (twin.openClip decoder spec there).1 = (autonomous.begun spec).isSome ∧
      Alike autonomous (reader.openClip decoder spec state).2.1
        (reader.openClip decoder spec state).2.2 (twin.openClip decoder spec there).2.1
        (twin.openClip decoder spec there).2.2 := by
  have outcome := open_clip_outcome decoder spec reader state
  have outcome_there := open_clip_outcome decoder spec twin there
  cases begun : autonomous.begun spec with
  | none =>
      have notes := same.resolve_left (by simp [begun])
      obtain ⟨cause, refused⟩ := autonomous.refuses spec (reader.close decoder state).2 begun
      obtain ⟨cause_there, refused_there⟩ :=
        autonomous.refuses spec (twin.close decoder there).2 begun
      rcases outcome with ⟨handle, after, opens, -⟩ | ⟨-, after, -, opened⟩
      · cases refused.symm.trans (congrArg Prod.fst opens)
      rcases outcome_there with ⟨handle, reached, opens, -⟩ | ⟨-, reached, -, opened_there⟩
      · cases refused_there.symm.trans (congrArg Prod.fst opens)
      have kept := congrArg (fun noted : Reader H =>
        { path := noted.path, requestedSize := noted.requestedSize, firstMs := noted.firstMs,
          muted := spec.options.audioMute : Reader H }) notes
      rw [opened, opened_there]
      exact ⟨rfl, rfl, kept, .inl ⟨rfl, rfl⟩⟩
  | some start =>
      obtain ⟨handle, granted, -, live, condition⟩ :=
        autonomous.opens spec (reader.close decoder state).2 start begun
      obtain ⟨handle_there, granted_there, -, live_there, condition_there⟩ :=
        autonomous.opens spec (twin.close decoder there).2 start begun
      rcases outcome with ⟨first, after, opens, opened⟩ | ⟨cause, after, opens, -⟩
      · rcases outcome_there with ⟨second, reached, opens_there, opened_there⟩ |
          ⟨cause, reached, opens_there, -⟩
        · rw [opens] at granted live condition
          rw [opens_there] at granted_there live_there condition_there
          cases granted
          cases granted_there
          rw [opened, opened_there]
          exact ⟨rfl, rfl, rfl, .inr ⟨_, _, rfl, rfl,
            .fresh spec live live_there (condition_there.trans condition.symm)⟩⟩
        · cases granted_there.symm.trans (congrArg Prod.fst opens_there)
      · cases granted.symm.trans (congrArg Prod.fst opens)

theorem Alike.request (alike : reader.Alike autonomous state twin there) (request : Request) :
    request.answer decoder reader state = request.answer decoder twin there ∧
      (request.perform decoder reader state).1.Alike autonomous
        (request.perform decoder reader state).2 (request.perform decoder twin there).1
        (request.perform decoder twin there).2 := by
  cases request with
  | operate operation => exact alike.perform operation
  | close =>
      exact ⟨rfl, congrArg (fun noted : Reader H =>
        { noted with
          prevMs := none, cursorMs := none, forceReseek := false, done := false,
          knownDuration := none, knownOffsets := none }) alike.notes, .inl ⟨rfl, rfl⟩⟩
  | openClip spec =>
      obtain ⟨granted, granted_there, opened⟩ :=
        open_clip_alike autonomous spec reader state twin there (.inr alike.notes)
      exact ⟨congrArg Answer.verdict (granted.trans granted_there.symm), opened⟩

end Reader

def answers (decoder : Decoder σ H) (current : Reader H × σ) : List Request → List Answer
  | [] => []
  | request :: requests =>
      request.answer decoder current.1 current.2 ::
        answers decoder (request.perform decoder current.1 current.2) requests

section Runs

variable {decoder : Decoder σ H} {autonomous : Autonomous C decoder}

theorem answers_alike {current there : Reader H × σ}
    (alike : current.1.Alike autonomous current.2 there.1 there.2) (requests : List Request) :
    answers decoder current requests = answers decoder there requests ∧
      (performAll decoder current requests).1.Alike autonomous
        (performAll decoder current requests).2 (performAll decoder there requests).1
        (performAll decoder there requests).2 := by
  induction requests generalizing current there with
  | nil => exact ⟨rfl, alike⟩
  | cons request requests ih =>
      obtain ⟨answered, later⟩ := alike.request request
      obtain ⟨further, last⟩ := ih later
      refine ⟨?_, last⟩
      rw [answers, answers, answered, further]

/-- After a clip was opened the reader is like a new one, whatever was asked of it before and
whatever state the decoder is in. -/
theorem open_clip_renews (autonomous : Autonomous C decoder) (spec : OpenSpec) (reader : Reader H)
    (state there : σ) (granted : (reader.openClip decoder spec state).1 = true)
    (requests : List Request) :
    let opened := (reader.openClip decoder spec state).2
    let renewed := (Reader.openClip decoder spec {} there).2
    (Reader.openClip decoder spec {} there).1 = true ∧
      answers decoder opened requests = answers decoder renewed requests ∧
      (performAll decoder opened requests).1.notes =
        (performAll decoder renewed requests).1.notes := by
  have opens : (autonomous.begun spec).isSome = true :=
    (Reader.open_clip_alike autonomous spec reader state reader state
      (.inr rfl)).1.symm.trans granted
  obtain ⟨-, granted_there, alike⟩ :=
    Reader.open_clip_alike autonomous spec reader state {} there (.inl opens)
  obtain ⟨answered, last⟩ := answers_alike alike requests
  exact ⟨granted_there.trans opens, answered, last.notes.symm⟩

end Runs

end Footage.Playback
