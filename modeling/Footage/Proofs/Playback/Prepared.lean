import Footage.Proofs.Playback.Release

/-!
# Handles that know their mode

A decoder wants to know how a handle is going to be used before it is asked for frames, offsets or
the length of the clip. A reader tells it in time with one exception: the length may be asked of
the first handle while it belongs to no mode yet. Histories of calls only grow, so what went wrong
once stays visible.
-/

namespace Footage.Playback

set_option autoImplicit false

variable {σ H : Type}

def Call.assigns : Call → Bool
  | .setMode _ => true
  | _ => false

/-- Every demanding call comes after exactly one that assigns the handle to a mode. -/
def Obeys (demands : Call → Bool) (calls : List Call) : Prop :=
  ∀ before call after, calls = before ++ call :: after → demands call = true →
    before.countP Call.assigns = 1

namespace Obeys

variable {demands : Call → Bool} {calls more : List Call} {call : Call}

theorem nil : Obeys demands [] := by
  intro before call after same
  exact absurd same (by simp)

theorem front (obeys : Obeys demands (calls ++ more)) : Obeys demands calls := by
  intro before call after same demanding
  apply obeys before call (after ++ more) _ demanding
  rw [same, List.append_assoc, List.cons_append]

theorem note (obeys : Obeys demands calls)
    (ready : demands call = true → calls.countP Call.assigns = 1) :
    Obeys demands (calls ++ [call]) := by
  intro before other after same demanding
  rcases List.eq_nil_or_concat after with rfl | ⟨front, final, rfl⟩
  · obtain ⟨rfl, last⟩ := List.append_inj' same rfl
    cases last
    exact ready demanding
  · have split : calls ++ [call] = (before ++ other :: front) ++ [final] := by
      rw [same, List.concat_eq_append, List.append_assoc, List.cons_append]
    exact obeys before other front (List.append_inj' split rfl).1 demanding

end Obeys

namespace Living

variable {calls : List Call} {mode : Mode}

theorem kept_not_assigns {call : Call} (keeps : call.keeps = true) : call.assigns = false := by
  cases call <;> first | rfl | cases keeps

theorem none_assigned {calls : List Call} (kept : ∀ call ∈ calls, call.keeps = true) :
    calls.countP Call.assigns = 0 := by
  apply List.countP_eq_zero.mpr
  intro call member
  rw [kept_not_assigns (kept call member)]
  decide

theorem unassigned_count (living : Living none calls) : calls.countP Call.assigns = 0 := by
  cases living with
  | unassigned early => exact none_assigned fun call member => (early call member).1

theorem assigned_count (living : Living (some mode) calls) :
    calls.countP Call.assigns = 1 := by
  cases living with
  | assigned _ early late =>
      have front := none_assigned fun call member => (early call member).1
      rw [List.countP_append, List.countP_cons, front, none_assigned late]
      rfl

end Living

/-- The demanding calls are those that move a handle, and maybe others that depend on its mode. -/
structure Demanding (demands : Call → Bool) : Prop where
  moving : ∀ call, call.moves = true → demands call = true
  mild : ∀ call, demands call = true → call.needsMode = true

theorem Demanding.calm {demands : Call → Bool} {call : Call} (demanding : Demanding demands)
    (free : call.needsMode = false) : demands call = false := by
  apply Bool.eq_false_iff.mpr
  intro demanded
  exact absurd (free.symm.trans (demanding.mild call demanded)) (by decide)

/-- The call depends on the mode, and is not the one for the length of the clip. -/
def Call.needsModeBesidesLength (call : Call) : Bool :=
  call.needsMode && call != .duration

theorem Call.moves_needs_mode {call : Call} (moves : call.moves = true) :
    call.needsModeBesidesLength = true := by
  cases call <;> first | rfl | cases moves

theorem Call.besides_needs_mode {call : Call} (besides : call.needsModeBesidesLength = true) :
    call.needsMode = true :=
  (Bool.and_eq_true_iff.mp besides).1

theorem demanding_moves : Demanding Call.moves where
  moving := fun _ moves => moves
  mild := fun _ moves => Call.besides_needs_mode (Call.moves_needs_mode moves)

theorem demanding_besides : Demanding Call.needsModeBesidesLength where
  moving := fun _ moves => Call.moves_needs_mode moves
  mild := fun _ besides => Call.besides_needs_mode besides

theorem demanding_needs_mode : Demanding Call.needsMode where
  moving := fun _ moves => Call.besides_needs_mode (Call.moves_needs_mode moves)
  mild := fun _ needs => needs

/-- A property of histories that new handles keep, and calls that are not demanding or come on a
handle that knows its mode. -/
structure Stable (demands : Call → Bool) (kept : List (List Call) → Prop) : Prop where
  opens : ∀ {histories}, kept histories → kept (histories ++ [[]])
  notes : ∀ {histories} (number : Nat) (call : Call),
    (demands call = true → ∀ calls, histories[number]? = some calls →
      calls.countP Call.assigns = 1) →
    kept histories → kept (histories.modify number (· ++ [call]))

theorem obeys_stable (demands : Call → Bool) :
    Stable demands fun histories => ∀ calls ∈ histories, Obeys demands calls where
  opens := by
    intro histories obedient
    exact List.forall_mem_append.mpr ⟨obedient, List.forall_mem_singleton.mpr .nil⟩
  notes := by
    intro histories number call ready obedient calls member
    obtain ⟨index, found⟩ := List.mem_iff_getElem?.mp member
    rw [List.getElem?_modify] at found
    obtain ⟨earlier, held, same⟩ := Option.map_eq_some_iff.mp found
    have before := obedient earlier (List.mem_of_getElem? held)
    -- Only the history that the call belongs to is longer than before.
    by_cases here : number = index
    · subst here
      rw [← same, if_pos rfl]
      exact before.note fun demanding => ready demanding earlier held
    · rw [← same, if_neg here]
      exact before

def Grown (before after : List (List Call)) : Prop :=
  ∀ (number : Nat) (calls : List Call), before[number]? = some calls →
    ∃ more, after[number]? = some (calls ++ more)

theorem Grown.refl (histories : List (List Call)) : Grown histories histories := by
  intro number calls found
  exact ⟨[], by rw [List.append_nil, found]⟩

theorem grown_stable (demands : Call → Bool) (before : List (List Call)) :
    Stable demands (Grown before) where
  opens := by
    intro histories grown number calls found
    obtain ⟨more, later⟩ := grown number calls found
    have inside := (List.getElem?_eq_some_iff.mp later).1
    exact ⟨more, by rw [List.getElem?_append_left inside, later]⟩
  notes := by
    intro histories number call _ grown other calls found
    obtain ⟨more, later⟩ := grown other calls found
    by_cases here : number = other
    · exact ⟨more ++ [call], by simp [later, here]⟩
    · exact ⟨more, by simp [later, here]⟩

/-- Once the first handle of a pair is taken, every handle knows its mode. -/
theorem Holding.assigned {past histories : List (List Call)} {wanted : List Mode}
    {pair : CursorPair (Nat × H)} {handle : Nat × H} (member : handle ∈ pair.handles)
    (claimed : pair.first = none) (holding : Holding past wanted pair histories) :
    ∀ calls, histories[handle.1]? = some calls → calls.countP Call.assigns = 1 := by
  intro found known
  cases holding with
  | unclaimed living => cases claimed
  | @single spec owner calls wanted mode living first =>
      rcases (CursorPair.mem_devoted mode).mp member with own | other
      · cases own
        have same : calls = found := by simpa using known
        exact same ▸ living.assigned_count
      · cases other
  | @double spec owner another calls later wanted mode living first second both =>
      rcases (CursorPair.mem_devoted mode).mp member with own | other
      · cases own
        have same : calls = found := by simpa using known
        exact same ▸ living.assigned_count
      · cases other
        have same : later = found := by simpa using known
        exact same ▸ second.assigned_count

theorem Holding.first_taken {past histories : List (List Call)} {wanted : List Mode}
    {pair : CursorPair (Nat × H)} (holding : Holding past wanted pair histories)
    (asked : wanted ≠ []) : pair.first = none := by
  cases holding with
  | unclaimed living => exact absurd rfl asked
  | single mode living first => exact CursorPair.devoted_first mode
  | double mode living first second both => exact CursorPair.devoted_first mode

theorem Holding.unasked {past histories : List (List Call)} {pair : CursorPair (Nat × H)}
    (holding : Holding past [] pair histories) :
    ∃ handle calls, pair.anyOpen = some (past.length, handle) ∧ histories = past ++ [calls] ∧
      Living none calls := by
  cases holding with
  | @unclaimed spec handle calls living => exact ⟨handle, calls, rfl, rfl, living⟩
  | single mode living first => cases first
  | double mode living first second both => cases first

section Steady

variable {decoder : Decoder σ H} {demands : Call → Bool} {kept : List (List Call) → Prop}

theorem Stable.open_clip (stable : Stable demands kept) (spec : OpenSpec)
    {state : σ × List (List Call)} (begun : kept state.2)
    {outcome : Except ClipError (Nat × H)} {after : σ × List (List Call)}
    (opened : decoder.watched.openClip spec state = (outcome, after)) : kept after.2 := by
  rw [Decoder.noting_open opened]
  cases outcome with
  | ok handle => exact stable.opens begun
  | error cause => exact begun

theorem Stable.call (stable : Stable demands kept) {call : Call} (calm : demands call = false)
    (handle : Nat × H) {state : σ × List (List Call)} (begun : kept state.2) :
    kept (decoder.watched.perform handle call state).2.2 := by
  apply stable.notes handle.1 call _ begun
  intro demanding
  exact absurd (calm.symm.trans demanding) (by decide)

theorem Stable.claim {mode : Mode} (stable : Stable demands kept)
    (calm : demands (.setMode mode) = false) (pair : CursorPair (Nat × H))
    {state : σ × List (List Call)} (begun : kept state.2) :
    kept (pair.claim decoder.watched mode state).2.2.2 := by
  unfold CursorPair.claim
  split
  · exact stable.call calm _ begun
  · split
    · rename_i opened
      exact stable.call calm _ (stable.open_clip pair.spec begun opened)
    · rename_i opened
      exact stable.open_clip pair.spec begun opened

theorem Stable.take {mode : Mode} (stable : Stable demands kept)
    (calm : demands (.setMode mode) = false) (pair : CursorPair (Nat × H))
    {state : σ × List (List Call)} (begun : kept state.2) :
    kept (pair.take decoder.watched mode.slot state).2.2.2 := by
  cases held : pair.held mode with
  | some handle =>
      rw [CursorPair.take_held mode state held]
      exact begun
  | none =>
      rw [CursorPair.take_missing mode state held]
      exact stable.claim calm pair begun

/-- What is stable outlasts every course that calls a handle with demanding calls only when it
knows its mode. -/
theorem Course.steady (stable : Stable demands kept)
    (demanding : Demanding demands) {past : List (List Call)}
    {wanted asked : List Mode} {pair : CursorPair (Nat × H)} {state : σ × List (List Call)}
    {last : CursorPair (Nat × H) × σ × List (List Call)}
    (course : Course decoder.watched demands last asked pair state)
    (holding : Holding past wanted pair state.2) (begun : kept state.2) : kept last.2.2 := by
  induction course generalizing wanted with
  | rest => exact begun
  | @take asked pair state mode further ih =>
      obtain ⟨found, taken, after, took, later, -, -⟩ := holding.take decoder mode state.1
      have reached : kept (pair.take decoder.watched mode.slot state).2.2.2 :=
        stable.take (demanding.calm rfl) pair begun
      rw [took] at ih reached
      exact ih later reached
  | @call asked pair state handle call member keeps ready further ih =>
      apply ih
      · exact holding.note call member keeps fun moves => ready (demanding.moving call moves)
      · apply stable.notes handle.1 call _ begun
        intro demanded
        exact holding.assigned member (ready demanded)
  | respec spec further ih => exact ih (holding.respec spec) begun

end Steady

namespace Usage

/-- A clip is open whose length is not known, and no mode was asked for. -/
def Unprepared (usage : Usage σ H) : Prop :=
  usage.reader.isOpen = true ∧ usage.reader.knownDuration = none ∧ usage.wanted = []

variable (decoder : Decoder σ H) {demands : Call → Bool} {kept : List (List Call) → Prop}
  {usage : Usage σ H}

theorem close_steady (stable : Stable demands kept) (demanding : Demanding demands)
    (reader : Reader (Nat × H)) {state : σ × List (List Call)} (begun : kept state.2) :
    kept (reader.close decoder.watched state).2.2 := by
  unfold Reader.close
  split
  · let reached (after : σ × List (List Call)) : Prop := kept after.2
    refine CursorPair.tell_all_keeps reached .close begun ?_
    intro handle _ state holds
    exact stable.call (demanding.calm rfl) handle holds
  · exact begun

/-- What is stable outlasts every request, where the length is only demanding when a mode was
asked for. -/
theorem ask_steady (stable : Stable demands kept)
    (demanding : Demanding demands) (request : Request)
    (timely : demands .duration = true → request = .operate .duration → ¬usage.Unprepared)
    (orderly : usage.Kept) (begun : kept usage.state.2) :
    kept (usage.ask decoder request).state.2 := by
  have closed : kept (usage.reader.close decoder.watched usage.state).2.2 :=
    close_steady decoder stable demanding usage.reader begun
  cases request with
  | close => exact closed
  | openClip spec =>
      rcases opened : decoder.watched.openClip spec
        (usage.reader.close decoder.watched usage.state).2 with ⟨outcome, after⟩
      have reached := stable.open_clip spec closed opened
      simp only [ask, Request.perform, Reader.openClip, CursorPair.openClip, opened]
      cases outcome with
      | error cause => exact reached
      | ok handle => exact reached
  | operate operation =>
      cases orderly with
      | closed pair spent before =>
          obtain ⟨still, same⟩ :=
            Reader.perform_closed decoder.watched usage.state operation pair
          have unchanged : (usage.ask decoder (.operate operation)).state = usage.state := same
          exact unchanged ▸ begun
      | opened past spent before keeps =>
          obtain ⟨pair, holds, holding⟩ := keeps
          have assigned : operation = .duration → usage.reader.knownDuration = none →
              demands .duration = true → pair.first = none := by
            intro length unknown demanded
            have prepared := timely demanded (congrArg Request.operate length)
            have opened : usage.reader.isOpen = true := by rw [Reader.isOpen, holds]; rfl
            apply holding.first_taken
            intro unasked
            exact prepared ⟨opened, unknown, unasked⟩
          obtain ⟨last, -, course⟩ :=
            Reader.perform_courses demanding.mild operation holds holding.all_claimed assigned
          exact course.steady stable demanding holding begun

theorem ask_obeyed (request : Request) (orderly : usage.Kept)
    (obeyed : ∀ calls ∈ (usage.ask decoder request).state.2, Obeys Call.needsMode calls) :
    ∀ calls ∈ usage.state.2, Obeys Call.needsMode calls := by
  intro calls member
  obtain ⟨number, found⟩ := List.mem_iff_getElem?.mp member
  obtain ⟨more, later⟩ := ask_steady decoder (grown_stable Call.moves usage.state.2)
    demanding_moves request (fun demanded => nomatch demanded) orderly (.refl _) number calls found
  exact (obeyed _ (List.mem_of_getElem? later)).front

/-- The length is asked of the first handle, which does not know its mode. -/
theorem ask_disobeys (orderly : usage.Kept) (unprepared : usage.Unprepared) :
    ∃ calls ∈ (usage.ask decoder (.operate .duration)).state.2, ¬Obeys Call.needsMode calls := by
  obtain ⟨opened, unknown, unasked⟩ := unprepared
  cases orderly with
  | closed pair spent before =>
      rw [Reader.isOpen, pair] at opened
      cases opened
  | opened past spent before keeps =>
      obtain ⟨pair, holds, holding⟩ := keeps
      -- No mode was asked for, so the only open handle is the first one.
      rw [unasked] at holding
      obtain ⟨handle, calls, first, histories, living⟩ := holding.unasked
      refine ⟨calls ++ [.duration], ?_, ?_⟩
      · have took : pair.take decoder.watched .any usage.state =
            (some (past.length, handle), pair, usage.state) := by
          rw [← first]
          rfl
        have noted : (usage.ask decoder (.operate .duration)).state.2 =
            past ++ [calls ++ [.duration]] := by
          simp only [ask, Request.perform, Reader.perform, Reader.duration, unknown, Reader.ask,
            Reader.take_eq holds took]
          show usage.state.2.modify past.length (· ++ [.duration]) = _
          rw [histories]
          exact Holding.modify_own past [calls] 0 _
        rw [noted]
        exact List.mem_append_right past List.mem_cons_self
      · intro obeys
        have assigned := obeys calls .duration [] rfl rfl
        rw [living.unassigned_count] at assigned
        cases assigned

/-- One request leaves the protocol kept exactly when it does not ask an unprepared reader for
the length. -/
theorem ask_obeys (request : Request) (orderly : usage.Kept) :
    (∀ calls ∈ (usage.ask decoder request).state.2, Obeys Call.needsMode calls) ↔
      (∀ calls ∈ usage.state.2, Obeys Call.needsMode calls) ∧
        (request = .operate .duration → ¬usage.Unprepared) := by
  constructor
  · intro obeyed
    refine ⟨ask_obeyed decoder request orderly obeyed, ?_⟩
    intro length unprepared
    subst length
    obtain ⟨calls, member, disobeys⟩ := ask_disobeys decoder orderly unprepared
    exact disobeys (obeyed calls member)
  · intro ⟨obeyed, prepared⟩
    exact ask_steady decoder (obeys_stable Call.needsMode) demanding_needs_mode request
      (fun _ => prepared) orderly obeyed

theorem play_obeys (requests : List Request) (orderly : usage.Kept) :
    (∀ calls ∈ (usage.play decoder requests).state.2, Obeys Call.needsMode calls) ↔
      (∀ calls ∈ usage.state.2, Obeys Call.needsMode calls) ∧
        ∀ earlier later, requests = earlier ++ .operate .duration :: later →
          ¬(usage.play decoder earlier).Unprepared := by
  induction requests generalizing usage with
  | nil =>
      refine ⟨fun obeyed => ⟨obeyed, ?_⟩, fun both => both.1⟩
      intro earlier later impossible
      exact absurd impossible (by simp)
  | cons request requests ih =>
      -- A split of the requests is before the first of them, or one of the rest.
      have rest := ih (orderly.ask decoder request)
      constructor
      · intro obeyed
        obtain ⟨next, prepared⟩ := rest.mp obeyed
        obtain ⟨begun, now⟩ := (ask_obeys decoder request orderly).mp next
        refine ⟨begun, ?_⟩
        intro earlier later split
        cases earlier with
        | nil => exact now (List.cons.inj split).1
        | cons first earlier =>
            obtain ⟨same, further⟩ := List.cons.inj split
            subst same
            exact prepared earlier later further
      · intro ⟨begun, prepared⟩
        refine rest.mpr ⟨(ask_obeys decoder request orderly).mpr ⟨begun, ?_⟩, ?_⟩
        · intro length
          exact prepared [] requests (congrArg (· :: requests) length)
        · intro earlier later split
          exact prepared (request :: earlier) later (congrArg (request :: ·) split)

/-- Without the question for the length, the protocol is always kept. -/
theorem play_obeys_besides (requests : List Request) (orderly : usage.Kept)
    (begun : ∀ calls ∈ usage.state.2, Obeys Call.needsModeBesidesLength calls) :
    ∀ calls ∈ (usage.play decoder requests).state.2, Obeys Call.needsModeBesidesLength calls := by
  induction requests generalizing usage with
  | nil => exact begun
  | cons request requests ih =>
      apply ih (orderly.ask decoder request)
      exact ask_steady decoder (obeys_stable _) demanding_besides request
        (fun demanded => nomatch demanded) orderly begun

theorem Kept.assigned_most (orderly : usage.Kept) :
    ∀ calls ∈ usage.state.2, calls.countP Call.assigns ≤ 1 := by
  have living {mode : Option Mode} {calls : List Call} (living : Living mode calls) :
      calls.countP Call.assigns ≤ 1 := by
    cases mode with
    | none => exact living.unassigned_count ▸ Nat.zero_le 1
    | some mode => exact Nat.le_of_eq living.assigned_count
  have spent {calls : List Call} (spent : Spent calls) : calls.countP Call.assigns ≤ 1 := by
    cases spent with
    | closed alive =>
        rw [List.countP_append]
        exact living alive
  cases orderly with
  | closed _ old _ => exact fun calls member => spent (old calls member)
  | opened past old _ keeps =>
      obtain ⟨pair, -, holding⟩ := keeps
      obtain ⟨first, rest, histories, begun, -, others⟩ := holding.own
      rw [histories]
      refine List.forall_mem_append.mpr ⟨fun calls member => spent (old calls member), ?_⟩
      refine List.forall_mem_cons.mpr ⟨living begun, ?_⟩
      intro second member
      obtain ⟨mode, -, -, alive⟩ := others second member
      exact living alive

end Usage

theorem glanced_obeys {call : Call} {after : List (List Call)}
    (glanced : Glanced call [] after) : ∀ calls ∈ after, Obeys Call.needsMode calls := by
  rcases glanced with rfl | rfl
  · exact fun _ member => nomatch member
  · refine List.forall_mem_singleton.mpr ?_
    have assigned : Obeys Call.needsMode ([] ++ [.setMode .random]) :=
      Obeys.nil.note fun demanded => nomatch demanded
    have asked : Obeys Call.needsMode ([] ++ [.setMode .random] ++ [call]) :=
      assigned.note fun _ => rfl
    exact asked.note fun demanded => nomatch demanded

/-- Over every decoder, for every sequence of requests and every short look: a handle is assigned
to a mode at most once, and before anything that depends on it but the length of the clip. The
length is asked too early exactly by a request for it while a clip is open whose length is not
known and that no mode was asked for. -/
theorem play_prepares (decoder : Decoder σ H) (state : σ) (requests : List Request) :
    let play := Usage.play decoder { state := (state, []) }
    let histories := (play requests).state.2
    ((play requests).reader.map Prod.snd, (play requests).state.1) =
        performAll decoder ({}, state) requests ∧
      (∀ calls ∈ histories, calls.countP Call.assigns ≤ 1 ∧
        Obeys Call.needsModeBesidesLength calls) ∧
      ((∀ calls ∈ histories, Obeys Call.needsMode calls) ↔
        ∀ earlier later, requests = earlier ++ .operate .duration :: later →
          ¬(play earlier).Unprepared) ∧
      ∀ path : String,
        (∀ calls ∈ (clipDuration decoder.watched path (state, [])).2.2,
          Obeys Call.needsMode calls) ∧
        ∀ calls ∈ (clipFrameOffsets decoder.watched path (state, [])).2.2,
          Obeys Call.needsMode calls := by
  intro play histories
  have begun : Usage.Kept ({ state := (state, []) } : Usage σ H) :=
    .closed rfl (fun _ member => nomatch member) rfl
  have unused (demands : Call → Bool) : ∀ calls ∈ ([] : List (List Call)), Obeys demands calls :=
    fun _ member => nomatch member
  refine ⟨Usage.play_plain decoder _ requests, ?_, ?_, ?_⟩
  · intro calls member
    exact ⟨(begun.play decoder requests).assigned_most calls member,
      Usage.play_obeys_besides decoder requests begun (unused _) calls member⟩
  · rw [Usage.play_obeys decoder requests begun]
    exact and_iff_right (unused _)
  · intro path
    exact ⟨glanced_obeys (probe_glanced decoder path .duration (state, [])),
      glanced_obeys (probe_glanced decoder path .frameOffsets (state, []))⟩

/-- A reader that has just opened a clip asks a handle without a mode for its length. -/
theorem length_asked_early :
    let usage := Usage.play (Tape.decoder [0, 100]) { state := ([], []) }
      [.openClip (.probe "a.mp4"), .operate .duration]
    usage.state.2 = [[.duration]] ∧ ¬Obeys Call.needsMode [.duration] := by
  refine ⟨rfl, ?_⟩
  intro obeys
  exact absurd (obeys [] .duration [] rfl rfl) (by decide)

end Footage.Playback
