import Footage.Proofs.Playback.Lifespan

/-!
# The course of an operation

Whatever a reader is asked, it takes the handles of modes, calls handles that are open, and
changes the settings of handles to come. A handle is called with demanding calls only after a mode
has taken the first one. What all of these steps keep is kept by every operation, so no invariant
of the handles has to go through the operations again.
-/

namespace Footage.Playback

set_option autoImplicit false

variable {σ H : Type}

/-- The call depends on how the handle is going to be used. -/
def Call.needsMode : Call → Bool
  | .nextFrame | .prevFrame | .frameAt _ | .seek _ | .frameOffsets | .duration
  | .nextFrameOffset => true
  | _ => false

/-- The mode that an operation asks for. A reader that is done does not look for the next frame,
and known offsets are not asked for again. -/
def Reader.wants (reader : Reader H) : Operation → Option Mode
  | .nextFrame => if reader.done then none else some .sequential
  | .prevFrame | .nextFrameOffset => some .sequential
  | .seek _ | .frameAt _ => some .random
  | .frameOffsets => if reader.knownOffsets.isSome then none else some .random
  | .setPrevMs _ | .markDone | .duration | .hasAudio | .inputSize | .setMute _
  | .setOutputSize _ _ => none

/-- From one pair and state to another by taking the handles of modes, calling open handles and
changing settings. -/
inductive Course (decoder : Decoder σ H) (demands : Call → Bool) (last : CursorPair H × σ) :
    List Mode → CursorPair H → σ → Prop where
  | rest : Course decoder demands last [] last.1 last.2
  | take {asked : List Mode} {pair : CursorPair H} {state : σ} (mode : Mode)
      (further : Course decoder demands last asked (pair.take decoder mode.slot state).2.1
        (pair.take decoder mode.slot state).2.2) :
      Course decoder demands last (mode :: asked) pair state
  | call {asked : List Mode} {pair : CursorPair H} {state : σ} {handle : H} (call : Call)
      (member : handle ∈ pair.handles) (keeps : call.keeps = true)
      (ready : demands call = true → pair.first = none)
      (further : Course decoder demands last asked pair (decoder.perform handle call state).2) :
      Course decoder demands last asked pair state
  | respec {asked : List Mode} {pair : CursorPair H} {state : σ} (spec : OpenSpec)
      (further : Course decoder demands last asked { pair with spec } state) :
      Course decoder demands last asked pair state

namespace CursorPair

/-- Once a mode has a handle, the first one is taken. -/
def Claimed (pair : CursorPair H) : Prop :=
  ∀ mode handle, pair.held mode = some handle → pair.first = none

variable {pair taken : CursorPair H} {found : Option H} {state after : σ}
  {decoder : Decoder σ H} {mode : Mode}

theorem claim_first (decoder : Decoder σ H) (mode : Mode) (pair : CursorPair H) (state : σ) :
    (pair.claim decoder mode state).2.1.first = none := by
  unfold claim
  split
  · rfl
  · rename_i free
    split
    · exact free
    · exact free

theorem take_claims (claimed : pair.Claimed)
    (took : pair.take decoder mode.slot state = (found, taken, after)) :
    taken.first = none ∧ ∀ handle, found = some handle → handle ∈ taken.handles := by
  refine ⟨?_, fun handle same => take_mem (same ▸ took)⟩
  cases held : pair.held mode with
  | some handle =>
      rw [take_held mode state held] at took
      cases took
      exact claimed mode handle held
  | none =>
      rw [take_missing mode state held] at took
      cases took
      exact first_give.trans (claim_first decoder mode pair state)

end CursorPair

variable {decoder : Decoder σ H} {demands : Call → Bool} {last : CursorPair H × σ}
  {asked : List Mode} {pair : CursorPair H} {state : σ}

namespace Course

theorem taken {mode : Mode} {found : Option H} {taken : CursorPair H} {after : σ}
    (took : pair.take decoder mode.slot state = (found, taken, after))
    (further : Course decoder demands last asked taken after) :
    Course decoder demands last (mode :: asked) pair state := by
  apply Course.take mode
  rw [took]
  exact further

theorem tell_all {call : Call} (keeps : call.keeps = true) (calm : demands call = false)
    (further : Course decoder demands last asked pair (pair.tellAll decoder call state)) :
    Course decoder demands last asked pair state := by
  -- The handles that are still to be told are among those of the pair, but not all of them.
  suffices told : ∀ handles : List H, (∀ handle ∈ handles, handle ∈ pair.handles) → ∀ state,
      Course decoder demands last asked pair
        (handles.foldl (fun state handle => decoder.tell handle call state) state) →
      Course decoder demands last asked pair state from
    told pair.handles (fun _ member => member) state further
  intro handles
  induction handles with
  | nil => exact fun _ _ further => further
  | cons handle handles ih =>
      intro members state further
      rw [List.forall_mem_cons] at members
      apply Course.call call members.1 keeps
      · intro demanding
        exact absurd demanding (by simp [calm])
      · exact ih members.2 _ further

end Course

namespace Reader

variable {reader : Reader H}

/-- An operation leads from the pair of the reader to that of the reader after it. -/
def Courses (decoder : Decoder σ H) (demands : Call → Bool) (asked : List Mode)
    (pair : CursorPair H) (state : σ) (after : Reader H × σ) : Prop :=
  ∃ last, after.1.pair = some last ∧ Course decoder demands (last, after.2) asked pair state

theorem ask_courses (wish : Mode) {call : Call} (keeps : call.keeps = true)
    (holds : reader.pair = some pair) (claimed : pair.Claimed) :
    Courses decoder demands [wish] pair state (reader.ask decoder wish.slot call state).2 := by
  rcases took : pair.take decoder wish.slot state with ⟨found, taken, after⟩
  obtain ⟨first, members⟩ := CursorPair.take_claims claimed took
  simp only [ask, take_eq holds took]
  cases found with
  | none => exact ⟨taken, rfl, .taken took .rest⟩
  | some handle =>
      exact ⟨taken, rfl,
        .taken took (.call call (members handle rfl) keeps (fun _ => first) .rest)⟩

theorem ask_any_courses {call : Call} (keeps : call.keeps = true)
    (ready : demands call = true → pair.first = none) (holds : reader.pair = some pair) :
    Courses decoder demands [] pair state (reader.ask decoder .any call state).2 := by
  have took : pair.take decoder .any state = (pair.anyOpen, pair, state) := rfl
  simp only [ask, take_eq holds took]
  cases found : pair.anyOpen with
  | none => exact ⟨pair, rfl, .rest⟩
  | some handle =>
      exact ⟨pair, rfl, .call call (CursorPair.any_open_mem found) keeps ready .rest⟩

/-- Moving the stepping handle leaves the pair as it is and is a call on that handle. -/
theorem resync_courses {handle : H} (member : handle ∈ pair.handles) (first : pair.first = none)
    (holds : reader.pair = some pair) {moved : Bool} {later : Reader H} {after : σ}
    (synced : reader.resync decoder handle state = (moved, later, after)) :
    later.pair = some pair ∧ ∀ {last asked}, Course decoder demands last asked pair after →
      Course decoder demands last asked pair state := by
  simp only [resync] at synced
  split at synced
  · rcases sought : decoder.perform handle (.seek reader.prevMs) state with ⟨reply, reached⟩
    rw [sought] at synced
    have course {last asked} (further : Course decoder demands last asked pair reached) :
        Course decoder demands last asked pair state := by
      apply Course.call (.seek reader.prevMs) member rfl (fun _ => first)
      rw [sought]
      exact further
    cases reply with
    | false =>
        cases synced
        exact ⟨holds, course⟩
    | true =>
        cases synced
        exact ⟨holds, course⟩
  · cases synced
    exact ⟨holds, fun further => further⟩

theorem step_courses (forward : Bool) (holds : reader.pair = some pair)
    (claimed : pair.Claimed) :
    Courses decoder demands [.sequential] pair state (reader.step decoder forward state).2 := by
  rcases took : pair.take decoder Mode.sequential.slot state with ⟨found, taken, after⟩
  obtain ⟨first, members⟩ := CursorPair.take_claims claimed took
  have stepping : pair.take decoder .sequential state = (found, taken, after) := took
  simp only [step, take_eq holds stepping]
  cases found with
  | none => exact ⟨taken, rfl, .taken took .rest⟩
  | some handle =>
      have member := members handle rfl
      rcases synced : resync decoder handle { reader with pair := some taken } after with
        ⟨moved, later, reached⟩
      obtain ⟨same, course⟩ := resync_courses member first rfl synced
      simp only [synced]
      cases moved with
      | false => exact ⟨taken, same, .taken took (course .rest)⟩
      | true =>
          cases forward with
          | true => exact ⟨taken, same, .taken took
              (course (.call .nextFrame member rfl (fun _ => first) .rest))⟩
          | false => exact ⟨taken, same, .taken took
              (course (.call .prevFrame member rfl (fun _ => first) .rest))⟩

theorem Courses.same {before after : Reader H} {reached : σ}
    (courses : Courses decoder demands asked pair state (before, reached))
    (unchanged : after.pair = before.pair) :
    Courses decoder demands asked pair state (after, reached) := by
  obtain ⟨last, holds, course⟩ := courses
  exact ⟨last, unchanged.trans holds, course⟩

theorem courses_still (holds : reader.pair = some pair) :
    Courses decoder demands [] pair state (reader, state) :=
  ⟨pair, holds, .rest⟩

theorem seek_courses (ms : Int64) (holds : reader.pair = some pair) (claimed : pair.Claimed) :
    Courses decoder demands [.random] pair state (reader.seek decoder ms state).2 := by
  have asked : Courses decoder demands [.random] pair state
      (reader.ask decoder .random (.frameAt ms) state).2 :=
    ask_courses .random rfl holds claimed
  simp only [seek, frameAt]
  rcases reply : reader.ask decoder .random (.frameAt ms) state with ⟨found, later, after⟩
  rw [reply] at asked
  cases found.join with
  | none => exact asked
  | some frame => exact asked.same rfl

/-- Every operation on an open reader is such a course. Only the length of the clip may be asked
of a handle without a mode; where it is, it must not be demanding. -/
theorem perform_courses (mild : ∀ call, demands call = true → call.needsMode = true)
    (operation : Operation) (holds : reader.pair = some pair) (claimed : pair.Claimed)
    (timely : operation = .duration → reader.knownDuration = none → demands .duration = true →
      pair.first = none) :
    Courses decoder demands (reader.wants operation).toList pair state
      (reader.perform decoder operation state) := by
  have calm {call : Call} (free : call.needsMode = false) : demands call = false := by
    apply Bool.eq_false_iff.mpr
    intro demanding
    exact absurd (free.symm.trans (mild call demanding)) (by decide)
  have ready {call : Call} (free : call.needsMode = false) :
      demands call = true → pair.first = none :=
    fun demanding => absurd ((calm free).symm.trans demanding) (by decide)
  cases operation with
  | nextFrame =>
      simp only [perform, nextFrame, wants]
      split
      · exact courses_still holds
      · exact step_courses true holds claimed
  | prevFrame =>
      simp only [perform, prevFrame, wants]
      apply (step_courses false holds claimed).same
      split <;> rfl
  | seek ms => exact seek_courses ms holds claimed
  | frameAt ms => exact ask_courses .random rfl holds claimed
  | setPrevMs ms => exact ⟨pair, holds, .rest⟩
  | markDone => exact ⟨pair, holds, .rest⟩
  | duration =>
      simp only [perform, duration, wants]
      split
      · exact courses_still holds
      · rename_i unknown
        exact (ask_any_courses rfl (timely rfl unknown) holds).same rfl
  | frameOffsets =>
      simp only [perform, frameOffsets, wants]
      cases known : reader.knownOffsets with
      | some offsets => exact courses_still holds
      | none => exact (ask_courses .random rfl holds claimed).same rfl
  | nextFrameOffset => exact ask_courses .sequential rfl holds claimed
  | hasAudio => exact ask_any_courses rfl (ready rfl) holds
  | inputSize => exact ask_any_courses rfl (ready rfl) holds
  | setMute on =>
      simp only [perform, setMute, holds]
      exact ⟨_, rfl, .tell_all rfl (calm rfl) (.respec _ .rest)⟩
  | setOutputSize width height =>
      simp only [perform, setOutputSize, holds]
      exact ⟨_, rfl, .tell_all rfl (calm rfl) (.respec _ .rest)⟩

end Reader

end Footage.Playback
