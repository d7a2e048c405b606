import Footage.Proofs.Playback.Interchange
import Footage.Proofs.Playback.Release
import Footage.Proofs.Playback.Turns

/-!
# The plan of an operation

An operation takes one handle at most and makes calls on it, each chosen by the replies before.
Settings are told to all handles instead. Which handle is needed, which calls are made and what
the reader notes in the end is decided by what it has noted so far, and not by its handles. So
what holds of a take and of a call holds of every operation.
-/

namespace Footage.Playback

set_option autoImplicit false

variable {σ H α : Type}

inductive Answer where
  | frame (frame : Option Frame)
  | time (ms : Option Int64)
  | times (offsets : Option (List Int64))
  | verdict (holds : Bool)
  | size (size : Option (UInt32 × UInt32))
  | nothing
deriving DecidableEq

/-- Calls on one handle, each chosen by the replies to those before, and what comes of them. -/
inductive Plan (α : Type) where
  | done (result : α)
  | ask (call : Call) (next : call.Reply → Plan α)

namespace Plan

def run (decoder : Decoder σ H) (handle : H) : Plan α → σ → α × σ
  | .done result, state => (result, state)
  | .ask call next, state =>
      let (reply, reached) := decoder.perform handle call state
      (next reply).run decoder handle reached

/-- Whatever the replies are, all calls are of this kind, and what comes of them of that. -/
def Within (allowed : Call → Bool) (promised : α → Prop) : Plan α → Prop
  | .done result => promised result
  | .ask call next => allowed call = true ∧ ∀ reply, (next reply).Within allowed promised

variable {decoder : Decoder σ H} {handle : H} {allowed : Call → Bool} {promised : α → Prop}
  {plan : Plan α} {state : σ}

theorem run_keeps (kept : σ → Prop) (within : plan.Within allowed promised)
    (each : ∀ call state, allowed call = true → kept state →
      kept (decoder.perform handle call state).2)
    (begun : kept state) : kept (plan.run decoder handle state).2 := by
  induction plan generalizing state with
  | done result => exact begun
  | ask call next ih =>
      obtain ⟨permitted, further⟩ := within
      exact ih _ (further _) (each call state permitted begun)

theorem run_promised (within : plan.Within allowed promised) (decoder : Decoder σ H) (handle : H)
    (state : σ) : promised (plan.run decoder handle state).1 := by
  induction plan generalizing state with
  | done result => exact within
  | ask call next ih => exact ih _ (within.2 _) _

end Plan

inductive Need where
  | none
  | one (slot : Slot)
  /-- All of them, to be told a setting. -/
  | all (setting : Call)

def Operation.calls : Operation → Call → Bool
  | .nextFrame, .nextFrame | .nextFrame, .seek _ => true
  | .prevFrame, .prevFrame | .prevFrame, .seek _ => true
  | .seek _, .frameAt _ | .frameAt _, .frameAt _ => true
  | .duration, .duration => true
  | .frameOffsets, .frameOffsets => true
  | .nextFrameOffset, .nextFrameOffset => true
  | .hasAudio, .hasAudio => true
  | .inputSize, .inputSize => true
  | _, _ => false

namespace Reader

def answer (decoder : Decoder σ H) (operation : Operation) (reader : Reader H) (state : σ) :
    Answer :=
  match operation with
  | .nextFrame => .frame (reader.nextFrame decoder state).1
  | .prevFrame => .frame (reader.prevFrame decoder state).1
  | .seek ms => .frame (reader.seek decoder ms state).1
  | .frameAt ms => .frame (reader.frameAt decoder ms state).1
  | .duration => .time (reader.duration decoder state).1
  | .frameOffsets => .times (reader.frameOffsets decoder state).1
  | .nextFrameOffset => .time (reader.nextFrameOffset decoder state).1
  | .hasAudio => .verdict (reader.hasAudio decoder state).1
  | .inputSize => .size (reader.inputSize decoder state).1
  | .setPrevMs _ | .markDone | .setMute _ | .setOutputSize _ _ => .nothing

def notes (reader : Reader H) : Reader H := { reader with pair := none }

def need (operation : Operation) (reader : Reader H) : Need :=
  match operation with
  | .nextFrame => if reader.done then .none else .one .sequential
  | .prevFrame | .nextFrameOffset => .one .sequential
  | .seek _ | .frameAt _ => .one .random
  | .duration => if reader.knownDuration.isSome then .none else .one .any
  | .frameOffsets => if reader.knownOffsets.isSome then .none else .one .random
  | .hasAudio | .inputSize => .one .any
  | .setMute on => .all (.setMute on)
  | .setOutputSize width height => .all (.setOutputSize width height)
  | .setPrevMs _ | .markDone => .none

/-- What comes of an operation that has no handle to call. -/
def unaided (operation : Operation) (reader : Reader H) : Answer × Reader H :=
  match operation with
  | .nextFrame | .prevFrame | .seek _ | .frameAt _ => (.frame none, reader)
  | .setPrevMs ms => (.nothing, reader.setPrevMs ms)
  | .markDone => (.nothing, reader.markDone)
  | .duration => (.time reader.knownDuration, reader)
  | .frameOffsets => (.times reader.knownOffsets, reader)
  | .nextFrameOffset => (.time none, reader)
  | .hasAudio => (.verdict false, reader)
  | .inputSize => (.size none, reader)
  | .setMute on => (.nothing, { reader with muted := on })
  | .setOutputSize width height => (.nothing, { reader with requestedSize := (width, height) })

def advance (forward : Bool) (reader : Reader H) : Plan (Answer × Reader H) :=
  match forward with
  | true => .ask .nextFrame fun frame => .done (.frame frame, reader.stepped true frame)
  | false => .ask .prevFrame fun frame =>
      .done (.frame frame, (reader.stepped false frame).settled false frame)

def moved (reader : Reader H) : Reader H :=
  { reader with cursorMs := reader.prevMs, forceReseek := false }

def stridePlan (forward : Bool) (reader : Reader H) : Plan (Answer × Reader H) :=
  if reader.diverged then
    .ask (.seek reader.prevMs) fun (accepted : Bool) =>
      if accepted then reader.moved.advance forward else .done (.frame none, reader)
  else reader.advance forward

def plan (operation : Operation) (reader : Reader H) : Plan (Answer × Reader H) :=
  match operation with
  | .nextFrame => reader.stridePlan true
  | .prevFrame => reader.stridePlan false
  | .seek ms => .ask (.frameAt ms) fun (frame : Option Frame) =>
      .done (.frame frame,
        match frame with
        | some frame => { reader with prevMs := some frame.ms, done := false }
        | none => reader)
  | .frameAt ms => .ask (.frameAt ms) fun frame => .done (.frame frame, reader)
  | .duration => .ask .duration fun length =>
      .done (.time length, { reader with knownDuration := length })
  | .frameOffsets => .ask .frameOffsets fun offsets =>
      .done (.times offsets, { reader with knownOffsets := offsets })
  | .nextFrameOffset => .ask .nextFrameOffset fun offset => .done (.time offset, reader)
  | .hasAudio => .ask .hasAudio fun holds => .done (.verdict holds, reader)
  | .inputSize => .ask .inputSize fun size => .done (.size size, reader)
  | .setPrevMs _ | .markDone | .setMute _ | .setOutputSize _ _ => .done (reader.unaided operation)

def holding (pair : Option (CursorPair H)) (reader : Reader H) : Reader H := { reader with pair }

def carryOut (decoder : Decoder σ H) (operation : Operation) (reader : Reader H) (state : σ) :
    Answer × Reader H × σ :=
  let (answer, later) := reader.notes.unaided operation
  match reader.notes.need operation, reader.pair with
  | .one slot, some pair =>
      match pair.take decoder slot state with
      | (none, taken, state) => (answer, later.holding taken, state)
      | (some handle, taken, state) =>
          let ((answer, later), state) := (reader.notes.plan operation).run decoder handle state
          (answer, later.holding taken, state)
  | .all setting, some pair =>
      (answer, later.holding (some { pair with spec := setting.settle pair.spec }),
        pair.tellAll decoder setting state)
  | _, pair => (answer, later.holding pair, state)

variable {decoder : Decoder σ H} {reader : Reader H} {state : σ}

theorem holding_pair {pair : Option (CursorPair H)} (holds : reader.pair = pair) :
    reader.notes.holding pair = reader := by
  rw [← holds]
  rfl

theorem ask_carried {operation : Operation} (slot : Slot) (call : Call)
    (result : Option call.Reply → Answer × Reader H)
    (needs : reader.notes.need operation = .one slot)
    (lacks : reader.notes.unaided operation = result none)
    (plans : reader.notes.plan operation = .ask call fun reply => .done (result (some reply))) :
    reader.carryOut decoder operation state =
      ((result (reader.ask decoder slot call state).1).1,
        (result (reader.ask decoder slot call state).1).2.holding
          (reader.ask decoder slot call state).2.1.pair,
        (reader.ask decoder slot call state).2.2) := by
  unfold carryOut
  rw [needs, lacks, plans]
  cases holds : reader.pair with
  | none => rw [ask_closed decoder state slot call holds, holds]
  | some pair =>
      rcases took : pair.take decoder slot state with ⟨found, taken, after⟩
      simp only [ask, take_eq holds took, took]
      cases found with
      | none => rfl
      | some handle => rfl

theorem ask_holding (decoder : Decoder σ H) (slot : Slot) (call : Call) (reader : Reader H)
    (state : σ) :
    reader.notes.holding (reader.ask decoder slot call state).2.1.pair =
      (reader.ask decoder slot call state).2.1 := by
  cases holds : reader.pair with
  | none =>
      rw [ask_closed decoder state slot call holds]
      rfl
  | some pair =>
      rcases took : pair.take decoder slot state with ⟨found, taken, after⟩
      simp only [ask, take_eq holds took]
      cases found with
      | none => rfl
      | some handle => rfl

theorem question_carried {operation : Operation} (slot : Slot) (call : Call)
    (answer : Option call.Reply → Answer) (needs : reader.notes.need operation = .one slot)
    (lacks : reader.notes.unaided operation = (answer none, reader.notes))
    (plans : reader.notes.plan operation =
      .ask call fun reply => .done (answer (some reply), reader.notes)) :
    reader.carryOut decoder operation state =
      (answer (reader.ask decoder slot call state).1, (reader.ask decoder slot call state).2) := by
  rw [ask_carried slot call (fun reply => (answer reply, reader.notes)) needs lacks plans,
    ask_holding decoder slot call reader state]

theorem settled_holding (forward : Bool) (frame : Option Frame) (pair : Option (CursorPair H))
    (reader : Reader H) :
    (reader.settled forward frame).holding pair =
      (reader.holding pair).settled forward frame := by
  unfold settled
  split <;> rfl

theorem settled_none (forward : Bool) (reader : Reader H) :
    reader.settled forward none = reader := by
  cases forward <;> rfl

theorem advance_run (forward : Bool) (pair : Option (CursorPair H)) (handle : H)
    (reader : Reader H) (state : σ) :
    let ((answer, later), reached) := (reader.notes.advance forward).run decoder handle state
    (answer, later.holding pair, reached) =
      let (frame, reached) := stepCall decoder forward handle state
      (.frame frame, ((reader.holding pair).stepped forward frame).settled forward frame,
        reached) := by
  cases forward with
  | true => rfl
  | false =>
      simp only [advance, Plan.run, settled_holding]
      rfl

theorem stride_plan_run (forward : Bool) (pair : Option (CursorPair H)) (handle : H)
    (reader : Reader H) (state : σ) :
    let ((answer, later), reached) := (reader.notes.stridePlan forward).run decoder handle state
    (answer, later.holding pair, reached) =
      match (reader.holding pair).resync decoder handle state with
      | (false, later, reached) => (.frame none, later, reached)
      | (true, later, reached) =>
          let (frame, last) := stepCall decoder forward handle reached
          (.frame frame, (later.stepped forward frame).settled forward frame, last) := by
  have same : (reader.holding pair).diverged = reader.notes.diverged := rfl
  simp only [stridePlan, resync, same]
  cases moves : reader.notes.diverged with
  | false =>
      simp only [Bool.false_eq_true, if_false]
      exact advance_run forward pair handle reader state
  | true =>
      rcases sought : decoder.perform handle (.seek (reader.holding pair).prevMs) state with
        ⟨accepted, reached⟩
      have asked : decoder.perform handle (.seek reader.notes.prevMs) state = (accepted, reached) :=
        sought
      simp only [if_true, Plan.run, asked]
      cases accepted with
      | false => rfl
      | true => exact advance_run forward pair handle reader.moved reached

theorem step_carried {operation : Operation} (forward : Bool)
    (needs : reader.notes.need operation = .one .sequential)
    (lacks : reader.notes.unaided operation = (.frame none, reader.notes))
    (plans : reader.notes.plan operation = reader.notes.stridePlan forward) :
    reader.carryOut decoder operation state =
      let (frame, after, reached) := reader.step decoder forward state
      (.frame frame, after.settled forward frame, reached) := by
  unfold carryOut step
  rw [needs, lacks, plans]
  cases holds : reader.pair with
  | none =>
      have took : reader.take decoder .sequential state = (none, reader, state) := by
        simp only [take, holds]
      simp only [took, settled_none, holding_pair holds]
  | some pair =>
      rcases took : pair.take decoder .sequential state with ⟨found, taken, after⟩
      have takes : reader.take decoder .sequential state =
          (found, reader.holding (some taken), after) := take_eq holds took
      simp only [took, takes]
      cases found with
      | none => simp only [settled_none]; rfl
      | some handle =>
          refine (stride_plan_run forward (some taken) handle reader after).trans ?_
          rcases synced : (reader.holding (some taken)).resync decoder handle after with
            ⟨moved, later, reached⟩
          simp only [synced]
          cases moved with
          | false => simp only [settled_none]
          | true => rfl

theorem perform_carried (decoder : Decoder σ H) (operation : Operation) (reader : Reader H)
    (state : σ) :
    (reader.answer decoder operation state, reader.perform decoder operation state) =
      reader.carryOut decoder operation state := by
  cases operation with
  | nextFrame =>
      cases finished : reader.done with
      | true =>
          have needs : reader.notes.need .nextFrame = .none := if_pos finished
          simp only [answer, perform, nextFrame, finished, if_true, carryOut, needs]
          rfl
      | false =>
          have needs : reader.notes.need .nextFrame = .one .sequential :=
            if_neg (Bool.eq_false_iff.mp finished)
          rw [step_carried true needs rfl rfl]
          simp only [answer, perform, nextFrame, finished, Bool.false_eq_true, if_false]
          rfl
  | prevFrame => exact (step_carried false rfl rfl rfl).symm
  | seek ms =>
      let result (reply : Option (Option Frame)) : Answer × Reader H :=
        (.frame reply.join,
          match reply.join with
          | some frame => { reader.notes with prevMs := some frame.ms, done := false }
          | none => reader.notes)
      rw [ask_carried .random (.frameAt ms) result rfl rfl rfl]
      have same := ask_holding decoder .random (.frameAt ms) reader state
      simp only [answer, perform, seek, frameAt]
      rcases asked : reader.ask decoder .random (.frameAt ms) state with ⟨reply, later, reached⟩
      rw [asked] at same
      rw [← same]
      cases found : reply.join <;> simp only [result, found] <;> rfl
  | frameAt ms =>
      exact (question_carried .random (.frameAt ms) (fun reply => .frame reply.join)
        rfl rfl rfl).symm
  | setPrevMs ms => rfl
  | markDone => rfl
  | duration =>
      cases known : reader.knownDuration with
      | some length =>
          have needs : reader.notes.need .duration = .none := if_pos (congrArg Option.isSome known)
          simp only [answer, perform, duration, known, carryOut, needs]
          exact Prod.ext (congrArg Answer.time known.symm) rfl
      | none =>
          have needs : reader.notes.need .duration = .one .any := by simp [need, notes, known]
          let result (reply : Option (Option Int64)) : Answer × Reader H :=
            (.time reply.join, { reader.notes with knownDuration := reply.join })
          have lacks : reader.notes.unaided .duration = result none := by
            simp only [unaided, result, notes, known, Option.join_none]
          rw [ask_carried .any .duration result needs lacks rfl]
          simp only [answer, perform, duration, known]
          rw [← ask_holding decoder .any .duration]
          rfl
  | frameOffsets =>
      cases known : reader.knownOffsets with
      | some offsets =>
          have needs : reader.notes.need .frameOffsets = .none :=
            if_pos (congrArg Option.isSome known)
          simp only [answer, perform, frameOffsets, known, carryOut, needs]
          exact Prod.ext (congrArg Answer.times known.symm) rfl
      | none =>
          have needs : reader.notes.need .frameOffsets = .one .random := by
            simp [need, notes, known]
          let result (reply : Option (Option (List Int64))) : Answer × Reader H :=
            (.times reply.join, { reader.notes with knownOffsets := reply.join })
          have lacks : reader.notes.unaided .frameOffsets = result none := by
            simp only [unaided, result, notes, known, Option.join_none]
          rw [ask_carried .random .frameOffsets result needs lacks rfl]
          simp only [answer, perform, frameOffsets, known]
          rw [← ask_holding decoder .random .frameOffsets]
          rfl
  | nextFrameOffset =>
      exact (question_carried .sequential .nextFrameOffset (fun reply => .time reply.join)
        rfl rfl rfl).symm
  | hasAudio =>
      exact (question_carried .any .hasAudio (fun reply => .verdict (reply.getD false))
        rfl rfl rfl).symm
  | inputSize =>
      exact (question_carried .any .inputSize (fun reply => .size reply.join) rfl rfl rfl).symm
  | setMute on =>
      simp only [answer, perform, setMute, carryOut, notes, need, unaided]
      cases reader.pair <;> rfl
  | setOutputSize width height =>
      simp only [answer, perform, setOutputSize, carryOut, notes, need, unaided]
      cases reader.pair <;> rfl

theorem advance_within {allowed : Call → Bool} {promised : Answer × Reader H → Prop}
    (forward : Bool)
    (asks : allowed (if forward then .nextFrame else .prevFrame) = true)
    (results : ∀ frame, promised
      (.frame frame, (reader.stepped forward frame).settled forward frame)) :
    (reader.advance forward).Within allowed promised := by
  cases forward with
  | true => exact ⟨asks, results⟩
  | false => exact ⟨asks, results⟩

theorem stride_plan_within {allowed : Call → Bool} {promised : Answer × Reader H → Prop}
    (forward : Bool) (seeks : allowed (.seek reader.prevMs) = true)
    (asks : allowed (if forward then .nextFrame else .prevFrame) = true)
    (refused : promised (.frame none, reader))
    (results : ∀ frame, promised
      (.frame frame, (reader.stepped forward frame).settled forward frame))
    (moved_results : ∀ frame, promised
      (.frame frame, (reader.moved.stepped forward frame).settled forward frame)) :
    (reader.stridePlan forward).Within allowed promised := by
  unfold stridePlan
  split
  · refine ⟨seeks, ?_⟩
    intro accepted
    cases accepted with
    | true => exact advance_within forward asks moved_results
    | false => exact refused
  · exact advance_within forward asks results

theorem plan_within (operation : Operation) (reader : Reader H) :
    (reader.plan operation).Within operation.calls fun _ => True := by
  cases operation with
  | nextFrame => exact stride_plan_within true rfl rfl trivial (fun _ => trivial) fun _ => trivial
  | prevFrame => exact stride_plan_within false rfl rfl trivial (fun _ => trivial) fun _ => trivial
  | setPrevMs ms => trivial
  | markDone => trivial
  | setMute on => trivial
  | setOutputSize width height => trivial
  | _ => exact ⟨rfl, fun _ => trivial⟩

/-- The calls of an operation on the handle that it takes change no settings. -/
theorem calls_neutral {operation : Operation} {call : Call} (calls : operation.calls call = true) :
    call ≠ .close ∧ ∀ spec, call.settle spec = spec := by
  cases call with
  | setMute on => cases operation <;> cases calls
  | setOutputSize width height => cases operation <;> cases calls
  | close => cases operation <;> cases calls
  | _ => exact ⟨(nomatch ·), fun _ => rfl⟩

theorem need_all {operation : Operation} {setting : Call}
    (needs : reader.need operation = .all setting) :
    (∃ on, operation = .setMute on ∧ setting = .setMute on) ∨
      ∃ width height, operation = .setOutputSize width height ∧
        setting = .setOutputSize width height := by
  cases operation with
  | setMute on =>
      cases needs
      exact .inl ⟨on, rfl, rfl⟩
  | setOutputSize width height =>
      cases needs
      exact .inr ⟨width, height, rfl, rfl⟩
  | nextFrame => simp only [need] at needs; split at needs <;> cases needs
  | duration => simp only [need] at needs; split at needs <;> cases needs
  | frameOffsets => simp only [need] at needs; split at needs <;> cases needs
  | _ => cases needs

theorem carry_out_one {operation : Operation} {slot : Slot} {pair taken : CursorPair H}
    {found : Option H} {after : σ} (needs : reader.notes.need operation = .one slot)
    (holds : reader.pair = some pair)
    (took : pair.take decoder slot state = (found, taken, after)) :
    reader.carryOut decoder operation state =
      match found with
      | none => ((reader.notes.unaided operation).1,
          (reader.notes.unaided operation).2.holding taken, after)
      | some handle =>
          let ((answer, later), last) := (reader.notes.plan operation).run decoder handle after
          (answer, later.holding taken, last) := by
  unfold carryOut
  rw [needs, holds]
  simp only [took]
  cases found <;> rfl

/-- What is kept by taking the handle that an operation needs, by its calls on an open handle and
by telling all handles a setting, is kept by the operation. -/
theorem perform_keeps_pair {pair : CursorPair H} (kept : CursorPair H → σ → Prop)
    (decoder : Decoder σ H) (operation : Operation) (holds : reader.pair = some pair)
    (begun : kept pair state)
    (takes : ∀ {slot found taken after}, reader.notes.need operation = .one slot →
      pair.take decoder slot state = (found, taken, after) → kept taken after)
    (calls : ∀ {pair : CursorPair H} {handle state} (call : Call), handle ∈ pair.handles →
      operation.calls call = true → kept pair state →
      kept pair (decoder.perform handle call state).2)
    (settles : ∀ {setting : Call}, reader.notes.need operation = .all setting →
      kept { pair with spec := setting.settle pair.spec } (pair.tellAll decoder setting state)) :
    ∃ last, (reader.perform decoder operation state).1.pair = some last ∧
      kept last (reader.perform decoder operation state).2 := by
  have carried := congrArg Prod.snd (perform_carried decoder operation reader state)
  rw [show reader.perform decoder operation state = _ from carried]
  cases needs : reader.notes.need operation with
  | none =>
      unfold carryOut
      rw [needs, holds]
      exact ⟨pair, rfl, begun⟩
  | all setting =>
      unfold carryOut
      rw [needs, holds]
      exact ⟨_, rfl, settles needs⟩
  | one slot =>
      rcases took : pair.take decoder slot state with ⟨found, taken, after⟩
      rw [carry_out_one needs holds took]
      cases found with
      | none => exact ⟨taken, rfl, takes needs took⟩
      | some handle =>
          have member := CursorPair.take_mem took
          refine ⟨taken, rfl, ?_⟩
          exact Plan.run_keeps (kept taken) (plan_within operation reader.notes)
            (fun call _ permitted => calls call member permitted) (takes needs took)

/-- What is promised of an operation without a handle and of its plan holds of its answer and of
what is noted in the end. -/
theorem perform_promised {operation : Operation} {allowed : Call → Bool}
    (promised : Answer → Reader H → Prop)
    (alone : promised (reader.notes.unaided operation).1 (reader.notes.unaided operation).2)
    (plans : (reader.notes.plan operation).Within allowed fun result => promised result.1 result.2)
    (decoder : Decoder σ H) (state : σ) :
    ∃ later, promised (reader.answer decoder operation state) later ∧
      (reader.perform decoder operation state).1 =
        later.holding (reader.perform decoder operation state).1.pair := by
  suffices carried : ∃ later, promised (reader.carryOut decoder operation state).1 later ∧
      (reader.carryOut decoder operation state).2.1 =
        later.holding (reader.carryOut decoder operation state).2.1.pair by
    rw [← perform_carried] at carried
    exact carried
  cases holds : reader.pair with
  | none =>
      unfold carryOut
      rw [holds]
      cases reader.notes.need operation <;> exact ⟨_, alone, rfl⟩
  | some pair =>
      cases needs : reader.notes.need operation with
      | none =>
          unfold carryOut
          rw [needs, holds]
          exact ⟨_, alone, rfl⟩
      | all setting =>
          unfold carryOut
          rw [needs, holds]
          exact ⟨_, alone, rfl⟩
      | one slot =>
          rcases took : pair.take decoder slot state with ⟨found, taken, after⟩
          rw [carry_out_one needs holds took]
          cases found with
          | none => exact ⟨_, alone, rfl⟩
          | some handle => exact ⟨_, Plan.run_promised plans decoder handle after, rfl⟩

theorem operations_keep (kept : Reader H → σ → Prop)
    (each : ∀ reader state operation, kept reader state →
      kept (reader.perform decoder operation state).1 (reader.perform decoder operation state).2)
    (operations : List Operation) (begun : kept reader state) :
    kept (reader.performAll decoder operations state).1
      (reader.performAll decoder operations state).2 := by
  induction operations generalizing reader state with
  | nil => exact begun
  | cons operation operations ih => exact ih (each reader state operation begun)

end Reader

theorem perform_all_keeps {τ G : Type} {decoder : Decoder τ G} (kept : Reader G → τ → Prop)
    {current : Reader G × τ} (begun : kept current.1 current.2)
    (each : ∀ {reader state} (request : Request), kept reader state →
      kept (request.perform decoder reader state).1 (request.perform decoder reader state).2)
    (requests : List Request) :
    kept (performAll decoder current requests).1 (performAll decoder current requests).2 := by
  induction requests generalizing current with
  | nil => exact begun
  | cons request requests ih => exact ih (each request begun)

theorem perform_all_project {τ G : Type} {name : G → H} {part : τ → σ} {whole : Decoder τ G}
    {decoder : Decoder σ H} (projects : Decoder.Projects name part whole decoder)
    (current : Reader G × τ) (requests : List Request) :
    Prod.map (Reader.map name) part (performAll whole current requests) =
      performAll decoder (Prod.map (Reader.map name) part current) requests := by
  induction requests generalizing current with
  | nil => rfl
  | cons request requests ih =>
      rw [performAll, performAll, List.foldl_cons, List.foldl_cons, Prod.map_fst, Prod.map_snd,
        ← request.perform_project projects]
      exact ih _

end Footage.Playback
