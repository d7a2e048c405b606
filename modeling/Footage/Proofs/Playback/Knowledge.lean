import Footage.Proofs.Playback.Autonomy
import Footage.Proofs.Playback.Itinerary

/-!
# What is known about a clip

A decoder is asked for the length of a clip, and for the offsets of its frames, until it knows
them; from then on the reader answers by itself. What it answers was replied for the clip that is
open, as it forgets everything with the clip. Neither question makes a clip have more handles than
its modes do, and the length is asked of a handle that is there already.
-/

namespace Footage.Playback

set_option autoImplicit false

variable {σ H : Type}

/-- What happens between a reader and its decoder. -/
inductive Event where
  | opened (granted : Bool)
  | called (call : Call) (reply : call.Reply)

def Notebook.events : Notebook H H (List Event) :=
  .listed (fun granted => [.opened granted]) fun _ call reply => [.called call reply]

def Decoder.logged (decoder : Decoder σ H) : Decoder (σ × List Event) H := decoder.noting .events

def openings (events : List Event) : Nat :=
  events.countP fun
    | .opened granted => granted
    | .called _ _ => false

inductive Fact where
  | duration
  | frameOffsets

namespace Fact

@[reducible] def Value : Fact → Type
  | .duration => Int64
  | .frameOffsets => List Int64

def operation : Fact → Operation
  | .duration => .duration
  | .frameOffsets => .frameOffsets

def known : (fact : Fact) → Reader H → Option fact.Value
  | .duration, reader => reader.knownDuration
  | .frameOffsets, reader => reader.knownOffsets

def ask (decoder : Decoder σ H) :
    (fact : Fact) → Reader H → σ → Option fact.Value × Reader H × σ
  | .duration, reader, state => reader.duration decoder state
  | .frameOffsets, reader, state => reader.frameOffsets decoder state

def reply? : (fact : Fact) → Event → Option (Option fact.Value)
  | .duration, .called .duration reply => some reply
  | .frameOffsets, .called .frameOffsets reply => some reply
  | _, _ => none

def replies (fact : Fact) (events : List Event) : List (Option fact.Value) :=
  events.filterMap fact.reply?

/-- The decoder did not know until the last reply at most, and that is what is known now. -/
def Recalled (fact : Fact) (reader : Reader H) (events : List Event) : Prop :=
  ∃ misses, fact.replies events =
    List.replicate misses none ++ (fact.known reader).toList.map some

/-- Either nothing was asked, or something that was not known. -/
def Learns (fact : Fact) (reader : Reader H) (events : List Event) (after : Reader H)
    (later : List Event) : Prop :=
  (fact.replies later = fact.replies events ∧ fact.known after = fact.known reader) ∨
    (fact.known reader = none ∧ fact.replies later = fact.replies events ++ [fact.known after])

variable {fact : Fact} {reader after : Reader H} {events later : List Event}

theorem Recalled.learns (recalled : fact.Recalled reader events)
    (learns : fact.Learns reader events after later) : fact.Recalled after later := by
  obtain ⟨misses, replied⟩ := recalled
  rcases learns with ⟨same, kept⟩ | ⟨unknown, further⟩
  · exact ⟨misses, by rw [same, kept, replied]⟩
  · rw [unknown, Option.toList_none, List.map_nil, List.append_nil] at replied
    rw [replied] at further
    cases known : fact.known after with
    | none =>
        refine ⟨misses + 1, further.trans ?_⟩
        rw [known, List.replicate_succ', Option.toList_none, List.map_nil, List.append_nil]
    | some value =>
        refine ⟨misses, further.trans ?_⟩
        rw [known]
        rfl

theorem known_stepped (reader : Reader H) (forward : Bool) (frame : Option Frame) :
    fact.known ((reader.stepped forward frame).settled forward frame) = fact.known reader := by
  unfold Reader.settled
  cases fact <;> split <;> rfl

theorem known_of_other (decoder : Decoder σ H) {operation : Operation}
    (other : operation ≠ fact.operation) (reader : Reader H) (state : σ) :
    fact.known (reader.perform decoder operation state).1 = fact.known reader := by
  let kept (_ : Answer) (later : Reader H) : Prop := fact.known later = fact.known reader
  have noted : fact.known reader.notes = fact.known reader := by cases fact <;> rfl
  suffices planned : kept (reader.notes.unaided operation).1 (reader.notes.unaided operation).2 ∧
      (reader.notes.plan operation).Within (fun _ => true) fun result =>
        kept result.1 result.2 by
    obtain ⟨later, same, result⟩ := Reader.perform_promised kept planned.1 planned.2 decoder state
    rw [result]
    cases fact <;> exact same
  cases operation with
  | nextFrame =>
      refine ⟨noted, Reader.stride_plan_within true rfl rfl noted ?_ ?_⟩
      · exact fun frame => (known_stepped _ true frame).trans noted
      · exact fun frame => (known_stepped _ true frame).trans (by cases fact <;> rfl)
  | prevFrame =>
      refine ⟨noted, Reader.stride_plan_within false rfl rfl noted ?_ ?_⟩
      · exact fun frame => (known_stepped _ false frame).trans noted
      · exact fun frame => (known_stepped _ false frame).trans (by cases fact <;> rfl)
  | seek ms =>
      refine ⟨noted, rfl, ?_⟩
      intro frame
      cases frame <;> cases fact <;> rfl
  | duration =>
      cases fact with
      | duration => exact absurd rfl other
      | frameOffsets => exact ⟨rfl, rfl, fun _ => rfl⟩
  | frameOffsets =>
      cases fact with
      | duration => exact ⟨rfl, rfl, fun _ => rfl⟩
      | frameOffsets => exact absurd rfl other
  | setPrevMs ms => cases fact <;> exact ⟨rfl, rfl⟩
  | markDone => cases fact <;> exact ⟨rfl, rfl⟩
  | setMute on => cases fact <;> exact ⟨rfl, rfl⟩
  | setOutputSize width height => cases fact <;> exact ⟨rfl, rfl⟩
  | _ => cases fact <;> exact ⟨rfl, rfl, fun _ => rfl⟩

theorem ask_known {decoder : Decoder σ H} {value : fact.Value} {state : σ}
    (known : fact.known reader = some value) :
    fact.ask decoder reader state = (some value, reader, state) := by
  cases fact with
  | duration => simp only [ask, Reader.duration, show reader.knownDuration = _ from known]
  | frameOffsets => simp only [ask, Reader.frameOffsets, show reader.knownOffsets = _ from known]

theorem known_ask (decoder : Decoder σ H) (reader : Reader H) (state : σ) :
    fact.known (fact.ask decoder reader state).2.1 = (fact.ask decoder reader state).1 := by
  cases known : fact.known reader with
  | some value => rw [ask_known known, known]
  | none =>
      cases fact with
      | duration =>
          simp only [ask, Reader.duration, show reader.knownDuration = none from known]
          rfl
      | frameOffsets =>
          simp only [ask, Reader.frameOffsets, show reader.knownOffsets = none from known]
          rfl

theorem perform_ask (decoder : Decoder σ H) (reader : Reader H) (state : σ) :
    reader.perform decoder fact.operation state = (fact.ask decoder reader state).2 := by
  cases fact <;> rfl

theorem known_perform_all (decoder : Decoder σ H) {value : fact.Value}
    (operations : List Operation) (state : σ) (known : fact.known reader = some value) :
    fact.known (reader.performAll decoder operations state).1 = some value := by
  refine Reader.operations_keep (fun reader _ => fact.known reader = some value) ?_ operations known
  intro reader state operation known
  by_cases same : operation = fact.operation
  · rw [same, perform_ask, ask_known known]
    exact known
  · rw [known_of_other decoder same, known]

section Replies

variable {decoder : Decoder σ H} {pair taken : CursorPair H} {state reached : σ × List Event}

theorem replies_called {call : Call} (reply : call.Reply)
    (other : fact.operation.calls call = false) :
    fact.replies (events ++ [.called call reply]) = fact.replies events := by
  have silent : fact.reply? (.called call reply) = none := by
    cases fact <;> cases call <;> first | rfl | cases other
  rw [replies, replies, List.filterMap_append, List.filterMap_cons_none silent, List.filterMap_nil,
    List.append_nil]

theorem replies_opened (granted : Bool) :
    fact.replies (events ++ [.opened granted]) = fact.replies events := by
  have silent : fact.reply? (.opened granted) = none := by cases fact <;> rfl
  rw [replies, replies, List.filterMap_append, List.filterMap_cons_none silent, List.filterMap_nil,
    List.append_nil]

theorem logged_open {spec : OpenSpec} {outcome : Except ClipError H}
    (opens : decoder.logged.openClip spec state = (outcome, reached)) :
    reached.2 = state.2 ++ [.opened outcome.isOk] :=
  Decoder.noting_open opens

theorem logged_call (handle : H) (call : Call) :
    decoder.logged.tell handle call state =
      ((decoder.perform handle call state.1).2,
        state.2 ++ [.called call (decoder.perform handle call state.1).1]) := rfl

theorem replies_take {slot : Slot} {found : Option H}
    (took : pair.take decoder.logged slot state = (found, taken, reached)) :
    fact.replies reached.2 = fact.replies state.2 := by
  have silent (mode : Mode) : fact.operation.calls (.setMode mode) = false := by
    cases fact <;> rfl
  have assigned (events : List Event) (mode : Mode) :
      fact.replies (events ++ [.called (.setMode mode) ()]) = fact.replies events :=
    replies_called _ (silent mode)
  cases CursorPair.take_takes took with
  | any => rfl
  | held held => rfl
  | first missing free => exact assigned _ _
  | opened missing taken opens =>
      refine (assigned _ _).trans ?_
      rw [logged_open opens, replies_opened]
  | refused missing taken refuses => rw [logged_open refuses, replies_opened]

/-- No two operations make the same call, but for stepping and looking up. -/
theorem calls_of_other {operation : Operation} {call : Call} (other : operation ≠ fact.operation)
    (calls : operation.calls call = true) : fact.operation.calls call = false := by
  cases fact <;> cases call <;> first
    | rfl
    | cases operation <;> first | exact absurd rfl other | cases calls

theorem replies_of_other {operation : Operation} (other : operation ≠ fact.operation) :
    fact.replies (reader.perform decoder.logged operation state).2.2 = fact.replies state.2 := by
  cases holds : reader.pair with
  | none => rw [(Reader.perform_closed decoder.logged state operation holds).2]
  | some pair =>
      have settled {setting : Call} (needs : reader.notes.need operation = .all setting) :
          fact.replies (pair.tellAll decoder.logged setting state).2 = fact.replies state.2 := by
        have silent : fact.operation.calls setting = false := by
          rcases Reader.need_all needs with ⟨on, -, rfl⟩ | ⟨width, height, -, rfl⟩ <;>
            cases fact <;> rfl
        exact CursorPair.tell_all_keeps
          (fun later : σ × List Event => fact.replies later.2 = fact.replies state.2) setting rfl
          fun _ _ _ kept => (replies_called _ silent).trans kept
      obtain ⟨last, -, kept⟩ := Reader.perform_keeps_pair
        (fun _ (later : σ × List Event) => fact.replies later.2 = fact.replies state.2)
        decoder.logged operation holds rfl (fun _ took => replies_take took)
        (fun call _ calls kept => (replies_called _ (calls_of_other other calls)).trans kept)
        settled
      exact kept

theorem replies_asked (decoder : Decoder σ H) (fact : Fact) (reader : Reader H)
    (state : σ × List Event) (slot : Slot) (call : Call) (value : call.Reply → Option fact.Value)
    (counts : ∀ reply, fact.reply? (.called call reply) = some (value reply)) :
    fact.replies (reader.ask decoder.logged slot call state).2.2.2 =
      fact.replies state.2 ++ ((reader.ask decoder.logged slot call state).1.map value).toList := by
  cases holds : reader.pair with
  | none =>
      rw [Reader.ask_closed decoder.logged state slot call holds]
      exact (List.append_nil _).symm
  | some pair =>
      rcases took : pair.take decoder.logged slot state with ⟨found, taken, reached⟩
      have before : fact.replies reached.2 = fact.replies state.2 := replies_take took
      simp only [Reader.ask, Reader.take_eq holds took]
      cases found with
      | none => exact before.trans (List.append_nil _).symm
      | some handle =>
          rw [← before]
          refine List.filterMap_append.trans (congrArg _ ?_)
          exact List.filterMap_cons_some (counts _)

theorem Learns.of_asked {reply : Option (Option fact.Value)} (unknown : fact.known reader = none)
    (noted : fact.known after = reply.join)
    (replied : fact.replies later = fact.replies events ++ reply.toList) :
    fact.Learns reader events after later := by
  cases reply with
  | none =>
      rw [Option.toList_none, List.append_nil] at replied
      exact .inl ⟨replied, noted.trans unknown.symm⟩
  | some value =>
      rw [Option.toList_some] at replied
      refine .inr ⟨unknown, replied.trans ?_⟩
      rw [noted, Option.join_some]

/-- The decoder is asked where the answer is not known and there is a handle. -/
theorem learns_asked (fact : Fact) (decoder : Decoder σ H) (reader : Reader H)
    (state : σ × List Event) :
    fact.Learns reader state.2 (fact.ask decoder.logged reader state).2.1
      (fact.ask decoder.logged reader state).2.2.2 := by
  cases known : fact.known reader with
  | some value =>
      rw [ask_known known]
      exact .inl ⟨rfl, rfl⟩
  | none =>
      cases fact with
      | duration =>
          have replied := replies_asked decoder .duration reader state .any .duration id
            fun _ => rfl
          rw [Option.map_id] at replied
          simp only [ask, Reader.duration, show reader.knownDuration = none from known]
          exact .of_asked known rfl replied
      | frameOffsets =>
          have replied := replies_asked decoder .frameOffsets reader state .random .frameOffsets id
            fun _ => rfl
          rw [Option.map_id] at replied
          simp only [ask, Reader.frameOffsets, show reader.knownOffsets = none from known]
          exact .of_asked known rfl replied

theorem learns_performed (fact : Fact) (decoder : Decoder σ H) (operation : Operation)
    (reader : Reader H) (state : σ × List Event) :
    fact.Learns reader state.2 (reader.perform decoder.logged operation state).1
      (reader.perform decoder.logged operation state).2.2 := by
  by_cases same : operation = fact.operation
  · rw [same, perform_ask]
    exact learns_asked fact decoder reader state
  · exact .inl ⟨replies_of_other same, known_of_other decoder.logged same reader state⟩

theorem recalled_performed (fact : Fact) (decoder : Decoder σ H) (operations : List Operation)
    (state : σ × List Event) (recalled : fact.Recalled reader state.2) :
    fact.Recalled (reader.performAll decoder.logged operations state).1
      (reader.performAll decoder.logged operations state).2.2 :=
  Reader.operations_keep (fun reader (state : σ × List Event) => fact.Recalled reader state.2)
    (fun reader state operation recalled =>
      recalled.learns (learns_performed fact decoder operation reader state)) operations recalled

end Replies

end Fact

section Openings

variable {decoder : Decoder σ H} {pair taken : CursorPair H} {state reached : σ × List Event}
  {events : List Event}

theorem openings_called (call : Call) (reply : call.Reply) :
    openings (events ++ [.called call reply]) = openings events := by
  simp [openings]

theorem openings_opened (granted : Bool) :
    openings (events ++ [.opened granted]) = openings events + granted.toNat := by
  cases granted <;> simp [openings]

namespace CursorPair

structure Counted (pair : CursorPair H) (events : List Event) : Prop where
  claimed : pair.Claimed
  count : pair.openCount = 1 + openings events

theorem lend_claimed {mode : Mode} {handle : H} : (pair.lend mode handle).Claimed := by
  intro other held _
  cases mode <;> rfl

theorem open_count_lend {mode : Mode} {handle : H} (missing : pair.held mode = none) :
    (pair.lend mode handle).openCount + pair.first.toList.length = pair.openCount + 1 := by
  obtain ⟨spec, first, sequential, random⟩ := pair
  cases mode with
  | sequential =>
      obtain rfl : sequential = none := missing
      cases first <;> cases random <;> rfl
  | random =>
      obtain rfl : random = none := missing
      cases first <;> cases sequential <;> rfl

theorem Claimed.at_most_two (claimed : pair.Claimed) : pair.openCount ≤ 2 := by
  obtain ⟨spec, first, sequential, random⟩ := pair
  cases first with
  | none => cases sequential <;> cases random <;> simp [openCount, handles]
  | some handle =>
      cases sequential with
      | some stepping => cases claimed .sequential stepping rfl
      | none =>
          cases random with
          | some looking => cases claimed .random looking rfl
          | none => simp [openCount, handles]

theorem Counted.take {slot : Slot} {found : Option H} (counted : pair.Counted state.2)
    (took : pair.take decoder.logged slot state = (found, taken, reached)) :
    taken.Counted reached.2 := by
  have count := counted.count
  cases take_takes took with
  | any => exact counted
  | held held => exact counted
  | @first mode handle missing free =>
      have moved : (pair.lend mode handle).openCount + _ = _ := open_count_lend missing
      refine ⟨lend_claimed, ?_⟩
      rw [free, Option.toList_some, List.length_singleton] at moved
      rw [Fact.logged_call, openings_called]
      omega
  | @opened mode handle between missing taken opens =>
      have added : (pair.lend mode handle).openCount + _ = _ := open_count_lend missing
      refine ⟨lend_claimed, ?_⟩
      rw [taken, Option.toList_none, List.length_nil] at added
      rw [Fact.logged_call, openings_called, Fact.logged_open opens, openings_opened]
      simp only [Except.isOk, Except.toBool, Bool.toNat_true]
      omega
  | refused missing taken refuses =>
      refine ⟨counted.claimed, ?_⟩
      rw [Fact.logged_open refuses, openings_opened]
      exact count

theorem Counted.called (counted : pair.Counted events) (call : Call) (reply : call.Reply) :
    pair.Counted (events ++ [.called call reply]) :=
  ⟨counted.claimed, counted.count.trans (congrArg _ (openings_called call reply).symm)⟩

end CursorPair

namespace Reader

def Counted (reader : Reader H) (events : List Event) : Prop :=
  (reader.pair = none ∧ openings events = 0) ∨
    ∃ pair, reader.pair = some pair ∧ pair.Counted events

variable {reader : Reader H}

theorem Counted.perform (counted : reader.Counted state.2) (operation : Operation) :
    (reader.perform decoder.logged operation state).1.Counted
      (reader.perform decoder.logged operation state).2.2 := by
  rcases counted with ⟨closed, none_opened⟩ | ⟨pair, holds, counted⟩
  · obtain ⟨still, same⟩ := perform_closed decoder.logged state operation closed
    rw [same]
    exact .inl ⟨still, none_opened⟩
  · have settled {setting : Call} (_ : reader.notes.need operation = .all setting) :
        CursorPair.Counted { pair with spec := setting.settle pair.spec }
          (pair.tellAll decoder.logged setting state).2 := by
      have told : pair.Counted (pair.tellAll decoder.logged setting state).2 :=
        CursorPair.tell_all_keeps (fun later : σ × List Event => pair.Counted later.2) setting
          counted fun _ _ _ kept => kept.called setting _
      exact ⟨fun mode handle held => told.claimed mode handle held, told.count⟩
    obtain ⟨last, later, kept⟩ := perform_keeps_pair
      (fun last (later : σ × List Event) => last.Counted later.2) decoder.logged operation holds
      counted (fun _ took => counted.take took) (fun call _ _ kept => kept.called call _) settled
    exact .inr ⟨last, later, kept⟩

theorem Counted.perform_all (counted : reader.Counted state.2) (operations : List Operation) :
    (reader.performAll decoder.logged operations state).1.Counted
      (reader.performAll decoder.logged operations state).2.2 :=
  operations_keep (fun reader (state : σ × List Event) => reader.Counted state.2)
    (fun _ _ operation counted => counted.perform operation) operations counted

/-- The length of the clip is asked of a handle that is there already. -/
theorem duration_opens_none (decoder : Decoder σ H) (reader : Reader H)
    (state : σ × List Event) :
    ∃ asked, (reader.duration decoder.logged state).2.2.2 = state.2 ++ asked ∧
      ∀ granted, .opened granted ∉ asked := by
  have nothing : ∃ asked, state.2 = state.2 ++ asked ∧ ∀ granted, Event.opened granted ∉ asked :=
    ⟨[], (List.append_nil _).symm, fun _ => List.not_mem_nil⟩
  simp only [duration]
  cases reader.knownDuration with
  | some length => exact nothing
  | none =>
      cases holds : reader.pair with
      | none =>
          rw [ask_closed decoder.logged state .any .duration holds]
          exact nothing
      | some pair =>
          have took : pair.take decoder.logged .any state = (pair.anyOpen, pair, state) := rfl
          simp only [ask, take_eq holds took]
          cases pair.anyOpen with
          | none => exact nothing
          | some handle =>
              refine ⟨[.called .duration _], rfl, ?_⟩
              intro granted member
              cases List.mem_singleton.mp member

end Reader

def Request.bounds : Request → Bool
  | .operate _ => false
  | _ => true

theorem bounds_begin (decoder : Decoder σ H) (reader : Reader H) (state : σ) {request : Request}
    (bounds : request.bounds = true) :
    (request.perform decoder reader state).1.Counted [] ∧
      ∀ fact : Fact, fact.known (request.perform decoder reader state).1 = none := by
  cases request with
  | operate operation => cases bounds
  | close => exact ⟨.inl ⟨rfl, rfl⟩, fun fact => by cases fact <;> rfl⟩
  | openClip spec =>
      simp only [Request.perform]
      rcases Reader.open_clip_outcome decoder spec reader state with
        ⟨handle, after, -, opened⟩ | ⟨cause, after, -, opened⟩
      · rw [opened]
        refine ⟨.inr ⟨_, rfl, ?_, rfl⟩, fun fact => by cases fact <;> rfl⟩
        intro mode held impossible
        cases mode <;> cases impossible
      · rw [opened]
        exact ⟨.inl ⟨rfl, rfl⟩, fun fact => by cases fact <;> rfl⟩

end Openings

/-- Over every decoder and whatever was done before: from the moment a clip is opened or closed,
the decoder is asked for a fact only until it replies one; at most one more handle is opened, and
none to learn the length; and an answer stands as long as the clip is open. Where handles are
decided by their specification, a reader that opened a clip is like a new one. -/
theorem facts_of_the_open_clip (decoder : Decoder σ H) (reader : Reader H) (state : σ) :
    (∀ (request : Request) (operations : List Operation), request.bounds = true →
      let begun := request.perform decoder reader state
      let last := begun.1.performAll decoder.logged operations (begun.2, [])
      (last.1, last.2.1) = begun.1.performAll decoder operations begun.2 ∧
        (∀ fact : Fact, fact.Recalled last.1 last.2.2) ∧
        openings last.2.2 ≤ 1 ∧
        (∀ pair ∈ last.1.pair, pair.openCount = 1 + openings last.2.2) ∧
        ∃ asked, (last.1.duration decoder.logged last.2).2.2.2 = last.2.2 ++ asked ∧
          ∀ granted, .opened granted ∉ asked) ∧
    (∀ (fact : Fact) (value : fact.Value) (operations : List Operation),
      (fact.ask decoder reader state).1 = some value →
      let learned := (fact.ask decoder reader state).2
      let later := learned.1.performAll decoder operations learned.2
      fact.ask decoder later.1 later.2 = (some value, later.1, later.2)) ∧
    ∀ {C : Type} (_ : Autonomous C decoder) (spec : OpenSpec) (there : σ)
      (requests : List Request), (reader.openClip decoder spec state).1 = true →
      let opened := (reader.openClip decoder spec state).2
      let renewed := (Reader.openClip decoder spec {} there).2
      let last := (performAll decoder opened requests).1
      let last_renewed := (performAll decoder renewed requests).1
      (Reader.openClip decoder spec {} there).1 = true ∧
        answers decoder opened requests = answers decoder renewed requests ∧
        last.prevMs = last_renewed.prevMs ∧ last.done = last_renewed.done ∧
        last.notes = last_renewed.notes := by
  refine ⟨?_, ?_, ?_⟩
  · intro request operations bounds begun last
    obtain ⟨counted, unknown⟩ := bounds_begin decoder reader state bounds
    have counted_begun : begun.1.Counted (begun.2, ([] : List Event)).2 := counted
    have counted_last : last.1.Counted last.2.2 := counted_begun.perform_all operations
    refine ⟨Reader.perform_all_project_id (decoder.noting_projects .events) operations begun.1 (begun.2, []), ?_, ?_, ?_,
      Reader.duration_opens_none decoder last.1 last.2⟩
    · intro fact
      refine fact.recalled_performed decoder operations (begun.2, []) ⟨0, ?_⟩
      rw [unknown fact]
      rfl
    · rcases counted_last with ⟨-, none_opened⟩ | ⟨pair, -, counted⟩
      · omega
      · have most := counted.claimed.at_most_two
        have count := counted.count
        omega
    · intro pair holds
      rcases counted_last with ⟨closed, -⟩ | ⟨same, held, counted⟩
      · cases closed.symm.trans holds
      · cases held.symm.trans holds
        exact counted.count
  · intro fact value operations answered learned later
    have known : fact.known learned.1 = some value :=
      (fact.known_ask decoder reader state).trans answered
    exact Fact.ask_known (fact.known_perform_all decoder operations learned.2 known)
  · intro C autonomous spec there requests granted opened renewed last last_renewed
    obtain ⟨granted_there, answered, notes⟩ :=
      open_clip_renews autonomous spec reader state there granted requests
    have prevMs : last.notes.prevMs = last_renewed.notes.prevMs := congrArg Reader.prevMs notes
    have done : last.notes.done = last_renewed.notes.done := congrArg Reader.done notes
    exact ⟨granted_there, answered, prevMs, done, notes⟩

/-- A tape is asked once for each fact, and serves a reader that had another clip as it would a
new one. -/
theorem facts_of_a_tape :
    let tape := Tape.decoder [0, 100]
    let spec := OpenSpec.probe "clip.mp4"
    let before := (Reader.openClip tape (.probe "before.mp4") {} []).2
    let operations : List Operation :=
      [.frameOffsets, .nextFrame, .duration, .frameOffsets, .duration]
    let begun := (Request.openClip spec).perform tape before.1 before.2
    let last := begun.1.performAll tape.logged operations (begun.2, [])
    (Request.openClip spec).bounds = true ∧
      Fact.duration.replies last.2.2 = [some 100] ∧
      Fact.frameOffsets.replies last.2.2 = [some [0, 100]] ∧ openings last.2.2 ≤ 1 ∧
      (Fact.duration.ask tape before.1 before.2).1 = some 100 ∧
      (let learned := (Fact.duration.ask tape before.1 before.2).2
        let later := learned.1.performAll tape operations learned.2
        Fact.duration.ask tape later.1 later.2 = (some 100, later.1, later.2)) ∧
      (before.1.openClip tape spec before.2).1 = true ∧
      answers tape begun [.operate (.seek 100), .operate .prevFrame] =
        answers tape (Reader.openClip tape spec {} []).2
          [.operate (.seek 100), .operate .prevFrame] := by
  intro tape spec before operations begun last
  obtain ⟨asked, stands, renewed⟩ := facts_of_the_open_clip tape before.1 before.2
  obtain ⟨-, -, few, -⟩ := asked (.openClip spec) operations rfl
  obtain ⟨-, answered, -⟩ := renewed (Tape.autonomous [0, 100]) spec []
    [.operate (.seek 100), .operate .prevFrame] rfl
  exact ⟨rfl, by decide, by decide, few, by decide, stands .duration 100 operations rfl, rfl,
    answered⟩

end Footage.Playback
