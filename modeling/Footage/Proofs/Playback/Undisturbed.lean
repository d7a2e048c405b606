import Footage.Proofs.Playback.Interchange
import Footage.Proofs.Playback.Stepping

/-!
# Lookups do not disturb playback

Over interchangeable handles, playback is decided by a few fields of the reader and the position
at which stepping goes on. Steps and jumps read and change these and nothing else; lookups and
questions about the clip leave them alone, although they decide which mode takes over the first
handle and when the second one is opened. So a sequence of operations plays the same frames with
and without them.
-/

namespace Footage.Playback

set_option autoImplicit false

variable {σ H S P : Type} {decoder : Decoder σ H} {path : String} {startMs : Int64}

def Operation.looksUp : Operation → Bool
  | .frameAt _ | .duration | .frameOffsets | .nextFrameOffset | .hasAudio | .inputSize => true
  | _ => false

structure Outlook (P : Type) where
  spec : OpenSpec
  /-- Where the stepping handle stands, or a new one would stand. -/
  position : P
  prevMs : Option Int64
  cursorMs : Option Int64
  forceReseek : Bool
  done : Bool

/-- The outlook after a step that delivered a frame or none. -/
def Outlook.stepped (forward : Bool) (frame : Option Frame) (position : P)
    (outlook : Outlook P) : Outlook P :=
  { outlook with
    position
    prevMs := frame.map Frame.ms
    cursorMs := frame.map Frame.ms
    done := outlook.done || (forward && frame.isNone) }

inductive Sight where
  /-- What a step or a jump returned. -/
  | frame (frame : Option Frame)
  | standing (prevMs : Option Int64) (done : Bool)
deriving DecidableEq

/-- One thing done with a reader: an operation that belongs to the sequence or was inserted into
it, or a look at the position and the mark of the end. -/
inductive Cue where
  | original (operation : Operation)
  | inserted (operation : Operation)
  | look

def Cue.isInserted : Cue → Bool
  | .inserted _ => true
  | _ => false

namespace Reader

def delivery (decoder : Decoder σ H) (operation : Operation) (reader : Reader H) (state : σ) :
    List Sight :=
  match operation with
  | .nextFrame => [.frame (reader.nextFrame decoder state).1]
  | .prevFrame => [.frame (reader.prevFrame decoder state).1]
  | .seek ms => [.frame (reader.seek decoder ms state).1]
  | _ => []

/-- Everything that is seen while the cues are followed, but for the replies to what was
inserted. -/
def sights (decoder : Decoder σ H) : List Cue → Reader H → σ → List Sight
  | [], _, _ => []
  | .original operation :: rest, reader, state =>
      let (after, between) := reader.perform decoder operation state
      reader.delivery decoder operation state ++ sights decoder rest after between
  | .inserted operation :: rest, reader, state =>
      let (after, between) := reader.perform decoder operation state
      sights decoder rest after between
  | .look :: rest, reader, state =>
      .standing reader.prevMs reader.done :: sights decoder rest reader state

structure Sees (handles : Interchangeable S P decoder path startMs) (outlook : Outlook P)
    (pair : CursorPair H) (reader : Reader H) (state : σ) : Prop where
  holds : reader.pair = some pair
  tuned : pair.InTune handles outlook.position state
  spec : pair.spec = outlook.spec
  prevMs : reader.prevMs = outlook.prevMs
  cursorMs : reader.cursorMs = outlook.cursorMs
  forceReseek : reader.forceReseek = outlook.forceReseek
  done : reader.done = outlook.done

def Has (handles : Interchangeable S P decoder path startMs) (outlook : Outlook P)
    (reader : Reader H) (state : σ) : Prop :=
  ∃ pair, reader.Sees handles outlook pair state

variable {handles : Interchangeable S P decoder path startMs} {outlook : Outlook P}
  {reader : Reader H} {state : σ} {pair : CursorPair H} {handle : H}

theorem Sees.exchange {taken : CursorPair H} {after : σ}
    (sees : reader.Sees handles outlook pair state)
    (tuned : taken.InTune handles outlook.position after) (spec : taken.spec = pair.spec) :
    Sees handles outlook taken { reader with pair := some taken } after :=
  ⟨rfl, tuned, spec.trans sees.spec, sees.prevMs, sees.cursorMs, sees.forceReseek, sees.done⟩

theorem ask_has (slot : Slot) (call : Call) (still : call.still = true)
    (question : ∀ spec, call.settle spec = spec) (has : reader.Has handles outlook state) :
    ∃ reply taken after,
      reader.ask decoder slot call state = (reply, { reader with pair := some taken }, after) ∧
        Has handles outlook { reader with pair := some taken } after := by
  obtain ⟨pair, sees⟩ := has
  obtain ⟨held, taken, between, took, spec, tuned, member⟩ := pair.take_in_tune slot sees.tuned
  have takes : reader.take decoder slot state =
      (held, { reader with pair := some taken }, between) := take_eq sees.holds took
  cases held with
  | none =>
      refine ⟨none, taken, between, ?_, taken, sees.exchange tuned spec⟩
      simp only [ask, takes]
  | some handle =>
      have asked := tuned.ask call still question (member handle rfl)
      refine ⟨some (decoder.perform handle call between).1, taken,
        (decoder.perform handle call between).2, ?_, taken, sees.exchange asked spec⟩
      simp only [ask, takes]

theorem frame_at_has (ms : Int64) (has : reader.Has handles outlook state) :
    ∃ taken after,
      reader.frameAt decoder ms state =
          (handles.lookup (handles.look outlook.spec) ms, { reader with pair := some taken },
            after) ∧
        Has handles outlook { reader with pair := some taken } after := by
  obtain ⟨pair, sees⟩ := has
  obtain ⟨handle, taken, between, took, held, spec, tuned⟩ :=
    pair.take_mode_in_tune .random sees.tuned
  have takes : reader.take decoder .random state =
      (some handle, { reader with pair := some taken }, between) := take_eq sees.holds took
  obtain ⟨reply, found⟩ := tuned.look_up ms held
  rw [spec, sees.spec] at reply
  refine ⟨taken, (decoder.perform handle (.frameAt ms) between).2, ?_, taken,
    sees.exchange found spec⟩
  simp only [frameAt, ask, takes, Option.join_some, reply]

theorem look_up_has (operation : Operation) (looks : operation.looksUp = true)
    (has : reader.Has handles outlook state) :
    (reader.perform decoder operation state).1.Has handles outlook
      (reader.perform decoder operation state).2 := by
  cases operation with
  | frameAt ms =>
      obtain ⟨taken, after, found, kept⟩ := frame_at_has ms has
      simp only [perform, found]
      exact kept
  | duration =>
      simp only [perform, duration]
      cases reader.knownDuration with
      | some known => exact has
      | none =>
          obtain ⟨reply, taken, after, asked, pair, sees⟩ :=
            ask_has .any .duration rfl (fun _ => rfl) has
          simp only [asked]
          exact ⟨pair, { sees with }⟩
  | frameOffsets =>
      simp only [perform, frameOffsets]
      cases reader.knownOffsets with
      | some known => exact has
      | none =>
          obtain ⟨reply, taken, after, asked, pair, sees⟩ :=
            ask_has .random .frameOffsets rfl (fun _ => rfl) has
          simp only [asked]
          exact ⟨pair, { sees with }⟩
  | nextFrameOffset =>
      obtain ⟨reply, taken, after, asked, kept⟩ :=
        ask_has .sequential .nextFrameOffset rfl (fun _ => rfl) has
      simp only [perform, nextFrameOffset, asked]
      exact kept
  | hasAudio =>
      obtain ⟨reply, taken, after, asked, kept⟩ := ask_has .any .hasAudio rfl (fun _ => rfl) has
      simp only [perform, hasAudio, asked]
      exact kept
  | inputSize =>
      obtain ⟨reply, taken, after, asked, kept⟩ := ask_has .any .inputSize rfl (fun _ => rfl) has
      simp only [perform, inputSize, asked]
      exact kept
  | _ => cases looks

/-- Whether the stepping handle agrees to be moved to where the next step starts, and the outlook
after that, are decided by the outlook before. -/
theorem resync_determined (handles : Interchangeable S P decoder path startMs)
    (outlook : Outlook P) :
    ∃ (sought : Bool) (next : Outlook P), ∀ (reader : Reader H) (pair : CursorPair H)
      (handle : H) (state : σ),
      reader.Sees handles outlook pair state → pair.sequential = some handle →
      ∃ (ready : Reader H) (after : σ), reader.resync decoder handle state =
        (sought, ready, after) ∧ ready.Sees handles next pair after := by
  by_cases moves : (outlook.forceReseek || outlook.prevMs != outlook.cursorMs) = true
  · rcases decided : handles.moves (handles.look outlook.spec) outlook.position
      (.seek outlook.prevMs) with ⟨sought, position⟩
    have answers : ∀ (reader : Reader H) (pair : CursorPair H) (handle : H) (state : σ),
        reader.Sees handles outlook pair state → pair.sequential = some handle →
        reader.diverged = true ∧
          ∃ after, decoder.perform handle (.seek reader.prevMs) state = (sought, after) ∧
            pair.InTune handles position after := by
      intro reader pair handle state sees held
      obtain ⟨reply, tuned⟩ := sees.tuned.step (.seek reader.prevMs) rfl held
      rw [sees.spec, sees.prevMs, decided] at reply tuned
      refine ⟨?_, _, Prod.ext ?_ rfl, ?_⟩
      · simp only [diverged, sees.forceReseek, sees.prevMs, sees.cursorMs]
        exact moves
      · rw [sees.prevMs]
        exact reply
      · rw [sees.prevMs]
        exact tuned
    cases sought with
    | true =>
        refine ⟨true, { outlook with
          position, cursorMs := outlook.prevMs, forceReseek := false }, ?_⟩
        intro reader pair handle state sees held
        obtain ⟨diverges, after, sought, tuned⟩ := answers reader pair handle state sees held
        refine ⟨{ reader with cursorMs := reader.prevMs, forceReseek := false }, after, ?_,
          sees.holds, tuned, sees.spec, sees.prevMs, sees.prevMs, rfl, sees.done⟩
        simp only [resync, diverges, if_true, sought]
    | false =>
        refine ⟨false, { outlook with position }, ?_⟩
        intro reader pair handle state sees held
        obtain ⟨diverges, after, sought, tuned⟩ := answers reader pair handle state sees held
        refine ⟨reader, after, ?_, { sees with tuned }⟩
        simp only [resync, diverges, if_true, sought]
  · refine ⟨true, outlook, ?_⟩
    intro reader pair handle state sees held
    refine ⟨reader, state, ?_, sees⟩
    have agrees : reader.diverged = false := by
      simp only [diverged, sees.forceReseek, sees.prevMs, sees.cursorMs]
      exact Bool.eq_false_iff.mpr moves
    simp only [resync, agrees, Bool.false_eq_true, if_false]

theorem Sees.stepped {after : σ} {position : P} (forward : Bool) (frame : Option Frame)
    (sees : reader.Sees handles outlook pair state)
    (tuned : pair.InTune handles position after) :
    (reader.stepped forward frame).Sees handles (outlook.stepped forward frame position) pair
      after := by
  refine ⟨sees.holds, tuned, sees.spec, rfl, rfl, sees.forceReseek, ?_⟩
  simp only [Reader.stepped, Outlook.stepped, sees.done]

/-- The frame of a step and the outlook after it are decided by the outlook before. -/
theorem step_determined (handles : Interchangeable S P decoder path startMs)
    (outlook : Outlook P) (forward : Bool) :
    ∃ (frame : Option Frame) (next : Outlook P), ∀ (reader : Reader H) (state : σ),
      reader.Has handles outlook state →
      ∃ (stepped : Reader H) (after : σ),
        reader.step decoder forward state = (frame, stepped, after) ∧
          stepped.Has handles next after := by
  obtain ⟨sought, ready, resyncs⟩ := resync_determined handles outlook
  have begins : ∀ (reader : Reader H) (state : σ), reader.Has handles outlook state →
      ∃ (handle : H) (taken poised : Reader H) (pair : CursorPair H) (between before : σ),
        reader.take decoder .sequential state = (some handle, taken, between) ∧
          taken.resync decoder handle between = (sought, poised, before) ∧
          poised.Sees handles ready pair before ∧ pair.sequential = some handle := by
    intro reader state has
    obtain ⟨pair, sees⟩ := has
    obtain ⟨handle, taken, between, took, held, spec, tuned⟩ :=
      pair.take_mode_in_tune .sequential sees.tuned
    obtain ⟨poised, before, resynced, seen⟩ :=
      resyncs _ taken handle between (sees.exchange tuned spec) held
    exact ⟨handle, _, poised, taken, between, before, take_eq sees.holds took, resynced, seen,
      held⟩
  cases sought with
  | false =>
      refine ⟨none, ready, ?_⟩
      intro reader state has
      obtain ⟨handle, taken, poised, pair, between, before, takes, resynced, sees, -⟩ :=
        begins reader state has
      refine ⟨poised, before, ?_, pair, sees⟩
      simp only [step, takes, resynced]
  | true =>
      cases forward with
      | true =>
          let moved := handles.moves (handles.look ready.spec) ready.position .nextFrame
          refine ⟨moved.1, ready.stepped true moved.1 moved.2, ?_⟩
          intro reader state has
          obtain ⟨handle, taken, poised, pair, between, before, takes, resynced, sees, held⟩ :=
            begins reader state has
          obtain ⟨reply, tuned⟩ := sees.tuned.step .nextFrame rfl held
          rw [sees.spec] at reply tuned
          refine ⟨poised.stepped true moved.1, _, ?_, pair, sees.stepped true _ tuned⟩
          simp only [step, takes, resynced, if_true, reply, moved]
      | false =>
          let moved := handles.moves (handles.look ready.spec) ready.position .prevFrame
          refine ⟨moved.1, ready.stepped false moved.1 moved.2, ?_⟩
          intro reader state has
          obtain ⟨handle, taken, poised, pair, between, before, takes, resynced, sees, held⟩ :=
            begins reader state has
          obtain ⟨reply, tuned⟩ := sees.tuned.step .prevFrame rfl held
          rw [sees.spec] at reply tuned
          refine ⟨poised.stepped false moved.1, _, ?_, pair, sees.stepped false _ tuned⟩
          simp only [step, takes, resynced, Bool.false_eq_true, if_false, reply, moved]

theorem settle_has (call : Call) (still : call.still = true)
    (has : reader.Has handles outlook state) :
    ∃ pair, reader.pair = some pair ∧
      Has handles { outlook with spec := call.settle outlook.spec }
        { reader with pair := some { pair with spec := call.settle pair.spec } }
        (pair.tellAll decoder call state) := by
  obtain ⟨pair, sees⟩ := has
  refine ⟨pair, sees.holds, _, rfl, sees.tuned.settle call still, ?_, sees.prevMs,
    sees.cursorMs, sees.forceReseek, sees.done⟩
  rw [sees.spec]

/-- What the operation delivers and the outlook after it are decided by the outlook before. -/
def Determined (handles : Interchangeable S P decoder path startMs) (outlook : Outlook P)
    (operation : Operation) : Prop :=
  ∃ (seen : List Sight) (next : Outlook P), ∀ (reader : Reader H) (state : σ),
    reader.Has handles outlook state →
    reader.delivery decoder operation state = seen ∧
      (reader.perform decoder operation state).1.Has handles next
        (reader.perform decoder operation state).2

theorem next_frame_determined (handles : Interchangeable S P decoder path startMs)
    (outlook : Outlook P) : Determined handles outlook .nextFrame := by
  cases finished : outlook.done with
  | true =>
      refine ⟨[.frame none], outlook, ?_⟩
      intro reader state has
      obtain ⟨pair, sees⟩ := has
      have ended : reader.done = true := sees.done.trans finished
      simp only [delivery, perform, nextFrame, ended, if_true, true_and]
      exact ⟨pair, sees⟩
  | false =>
      obtain ⟨frame, next, decides⟩ := step_determined handles outlook true
      refine ⟨[.frame frame], next, ?_⟩
      intro reader state has
      obtain ⟨stepped, after, steps, kept⟩ := decides reader state has
      obtain ⟨pair, sees⟩ := has
      have unfinished : reader.done = false := sees.done.trans finished
      simp only [delivery, perform, nextFrame, unfinished, Bool.false_eq_true, if_false,
        steps, true_and]
      exact kept

theorem prev_frame_determined (handles : Interchangeable S P decoder path startMs)
    (outlook : Outlook P) : Determined handles outlook .prevFrame := by
  obtain ⟨frame, next, decides⟩ := step_determined handles outlook false
  refine ⟨[.frame frame], if frame.isSome then { next with done := false } else next, ?_⟩
  intro reader state has
  obtain ⟨stepped, after, steps, pair, sees⟩ := decides reader state has
  simp only [delivery, perform, prevFrame, steps, true_and]
  split
  · exact ⟨pair, { sees with done := rfl }⟩
  · exact ⟨pair, sees⟩

theorem seek_determined (handles : Interchangeable S P decoder path startMs)
    (outlook : Outlook P) (ms : Int64) : Determined handles outlook (.seek ms) := by
  cases shown : handles.lookup (handles.look outlook.spec) ms with
  | some frame =>
      refine ⟨[.frame (some frame)],
        { outlook with prevMs := some frame.ms, done := false }, ?_⟩
      intro reader state has
      obtain ⟨taken, after, found, pair, sees⟩ := frame_at_has ms has
      simp only [delivery, perform, seek, found, shown, true_and]
      exact ⟨pair, { sees with prevMs := rfl, done := rfl }⟩
  | none =>
      refine ⟨[.frame none], outlook, ?_⟩
      intro reader state has
      obtain ⟨taken, after, found, kept⟩ := frame_at_has ms has
      simp only [delivery, perform, seek, found, shown, true_and]
      exact kept

theorem perform_determined (handles : Interchangeable S P decoder path startMs)
    (outlook : Outlook P) (operation : Operation) : Determined handles outlook operation := by
  cases operation with
  | nextFrame => exact next_frame_determined handles outlook
  | prevFrame => exact prev_frame_determined handles outlook
  | seek ms => exact seek_determined handles outlook ms
  | setPrevMs ms =>
      refine ⟨[], { outlook with prevMs := ms, forceReseek := true, done := false }, ?_⟩
      intro reader state ⟨pair, sees⟩
      exact ⟨rfl, pair, { sees with prevMs := rfl, forceReseek := rfl, done := rfl }⟩
  | markDone =>
      refine ⟨[], { outlook with done := true }, ?_⟩
      intro reader state ⟨pair, sees⟩
      exact ⟨rfl, pair, { sees with done := rfl }⟩
  | setMute on =>
      refine ⟨[], { outlook with spec := (Call.setMute on).settle outlook.spec }, ?_⟩
      intro reader state has
      obtain ⟨pair, holds, after, sees⟩ := settle_has (.setMute on) rfl has
      simp only [delivery, perform, setMute, holds, CursorPair.setMute, true_and]
      exact ⟨after, { sees with }⟩
  | setOutputSize width height =>
      refine ⟨[], { outlook with spec := (Call.setOutputSize width height).settle outlook.spec },
        ?_⟩
      intro reader state has
      obtain ⟨pair, holds, after, sees⟩ := settle_has (.setOutputSize width height) rfl has
      simp only [delivery, perform, setOutputSize, holds, CursorPair.setOutputSize, true_and]
      exact ⟨after, { sees with }⟩
  | _ => exact ⟨[], outlook, fun reader state has => ⟨rfl, look_up_has _ rfl has⟩⟩

/-- Two readers with the same outlook show the same sights, one with the insertions and the other
without. -/
theorem sights_undisturbed (cues : List Cue)
    (lookups : ∀ operation, .inserted operation ∈ cues → operation.looksUp = true)
    (outlook : Outlook P) (other : Reader H) (between : σ)
    (has : reader.Has handles outlook state) (other_has : other.Has handles outlook between) :
    reader.sights decoder cues state =
      other.sights decoder (cues.filter fun cue => !cue.isInserted) between := by
  induction cues generalizing reader other state between outlook with
  | nil => rfl
  | cons cue rest ih =>
      have later : ∀ operation, .inserted operation ∈ rest → operation.looksUp = true :=
        fun operation member => lookups operation (List.mem_cons_of_mem _ member)
      cases cue with
      | original operation =>
          obtain ⟨seen, next, decides⟩ := perform_determined handles outlook operation
          obtain ⟨delivered, kept⟩ := decides reader state has
          obtain ⟨other_delivered, other_kept⟩ := decides other between other_has
          rw [List.filter_cons_of_pos rfl]
          simp only [sights]
          rw [delivered, other_delivered, ih later next _ _ kept other_kept]
      | inserted operation =>
          have looks := lookups operation List.mem_cons_self
          rw [List.filter_cons_of_neg (by simp [Cue.isInserted])]
          exact ih later outlook _ _ (look_up_has operation looks has) other_has
      | look =>
          obtain ⟨pair, sees⟩ := has
          obtain ⟨other_pair, other_sees⟩ := other_has
          rw [List.filter_cons_of_pos rfl]
          simp only [sights]
          rw [sees.prevMs, sees.done, other_sees.prevMs, other_sees.done,
            ih later outlook _ _ ⟨pair, sees⟩ ⟨other_pair, other_sees⟩]

theorem open_clip_has {spec : OpenSpec}
    (handles : Interchangeable S P decoder spec.path spec.startMs) (reader : Reader H)
    (state : σ) :
    ∃ opened after, reader.openClip decoder spec state = (true, opened, after) ∧
      opened.Has handles ⟨spec, handles.front, none, none, false, false⟩ after := by
  rcases closes : reader.close decoder state with ⟨closed, between⟩
  obtain ⟨handle, opens, -, live, begun⟩ := handles.opens spec between rfl rfl
  rcases reply : decoder.openClip spec between with ⟨outcome, after⟩
  rw [reply] at opens live begun
  subst opens
  have forgotten : closed = { reader with
      pair := none, prevMs := none, cursorMs := none, forceReseek := false, done := false,
      knownDuration := none, knownOffsets := none } :=
    (congrArg Prod.fst closes).symm
  subst forgotten
  have tuned : CursorPair.InTune handles ⟨spec, some handle, none, none⟩ handles.front after := by
    refine ⟨⟨rfl, rfl, ?_, by simp [CursorPair.handles]⟩, ?_, ?_, fun _ => rfl, ?_⟩
    · intro other member
      have same : other = handle := by simpa [CursorPair.handles] using member
      exact same ▸ live
    · intro other held
      cases held
      exact begun.trans (handles.begins spec)
    · intro other held
      cases held
    · intro other held
      cases held
  let opened : Reader H :=
    { muted := spec.options.audioMute
      pair := some ⟨spec, some handle, none, none⟩
      path := spec.path
      requestedSize := (spec.width, spec.height)
      firstMs := spec.startMs }
  have result : reader.openClip decoder spec state = (true, opened, after) := by
    simp only [openClip, closes, CursorPair.openClip, reply, opened]
  exact ⟨opened, after, result, _, rfl, tuned, rfl, rfl, rfl, rfl, rfl⟩

/-- Lookups and questions about the clip, inserted anywhere, change no frame that is stepped or
jumped to, and no position that is seen in between. -/
theorem lookups_undisturbing {spec : OpenSpec}
    (handles : Interchangeable S P decoder spec.path spec.startMs) (reader : Reader H)
    (state : σ) (cues : List Cue)
    (lookups : ∀ operation, .inserted operation ∈ cues → operation.looksUp = true) :
    let opened := (reader.openClip decoder spec state).2
    opened.1.sights decoder cues opened.2 =
      opened.1.sights decoder (cues.filter fun cue => !cue.isInserted) opened.2 := by
  obtain ⟨start, after, opens, has⟩ := open_clip_has handles reader state
  rw [opens]
  exact sights_undisturbed cues lookups _ _ _ has has

/-- A lookup takes over the first handle, so stepping gets one of its own, and another one follows
the last frame; the frames are those of the sequence without them. -/
theorem lookups_undisturbing_first_handle :
    let tape := Tape.decoder [0, 100, 200]
    let opened := (Reader.openClip tape (.probe "clip.mp4") {} []).2
    let cues : List Cue :=
      [.inserted (.frameAt 250), .original .nextFrame, .inserted .duration, .look,
        .original (.seek 120), .inserted (.frameAt 0), .inserted .nextFrameOffset,
        .original .nextFrame, .inserted .frameOffsets, .original .nextFrame, .look]
    (∀ operation, .inserted operation ∈ cues → operation.looksUp = true) ∧
      opened.1.sights tape cues opened.2 =
        [.frame (some (Tape.frame 0)), .standing (some 0) false,
          .frame (some (Tape.frame 100)), .frame (some (Tape.frame 200)), .frame none,
          .standing none true] ∧
      opened.1.sights tape (cues.filter fun cue => !cue.isInserted) opened.2 =
        opened.1.sights tape cues opened.2 := by
  intro tape opened cues
  have lookups : ∀ operation, .inserted operation ∈ cues → operation.looksUp = true := by
    intro operation member
    simp only [cues, List.mem_cons, Cue.inserted.injEq, List.not_mem_nil, reduceCtorEq,
      or_false, false_or] at member
    rcases member with rfl | rfl | rfl | rfl | rfl <;> rfl
  refine ⟨lookups, by decide, ?_⟩
  exact (lookups_undisturbing (Tape.interchangeable [0, 100, 200] _ _) {} [] cues lookups).symm

end Reader

end Footage.Playback
