import Footage.Proofs.Session.Agreement

/-!
# Each request keeps the agreement

For each request: a session that agrees with its chronicle agrees, after the request, with the
chronicle that has grown by what was heard from the engine meanwhile.
-/

namespace Footage.Rotation

open Footage.Capture Footage.Clip Footage.Storage Footage.Services

set_option autoImplicit false

variable {σ H κ : Type} {services : Services σ H κ} {recorder : Recorder services.storage}
  {station : Station} {chronicle : Chronicle κ} {heard : List Heard} {session : Session H κ}
  {state : σ × List Heard}

/-- The action of a request does not touch the record of jobs. -/
def Request.Harmless (recorder : Recorder services.storage) : Request σ κ → Prop
  | .closeWith killable => ∀ state, recorder.Untouched state (killable state)
  | _ => True

theorem Request.within_harmless {τ : Type} (recorder : Recorder services.storage)
    (get : σ → τ) (set : τ → σ → σ)
    (untouched : ∀ state new, recorder.Untouched state (set new state))
    (requests : List (Request τ κ)) :
    ∀ request ∈ requests.map (Request.within get set), request.Harmless recorder := by
  rw [List.forall_mem_map]
  intro request _
  cases request with
  | closeWith killable => exact fun state => untouched state _
  | _ => trivial

/-- A reply of a session that agrees with its chronicle after what was heard meanwhile. -/
def Brings (recorder : Recorder services.storage) (station : Station) (records : Bool)
    (chronicle : Chronicle κ) (heard : List Heard)
    (reply : Option Playback.Frame × Session H κ × σ × List Heard) : Prop :=
  ∃ words, Kept recorder station (chronicle.tell records words) (heard ++ words) reply.2.1
      reply.2.2 ∧
    (chronicle.tell records words).frames = chronicle.frames ++ reply.1.toList

section Requests

variable (quiet : services.Quiet recorder) (records : Bool)

inductive Farewell : List Heard → Prop where
  | silent : Farewell []
  | closing (size : Option Size) : Farewell (Session.closingWords size)

theorem Farewell.tell_append {words : List Heard} (farewell : Farewell words)
    (later : List Heard) :
    chronicle.tell records (words ++ later) =
      (chronicle.tell records words).tell records later := by
  cases farewell <;> rfl

theorem Farewell.frames {words : List Heard} (farewell : Farewell words) :
    (chronicle.tell records words).frames = chronicle.frames := by
  cases farewell with
  | silent => rfl
  | closing size => exact Chronicle.frames_closed records

include quiet in
theorem Kept.close_with (killable : σ × List Heard → σ × List Heard)
    (harmless : ∀ state, recorder.Untouched state.1 (killable state).1)
    (noted : ∀ state, (killable state).2 = state.2)
    (kept : Kept recorder station chronicle heard session state) :
    let closed := session.closeWith services.overheard killable state
    ∃ words, Farewell words ∧ closed.1.phase = .closed ∧
      Kept recorder station (chronicle.tell records words) (heard ++ words) closed.1
        closed.2 := by
  by_cases phase : session.phase = .closed
  · rw [Session.close_with_closed _ _ _ phase]
    refine ⟨[], .silent, phase, ?_⟩
    rw [List.append_nil]
    exact kept
  · rw [Session.close_with_open _ _ _ phase]
    obtain ⟨size, same, callback, past, standing, serves⟩ := kept.conclude quiet records phase
    refine ⟨_, .closing size, rfl, same, callback, past, standing, ?_⟩
    have acted := serves.untouched _ [] (harmless _) ((noted _).trans (List.append_nil _).symm)
    rw [List.append_nil] at acted
    exact acted

include quiet in
theorem Kept.close (kept : Kept recorder station chronicle heard session state) :
    let closed := session.close services.overheard state
    ∃ words, Farewell words ∧ closed.1.phase = .closed ∧
      Kept recorder station (chronicle.tell records words) (heard ++ words) closed.1
        closed.2 :=
  kept.close_with quiet records id (fun _ => ⟨rfl, id⟩) (fun _ => rfl)

/-- A question to the engine that is not part of a poll, an opening or a close. -/
theorem notes_single (call : StreamCall) (reply : call.Reply) :
    notes [.replied call reply] = [] := by
  cases call <;> rfl

include quiet in
theorem Kept.asked (stream : H) (call : StreamCall)
    (kept : Kept recorder station chronicle heard session state) :
    Brings recorder station records chronicle heard
      (none, session, (services.overheard.engine.perform stream call state).2) := by
  refine ⟨[.replied call (services.overheard.engine.perform stream call state).1], ?_, ?_⟩
  · rw [Chronicle.tell, notes_single]
    exact { kept with serves := kept.serves.perform quiet stream call }
  · rw [Chronicle.tell, notes_single]
    exact (List.append_nil _).symm

theorem Kept.unasked (kept : Kept recorder station chronicle heard session state) :
    Brings recorder station records chronicle heard (none, session, state) :=
  ⟨[], (List.append_nil heard).symm ▸ kept, (List.append_nil _).symm⟩

include quiet in
/-- A poll adds a moment to the episode in progress, or ends the episode. -/
theorem Kept.poll (wantLarge : Bool)
    (kept : Kept recorder station chronicle heard session state) :
    Brings recorder station records chronicle heard
      (session.pollFrame services.overheard wantLarge state) := by
  have standing := kept.standing
  generalize current : chronicle.current = during at standing
  cases standing with
  | closed phase =>
      have unpolled : session.pollFrame services.overheard wantLarge state =
          (none, session, state) := by
        simp [Session.pollFrame, Session.runningStream, Session.isRunning, phase]
      rw [unpolled]
      exact kept.unasked records
  | running episode stream phase opened recording known unclosed location tracks =>
      obtain ⟨captured, size, mover, after, ⟨served, polled⟩ | ⟨served, polled⟩⟩ :=
        Session.poll_frame_serves quiet wantLarge phase opened kept.serves
      · rw [polled]
        refine ⟨[.replied (.pollFrame wantLarge) captured, .replied .isRunning true,
          .replied .processingSize size], ?_, ?_⟩
        · cases captured with
          | none => exact kept.idle records current (fun _ => rfl) served
          | some captured => exact kept.follow records current served
        · refine (Chronicle.frames_polled records current).trans ?_
          cases captured <;> rfl
      · have stopped : Kept recorder station chronicle _ { session with mover } after := {
          station_eq := kept.station_eq
          callback := kept.callback
          past_closed := kept.past_closed
          standing := by
            rw [current]
            exact .running episode stream phase opened recording known unclosed location tracks
          serves := served }
        obtain ⟨words, farewell, -, closed⟩ := stopped.close quiet records
        rw [polled]
        refine ⟨[.replied (.pollFrame wantLarge) captured, .replied .isRunning false,
          .replied .processingSize size] ++ words, ?_, ?_⟩
        · rw [← List.append_assoc]
          exact closed
        · exact (farewell.frames records).trans (List.append_nil _).symm

theorem Kept.begins {words : List Heard} {after : σ × List Heard} (stream : H)
    (size : Option Size) (phase : session.phase = .closed)
    (kept : Kept recorder station chronicle heard session state)
    (served : Serves recorder (chronicle.jobs station) words session.mover after) :
    Kept recorder station (chronicle.add records (.opened size)) words
      { session with
        phase := .running, stream := some stream, recording := records, lastSize := size }
      after := by
  have standing := kept.standing
  generalize current : chronicle.current = during at standing
  cases standing with
  | running _ _ running => exact absurd (phase.symm.trans running) (by decide)
  | closed _ tracker free =>
      have norun : (⟨records, size, [], none⟩ : Episode κ).recordedRuns = [] := by
        cases records <;> rfl
      exact {
        station_eq := kept.station_eq
        callback := kept.callback
        past_closed := by
          simp only [Chronicle.add, current, Option.toList_none, List.append_nil]
          exact kept.past_closed
        standing := by
          refine .running _ stream rfl rfl rfl rfl rfl ?_ ?_
          · rw [tracker]
            rfl
          · rw [norun, tracker]
            exact .nothing
        serves := by rwa [Chronicle.jobs_opened] }

include quiet in
theorem Kept.open_stream (uri : String) (options : StreamOptions)
    (kept : Kept recorder station chronicle heard session state) :
    Brings recorder station options.record chronicle heard
      (none, (session.openStream services.overheard uri options state).2) := by
  obtain ⟨words, farewell, phase, closed⟩ := kept.close quiet options.record
  rcases closes : session.close services.overheard state with ⟨silent, middle⟩
  rw [closes] at phase closed
  rcases Session.open_stream_serves quiet uri options closes closed.serves with
    ⟨after, served, opened⟩ | ⟨stream, size, after, served, opened⟩
  · rw [opened]
    refine ⟨words ++ [.opened false], ?_, ?_⟩
    · rw [farewell.tell_append, ← List.append_assoc]
      exact { closed with serves := served }
    · rw [farewell.tell_append]
      exact (farewell.frames options.record).trans (List.append_nil _).symm
  · rw [opened]
    refine ⟨words ++ [.opened true, .replied .processingSize size], ?_, ?_⟩
    · rw [farewell.tell_append, ← List.append_assoc]
      exact closed.begins options.record stream size phase served
    · rw [farewell.tell_append]
      refine (Chronicle.frames_opened options.record).trans ?_
      exact (farewell.frames options.record).trans (List.append_nil _).symm

include quiet in
theorem Kept.flush (neededMs : Option Int64)
    (kept : Kept recorder station chronicle heard session state) :
    Brings recorder station records chronicle heard
      (none, session, session.flush services.overheard neededMs state) := by
  simp only [Session.flush]
  cases session.stream with
  | none => exact kept.unasked records
  | some stream =>
      simp only
      split
      · exact kept.unasked records
      · exact kept.asked quiet records stream .flush

theorem Standing.regardless {during : Option (Episode κ)}
    (worker : Worker (MoveJob κ) MoveOutcome) (callback : Option κ)
    (standing : Standing station session during) :
    Standing station
      { session with mover := { session.mover with worker }, onMoveFailed := callback }
      during := by
  cases standing with
  | closed phase tracker free => exact .closed phase tracker free
  | running episode stream phase opened recording size unclosed location tracks =>
      exact .running episode stream phase opened recording size unclosed location tracks

theorem Kept.work (kept : Kept recorder station chronicle heard session state) :
    let stepped := session.mover.worker.step services.overheard.storage state
    Brings recorder station records chronicle heard
      (none, { session with mover := { session.mover with worker := stepped.1 } },
        stepped.2) := by
  refine ⟨[], ?_, (List.append_nil _).symm⟩
  rw [List.append_nil]
  exact {
    station_eq := kept.station_eq
    callback := kept.callback
    past_closed := kept.past_closed
    standing := kept.standing.regardless _ session.onMoveFailed
    serves := kept.serves.work }

theorem Kept.register (callback : κ)
    (kept : Kept recorder station chronicle heard session state) :
    Brings recorder station records { chronicle with callback := some callback } heard
      (none, session.withCallback callback, state) := by
  refine ⟨[], ?_, (List.append_nil _).symm⟩
  rw [List.append_nil]
  exact {
    station_eq := kept.station_eq
    callback := rfl
    past_closed := kept.past_closed
    standing := kept.standing.regardless session.mover.worker (some callback)
    serves := kept.serves }

include quiet in
/-- Whatever is asked, the session agrees with its chronicle afterwards. -/
theorem Kept.perform (request : Request σ κ) (harmless : request.Harmless recorder)
    (kept : Kept recorder station chronicle heard session state) :
    Brings recorder station request.records
      { chronicle with callback := request.callback?.or chronicle.callback } heard
      ((request.within Prod.fst setFirst).perform services.overheard session state) := by
  cases request with
  | openStream uri options => exact kept.open_stream quiet uri options
  | poll wantLarge => exact kept.poll quiet false wantLarge
  | flush neededMs => exact kept.flush quiet false neededMs
  | close =>
      obtain ⟨words, farewell, -, closed⟩ := kept.close quiet false
      exact ⟨words, closed, (farewell.frames false).trans (List.append_nil _).symm⟩
  | closeWith killable =>
      obtain ⟨words, farewell, -, closed⟩ := kept.close_with quiet false
        (fun state => setFirst (killable state.1) state) (fun state => harmless state.1)
        (fun _ => rfl)
      exact ⟨words, closed, (farewell.frames false).trans (List.append_nil _).symm⟩
  | register callback => exact kept.register false callback
  | processingSize =>
      simp only [Request.within, Request.perform, Session.processingSize]
      cases session.runningStream with
      | none => exact kept.unasked false
      | some stream => exact kept.asked quiet false stream .processingSize
  | frameRates =>
      simp only [Request.within, Request.perform, Session.frameRates]
      cases session.stream with
      | none => exact kept.unasked false
      | some stream => exact kept.asked quiet false stream .frameRates
  | initialFrameBufferSize =>
      simp only [Request.within, Request.perform, Session.initialFrameBufferSize]
      cases session.runningStream with
      | none => exact kept.unasked false
      | some stream => exact kept.asked quiet false stream .initialFrameBufferSize
  | largeFrame =>
      simp only [Request.within, Request.perform, Session.largeFrame]
      cases session.stream with
      | none => exact kept.unasked false
      | some stream => exact kept.asked quiet false stream .largeFrame
  | work => exact kept.work false

end Requests

end Footage.Rotation
