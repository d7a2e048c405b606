import Footage.Proofs.Session.Chronicle
import Footage.Proofs.Storage.Projection

/-!
# Notes and records do not change a session

Services over a larger state project onto services over a part of it when each of their calls
gives the same reply and the same part. Then every request does, so what is heard and recorded of
a session is heard and recorded of the session as it is.
-/

namespace Footage

open Footage.Capture Footage.Clip Footage.Storage

set_option autoImplicit false

variable {τ σ H κ : Type}

structure Services.Projects (part : τ → σ) (whole : Services τ H κ) (services : Services σ H κ) :
    Prop where
  open_stream : ∀ request state, Prod.map id part (whole.engine.openStream request state) =
    services.engine.openStream request (part state)
  set_hw_device : ∀ device state, part (whole.engine.setHwDevice device state) =
    services.engine.setHwDevice device (part state)
  perform : ∀ stream call state, Prod.map id part (whole.engine.perform stream call state) =
    services.engine.perform stream call (part state)
  storage : Runner.Projects part whole.storage services.storage

theorem Services.overheard_projects (services : Services σ H κ) :
    Services.Projects Prod.fst services.overheard services where
  open_stream := fun _ _ => rfl
  set_hw_device := fun _ _ => rfl
  perform := fun _ _ _ => rfl
  storage := { run := fun _ _ => rfl, pace := fun _ => rfl }

theorem Services.recorded_projects (services : Services σ H κ) :
    Services.Projects Prod.fst services.recorded services where
  open_stream := fun _ _ => rfl
  set_hw_device := fun _ _ => rfl
  perform := fun _ _ _ => rfl
  storage := services.storage.recorded_projects

variable {part : τ → σ} {whole : Services τ H κ} {services : Services σ H κ}

theorem Services.Projects.answer (projects : Services.Projects part whole services) {stream : H}
    {call : StreamCall} {state after : τ} {reply : call.Reply}
    (answered : whole.engine.perform stream call state = (reply, after)) :
    services.engine.perform stream call (part state) = (reply, part after) := by
  rw [← projects.perform, answered]
  rfl

theorem Services.Projects.tell (projects : Services.Projects part whole services) (stream : H)
    (call : StreamCall) (state : τ) :
    part (whole.engine.tell stream call state) =
      services.engine.tell stream call (part state) :=
  congrArg Prod.snd (projects.perform stream call state)

namespace Session

variable (projects : Services.Projects part whole services) (session : Session H κ) (state : τ)

include projects

theorem finalize_any_project (segment : Option Segment) :
    Prod.map id part (session.finalizeAny whole segment state) =
      session.finalizeAny services segment (part state) := by
  cases segment with
  | none => rfl
  | some segment =>
      simp only [finalizeAny, finalize]
      rw [← Mover.submit_project projects.storage]
      rfl

theorem release_stream_project :
    Prod.map id part (session.releaseStream whole state) =
      session.releaseStream services (part state) := by
  cases opened : session.stream with
  | none => simp only [releaseStream, opened, Prod.map_apply, id_eq]
  | some stream =>
      rcases asked : whole.engine.perform stream .processingSize
        (whole.engine.tell stream .flush state) with ⟨size, after⟩
      have answered := projects.answer asked
      rw [projects.tell] at answered
      simp only [releaseStream, opened, asked, answered, Prod.map_apply, id_eq,
        projects.tell]

theorem store_rest_project :
    Prod.map id part (session.storeRest whole state) =
      session.storeRest services (part state) := by
  simp only [storeRest, Mover.drain]
  rw [← finalize_any_project projects]
  simp only [Prod.map_fst, Prod.map_snd, id_eq]
  rw [← Mover.wait_project projects.storage]
  rfl

theorem close_with_project (before : τ → τ) (after : σ → σ)
    (same : ∀ state, part (before state) = after (part state)) :
    Prod.map id part (session.closeWith whole before state) =
      session.closeWith services after (part state) := by
  simp only [closeWith]
  rw [← release_stream_project projects]
  simp only [Prod.map_fst, Prod.map_snd, id_eq]
  rw [← store_rest_project projects]
  split
  · rfl
  · exact Prod.ext rfl (same _)

theorem close_project :
    Prod.map id part (session.close whole state) = session.close services (part state) :=
  close_with_project projects session state id id fun _ => rfl

theorem select_device_project :
    part (session.selectDevice whole state) = session.selectDevice services (part state) := by
  simp only [selectDevice]
  split
  · rfl
  · exact projects.set_hw_device _ _

theorem open_stream_project (uri : String) (options : StreamOptions) :
    Prod.map id (Prod.map id part) (session.openStream whole uri options state) =
      session.openStream services uri options (part state) := by
  simp only [openStream]
  rw [← close_project projects]
  simp only [Prod.map_fst, Prod.map_snd, id_eq]
  rw [← select_device_project projects, ← projects.open_stream]
  rcases whole.engine.openStream _ _ with ⟨reply, after⟩
  cases reply with
  | error cause => rfl
  | ok stream =>
      rcases sized : whole.engine.perform stream .processingSize after with ⟨size, last⟩
      simp only [Prod.map_apply, id_eq, sized, projects.answer sized]

theorem follow_project (captured : CapturedFrame) :
    Prod.map id part (session.follow whole captured state) =
      session.follow services captured (part state) := by
  simp only [follow]
  split
  · exact finalize_any_project projects _ state _
  · rfl

theorem poll_frame_project (wantLarge : Bool) :
    Prod.map id (Prod.map id part) (session.pollFrame whole wantLarge state) =
      session.pollFrame services wantLarge (part state) := by
  cases opened : session.runningStream with
  | none => simp only [pollFrame, opened, Prod.map_apply, id_eq]
  | some stream =>
      rcases polled : whole.engine.perform stream (.pollFrame wantLarge) state with
        ⟨captured, first⟩
      rcases asked : whole.engine.perform stream .isRunning first with ⟨running, second⟩
      rcases sized : whole.engine.perform stream .processingSize second with ⟨size, third⟩
      simp only [pollFrame, opened, polled, asked, sized, projects.answer polled,
        projects.answer asked, projects.answer sized,
        ← Mover.try_reap_project projects.storage, Prod.map_fst, Prod.map_snd, id_eq]
      cases running with
      | false =>
          simp only [Bool.false_eq_true, if_false, ← close_project projects]
          rfl
      | true =>
          cases captured with
          | none => rfl
          | some captured =>
              simp only [if_true, ← follow_project projects]
              rfl

theorem flush_project (neededMs : Option Int64) :
    part (session.flush whole neededMs state) =
      session.flush services neededMs (part state) := by
  simp only [flush]
  cases session.stream with
  | none => rfl
  | some stream =>
      simp only
      split
      · rfl
      · exact projects.tell stream .flush state

theorem drop_project :
    part (session.drop whole state) = session.drop services (part state) := by
  simp only [drop]
  rw [← close_project projects]
  exact congrArg Prod.snd (Mover.shutdown_project projects.storage _ _)

end Session

namespace Rotation

section Requests

variable {part : τ → σ} {whole : Services τ H κ} {services : Services σ H κ}

theorem Request.perform_project (projects : Services.Projects part whole services)
    (set : σ → τ → τ)
    (exchanged : ∀ new old, part (set new old) = new) (session : Session H κ) (state : τ)
    (request : Request σ κ) :
    Prod.map id (Prod.map id part) ((request.within part set).perform whole session state) =
      request.perform services session (part state) := by
  cases request with
  | openStream uri options =>
      simp only [within, perform, ← Session.open_stream_project projects]
      rfl
  | poll wantLarge => exact Session.poll_frame_project projects session state wantLarge
  | flush neededMs =>
      simp only [within, perform, ← Session.flush_project projects, Prod.map_apply, id_eq]
  | close =>
      simp only [within, perform, ← Session.close_project projects]
      rfl
  | closeWith killable =>
      simp only [within, perform, ← Session.close_with_project projects session state
        (fun whole => set (killable (part whole)) whole) killable (fun _ => exchanged _ _)]
      rfl
  | register callback => rfl
  | processingSize =>
      simp only [within, perform, Session.processingSize]
      cases session.runningStream with
      | none => rfl
      | some stream => exact Prod.ext rfl (Prod.ext rfl (projects.tell stream _ state))
  | frameRates =>
      simp only [within, perform, Session.frameRates]
      cases session.stream with
      | none => rfl
      | some stream => exact Prod.ext rfl (Prod.ext rfl (projects.tell stream _ state))
  | initialFrameBufferSize =>
      simp only [within, perform, Session.initialFrameBufferSize]
      cases session.runningStream with
      | none => rfl
      | some stream => exact Prod.ext rfl (Prod.ext rfl (projects.tell stream _ state))
  | largeFrame =>
      simp only [within, perform, Session.largeFrame]
      cases session.stream with
      | none => rfl
      | some stream => exact Prod.ext rfl (Prod.ext rfl (projects.tell stream _ state))
  | work =>
      simp only [within, perform, ← Worker.step_project projects.storage]
      rfl

end Requests

def performAll (services : Services σ H κ) (session : Session H κ × σ)
    (requests : List (Request σ κ)) : Session H κ × σ :=
  requests.foldl (fun current request => (request.perform services current.1 current.2).2) session

theorem perform_all_project {part : τ → σ} {whole : Services τ H κ} {services : Services σ H κ}
    {set : σ → τ → τ} (projects : Services.Projects part whole services)
    (exchanged : ∀ new old, part (set new old) = new) (session : Session H κ) (state : τ)
    (requests : List (Request σ κ)) :
    Prod.map id part (performAll whole (session, state) (requests.map (Request.within part set))) =
      performAll services (session, part state) requests := by
  induction requests generalizing session state with
  | nil => rfl
  | cons request requests ih =>
      simp only [performAll, List.map_cons, List.foldl_cons]
      rw [← Request.perform_project projects set exchanged session state request]
      exact ih _ _

theorem Life.play_eq (services : Services σ H κ) (life : Life σ H κ)
    (requests : List (Request σ κ)) :
    ((life.play services requests).session, (life.play services requests).state) =
      performAll services (life.session, life.state) requests := by
  induction requests generalizing life with
  | nil => rfl
  | cons request requests ih =>
      have asked := Request.perform_project services.overheard_projects setFirst
        (fun _ _ => rfl) life.session (life.state, []) request
      simp only [performAll, List.foldl_cons]
      rw [← asked]
      exact ih (life.ask services request)

/-- What is recorded and heard of a session is recorded and heard of the session as it is. -/
theorem Life.play_plain {part : τ → σ} {whole : Services τ H κ} {services : Services σ H κ}
    {set : σ → τ → τ} (projects : Services.Projects part whole services)
    (exchanged : ∀ new old, part (set new old) = new) (life : Life τ H κ)
    (requests : List (Request σ κ)) :
    let played := life.play whole (requests.map (Request.within part set))
    (played.session, part played.state) =
      performAll services (life.session, part life.state) requests := by
  intro played
  rw [← perform_all_project projects exchanged, ← Life.play_eq]
  rfl

end Rotation

end Footage
