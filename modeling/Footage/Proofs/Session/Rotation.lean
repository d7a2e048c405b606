import Footage.Proofs.Session.Projection
import Footage.Proofs.Session.Requests

/-!
# Every run of a session is stored by one job

Whatever a session is asked, whatever the engine answers, however the jobs turn out and whenever
the worker moves, the jobs that the mover was given are those of the runs in the chronicle: one
for each run of a recorded stream, given when the first frame of the next run arrives or when the
stream is closed.
-/

namespace Footage.Rotation

open Footage.Capture Footage.Clip Footage.Storage Footage.Services

set_option autoImplicit false

variable {σ H κ : Type}

def stationOf (config : Config.Recorder) (location : String) : Station where
  location := location
  recordDir := config.paths.locationRecordDir location
  storageDir := config.paths.storageDir
  relocator := if config.capture.recordInMemory then .engine else .filesystem

namespace Life

def begin (services : Services σ H κ) (config : Config.Recorder)
    (encoder : Except Config.ConfigError Config.Encoder) (location : String) (state : σ) :
    Life σ H κ :=
  let (session, state) := Session.create services config encoder location state
  { session, state }

structure Rotates {services : Services σ H κ} (recorder : Recorder services.storage)
    (station : Station) (life : Life σ H κ) : Prop where
  /-- The jobs given to the mover, which are started but for the unfinished one, are those of the
  chronicle in its order. -/
  submitted : (recorder.attempts life.state).map Attempt.job ++
    life.session.mover.worker.unfinished = life.chronicle.jobs station
  /-- The polls returned the frames that the chronicle cuts into runs. -/
  returned : life.returned = life.chronicle.frames
  /-- A stream that was closed left one job for each run, if it was recorded. -/
  past : ∀ episode ∈ life.chronicle.past, episode.closing.isSome = true ∧
    (episode.jobs station).length = episode.recordedRuns.length
  /-- The last run of the stream that is open has no job yet. -/
  current : ∀ episode ∈ life.chronicle.current, episode.closing = none ∧
    (episode.jobs station).length = episode.recordedRuns.length - 1
  running : life.chronicle.current.isSome = life.session.isRunning

structure Agrees {services : Services σ H κ} (recorder : Recorder services.storage)
    (station : Station) (life : Life σ H κ) : Prop where
  kept : Kept recorder station life.chronicle [] life.session (life.state, [])
  returned : life.returned = life.chronicle.frames

variable {services : Services σ H κ} {recorder : Recorder services.storage}
  {station : Station} {life : Life σ H κ}

theorem ask_agrees (quiet : services.Quiet recorder) (request : Request σ κ)
    (harmless : request.Harmless recorder) (agrees : life.Agrees recorder station) :
    (life.ask services request).Agrees recorder station := by
  obtain ⟨words, kept, frames⟩ := agrees.kept.perform quiet request harmless
  have heard := kept.serves.heard_eq
  rw [List.nil_append] at kept heard
  subst heard
  refine ⟨{ kept with serves := kept.serves.anew }, ?_⟩
  refine (congrArg (· ++ _) agrees.returned).trans ?_
  exact frames.symm

theorem play_agrees (quiet : services.Quiet recorder) (requests : List (Request σ κ))
    (harmless : ∀ request ∈ requests, request.Harmless recorder)
    (agrees : life.Agrees recorder station) :
    (life.play services requests).Agrees recorder station := by
  induction requests generalizing life with
  | nil => exact agrees
  | cons request requests ih =>
      rw [List.forall_mem_cons] at harmless
      exact ih harmless.2 (ask_agrees quiet request harmless.1 agrees)

theorem Agrees.rotates (agrees : life.Agrees recorder station) :
    life.Rotates recorder station := by
  obtain ⟨⟨-, -, past, standing, serves⟩, returned⟩ := agrees
  refine ⟨serves.started, returned, ?_, ?_, ?_⟩
  · intro episode member
    obtain ⟨closing, closed⟩ := Option.isSome_iff_exists.mp (past episode member)
    refine ⟨past episode member, ?_⟩
    simp only [Episode.jobs, Episode.ending, closed, Option.map_some]
    exact length_jobs_ended station none _ _
  · intro episode member
    rw [Option.mem_def] at member
    rw [member] at standing
    cases standing with
    | running _ _ _ _ _ _ unclosed =>
        refine ⟨unclosed, ?_⟩
        rw [Episode.jobs_of_unclosed unclosed]
        exact length_jobs_unended station none _
  · generalize life.chronicle.current = during at standing
    cases standing with
    | closed phase => rw [Session.isRunning, phase]; rfl
    | running _ _ phase => rw [Session.isRunning, phase]; rfl

/-- A session without a stream, however it lost it, has nothing in flight. -/
theorem Agrees.free (agrees : life.Agrees recorder station)
    (phase : life.session.phase = .closed) : life.session.mover.inFlight = false := by
  have standing := agrees.kept.standing
  generalize life.chronicle.current = during at standing
  cases standing with
  | closed _ _ free => exact free
  | running _ _ running => exact absurd (phase.symm.trans running) (by decide)

theorem Agrees.closes (quiet : services.Quiet recorder) (agrees : life.Agrees recorder station) :
    (life.ask services .close).session.phase = .closed := by
  obtain ⟨words, -, phase, -⟩ := agrees.kept.close quiet false
  exact phase

theorem fresh_agrees (recorder : Recorder services.storage) (config : Config.Recorder)
    (encoder : Except Config.ConfigError Config.Encoder) (location : String) (state : σ)
    (fresh : recorder.attempts (begin services config encoder location state).state = [])
    (intact : recorder.Intact (begin services config encoder location state).state) :
    (begin services config encoder location state).Agrees recorder
      (stationOf config location) where
  kept := {
    station_eq := rfl
    callback := rfl
    past_closed := fun _ member => nomatch member
    standing := .closed rfl rfl rfl
    serves := ⟨[], .free .absent, ⟨intact, rfl⟩, congrArg (·.map Attempt.job ++ []) fresh,
      congrArg (·.filterMap Attempt.outcome) fresh⟩ }
  returned := rfl

theorem begin_agrees (config : Config.Recorder)
    (encoder : Except Config.ConfigError Config.Encoder) (location : String) (state : σ) :
    (begin services.recorded config encoder location (state, [])).Agrees
      services.recorder (stationOf config location) :=
  fresh_agrees services.recorder config encoder location (state, []) rfl trivial

/-- Over every engine, storage and pace, and for every sequence of requests, a new session gives
its mover one job for each run of each recorded stream. The record and the notes that say so
change nothing. -/
theorem play_rotates (services : Services σ H κ) (config : Config.Recorder)
    (encoder : Except Config.ConfigError Config.Encoder) (location : String) (state : σ)
    (requests : List (Request σ κ)) :
    let life := (begin services.recorded config encoder location (state, [])).play
      services.recorded (requests.map (Request.within Prod.fst setFirst))
    (life.session, life.state.1) =
        performAll services (Session.create services config encoder location state) requests ∧
      life.Rotates services.recorder (stationOf config location) := by
  intro life
  refine ⟨play_plain services.recorded_projects (fun _ _ => rfl) _ requests, ?_⟩
  refine (play_agrees services.recorded_quiet _ ?_
    (begin_agrees config encoder location state)).rotates
  exact Request.within_harmless services.recorder Prod.fst setFirst
    (fun _ _ => ⟨rfl, id⟩) requests

end Life

end Footage.Rotation
