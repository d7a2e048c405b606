import Footage.Proofs.Session.Chronicle
import Footage.Proofs.Session.Runs
import Footage.Proofs.Session.Serving

/-!
# A session agrees with its chronicle

The invariant of a session: as long as a stream is open the tracker holds the segment of the last
run, the last known size is that of the episode, and the mover was given the jobs of all episodes
so far; otherwise nothing is in progress and nothing in flight.
-/

namespace Footage

open Footage.Capture Footage.Clip Footage.Storage Footage.Services

set_option autoImplicit false

variable {σ H κ : Type}

def Session.station (session : Session H κ) : Rotation.Station where
  location := session.location
  recordDir := session.recordDir
  storageDir := session.storageDir
  relocator := if session.capture.recordInMemory then .engine else .filesystem

namespace Rotation

/-- The job of a session for the segment of a run is the job of that run. -/
theorem job_for_run (session : Session H κ) (previous : Option (Run κ)) (run : Run κ) :
    session.jobFor (run.segment session.station previous) =
      run.job session.station previous ⟨session.lastSize, session.onMoveFailed⟩ := by
  simp only [Session.jobFor, Session.sized, Run.job]
  cases session.lastSize <;> rfl

/-- Where the only new job is that of the run whose segment has ended, it is what the session
hands over. -/
theorem jobs_handed {station : Station} (session : Session H κ) {ended : Option Segment}
    {ending : Ending κ} {before after : List (MoveJob κ)} (same : session.station = station)
    (takes : ⟨session.lastSize, session.onMoveFailed⟩ = ending)
    (which : ended = none ∧ after = before ∨
      ∃ previous run, ended = some (Run.segment station previous run) ∧
        after = before ++ [run.job station previous ending]) :
    after = before ++ (ended.map (Session.jobFor · session)).toList := by
  subst same takes
  rcases which with ⟨rfl, rfl⟩ | ⟨previous, run, rfl, rfl⟩
  · exact (List.append_nil _).symm
  · rw [← job_for_run]
    rfl

section Episodes

variable {station : Station} {episode : Episode κ} {moment : Moment κ}

theorem known_size_append (known : Option Size) (before : List (Moment κ)) :
    knownSize known (before ++ [moment]) = moment.size.or (knownSize known before) := by
  induction before generalizing known with
  | nil => rfl
  | cons first rest ih => exact ih _

theorem shots_append (known : Option Size) (before : List (Moment κ)) (moment : Moment κ) :
    shots known (before ++ [moment]) =
      shots known before ++ (moment.shot? (knownSize known before)).toList := by
  induction before generalizing known with
  | nil => simp [shots, knownSize]
  | cons first rest ih =>
      simp only [List.cons_append, shots, knownSize, ih, List.append_assoc]

theorem Episode.extend_known_size :
    (episode.extend moment).knownSize = moment.size.or episode.knownSize :=
  known_size_append _ _

theorem Episode.extend_runs (silent : moment.shot? episode.knownSize = none) :
    (episode.extend moment).runs = episode.runs := by
  have taken := shots_append episode.openSize episode.moments moment
  rw [← Episode.knownSize, silent, Option.toList_none, List.append_nil] at taken
  simp only [Episode.runs, Episode.extend, taken]

theorem Episode.extend_shot {shot : Shot κ} (taken : moment.shot? episode.knownSize = some shot) :
    (episode.extend moment).runs =
      Rotation.runs (shots episode.openSize episode.moments ++ [shot]) := by
  have grown := shots_append episode.openSize episode.moments moment
  rw [← Episode.knownSize, taken, Option.toList_some] at grown
  simp only [Episode.runs, Episode.extend, grown]

/-- A stream that is not recorded, or a moment without a shot, brings nothing to be stored. -/
theorem Episode.extend_recorded_runs
    (silent : episode.recording = true → moment.shot? episode.knownSize = none) :
    (episode.extend moment).recordedRuns = episode.recordedRuns := by
  cases recording : episode.recording with
  | false => simp [recordedRuns, extend, recording]
  | true =>
      have same := Episode.extend_runs (silent recording)
      simp only [recordedRuns, recording, if_true, same]
      simp only [extend, recording, if_true]

theorem Episode.jobs_of_unclosed (unclosed : episode.closing = none) :
    episode.jobs station = Rotation.jobs station none none episode.recordedRuns := by
  simp [Episode.jobs, Episode.ending, unclosed]

theorem Episode.extend_observed {shot : Shot κ} {current : Option Segment}
    (recorded : episode.recording = true) (unclosed : episode.closing = none)
    (tracks : Tracks station episode.recordedRuns current)
    (taken : moment.shot? episode.knownSize = some shot) :
    let observed := Tracker.observe ⟨station.location, current⟩ shot.fileName shot.ms
    observed.2.location = station.location ∧
      Tracks station (episode.extend moment).recordedRuns observed.2.current ∧
      (observed.1 = none ∧ (episode.extend moment).jobs station = episode.jobs station ∨
        ∃ previous run, observed.1 = some (Run.segment station previous run) ∧
          (episode.extend moment).jobs station =
            episode.jobs station ++ [run.job station previous shot.ending]) := by
  have before : episode.recordedRuns =
      Rotation.runs (shots episode.openSize episode.moments) := by
    simp only [recordedRuns, recorded, if_true, runs]
  have after : (episode.extend moment).recordedRuns =
      Rotation.runs (shots episode.openSize episode.moments ++ [shot]) := by
    rw [← Episode.extend_shot taken]
    simp only [recordedRuns, extend, recorded, if_true]
  have stillUnclosed : (episode.extend moment).closing = none := unclosed
  rw [Episode.jobs_of_unclosed unclosed, Episode.jobs_of_unclosed stillUnclosed, after, before]
  rw [before] at tracks
  exact tracks.observe shot

end Episodes

namespace Chronicle

variable {station : Station} {chronicle : Chronicle κ} {episode : Episode κ} {records : Bool}
  {size : Option Size}

theorem jobs_of_current (current : chronicle.current = some episode) :
    chronicle.jobs station =
      chronicle.past.flatMap (Episode.jobs station) ++ episode.jobs station := by
  simp [jobs, episodes, current]

theorem jobs_opened :
    (chronicle.add records (.opened size)).jobs station = chronicle.jobs station := by
  have nothing : Episode.jobs station (⟨records, size, [], none⟩ : Episode κ) = [] := by
    cases records <;> rfl
  simp [jobs, episodes, add, nothing]

theorem jobs_polled {captured : Option CapturedFrame} (current : chronicle.current = some episode) :
    (chronicle.add records (.polled captured size)).jobs station =
      chronicle.past.flatMap (Episode.jobs station) ++
        (episode.extend ⟨captured, size, chronicle.callback⟩).jobs station := by
  simp [jobs, episodes, add, current]

theorem jobs_closed (current : chronicle.current = some episode) :
    (chronicle.add records (.closed size)).jobs station =
      chronicle.past.flatMap (Episode.jobs station) ++
        (episode.close ⟨size, chronicle.callback⟩).jobs station := by
  simp [jobs, episodes, add, current]

theorem frames_opened (records : Bool) :
    (chronicle.add records (.opened size)).frames = chronicle.frames := by
  simp [frames, episodes, add]

theorem frames_closed (records : Bool) :
    (chronicle.add records (.closed size)).frames = chronicle.frames := by
  cases current : chronicle.current <;> simp [frames, episodes, add, current, Episode.close]

theorem frames_polled (records : Bool) {captured : Option CapturedFrame}
    (current : chronicle.current = some episode) :
    (chronicle.add records (.polled captured size)).frames =
      chronicle.frames ++ (captured.map CapturedFrame.frame).toList := by
  cases captured <;> simp [frames, episodes, add, current, Episode.extend]

end Chronicle

inductive Standing (station : Station) (session : Session H κ) : Option (Episode κ) → Prop where
  | closed (phase : session.phase = .closed) (tracker : session.tracker = .new station.location)
      (free : session.mover.inFlight = false) : Standing station session none
  | running (episode : Episode κ) (stream : H) (phase : session.phase = .running)
      (opened : session.stream = some stream)
      (recording : session.recording = episode.recording)
      (size : session.lastSize = episode.knownSize) (unclosed : episode.closing = none)
      (location : session.tracker.location = station.location)
      (tracks : Tracks station episode.recordedRuns session.tracker.current) :
      Standing station session (some episode)

/-- A session agrees with its chronicle, its mover with the record of jobs, and the notes with
what was heard. -/
structure Kept {services : Services σ H κ} (recorder : Recorder services.storage)
    (station : Station) (chronicle : Chronicle κ) (heard : List Heard) (session : Session H κ)
    (state : σ × List Heard) : Prop where
  station_eq : session.station = station
  callback : session.onMoveFailed = chronicle.callback
  past_closed : ∀ episode ∈ chronicle.past, episode.closing.isSome = true
  standing : Standing station session chronicle.current
  serves : Serves recorder (chronicle.jobs station) heard session.mover state

section Keeping

variable {services : Services σ H κ} {recorder : Recorder services.storage} {station : Station}
  {chronicle : Chronicle κ} {heard : List Heard} {session : Session H κ}
  {state : σ × List Heard}

/-- What a session that is not closed hands over in the end is the job of the last run. -/
theorem last_job {episode : Episode κ} (same : session.station = station)
    (callback : session.onMoveFailed = chronicle.callback)
    (size : session.lastSize = episode.knownSize) (unclosed : episode.closing = none)
    (tracks : Tracks station episode.recordedRuns session.tracker.current)
    (last : Option Size) :
    (episode.close ⟨last, chronicle.callback⟩).jobs station =
      episode.jobs station ++
        (session.tracker.current.map (Session.jobFor · (session.ended last))).toList := by
  have ending : (episode.close ⟨last, chronicle.callback⟩).ending =
      some ⟨last.or session.lastSize, session.onMoveFailed⟩ := by
    rw [size, callback]
    rfl
  rw [Episode.jobs_of_unclosed unclosed, Episode.jobs, ending]
  exact jobs_handed (session.ended last) same rfl (tracks.close _)

theorem Kept.conclude (quiet : services.Quiet recorder) (records : Bool)
    (kept : Kept recorder station chronicle heard session state)
    (unclosed : session.phase ≠ .closed) :
    ∃ size,
      let concluded := session.conclude services.overheard state
      Kept recorder station (chronicle.add records (.closed size))
        (heard ++ Session.closingWords size) concluded.1.reset concluded.2 := by
  obtain ⟨same, callback, past, standing, serves⟩ := kept
  generalize current : chronicle.current = during at standing
  cases standing with
  | closed phase => exact absurd phase unclosed
  | running episode stream phase opened recording size open_ location tracks =>
      obtain ⟨last, mover, after, concluded, free, served⟩ :=
        Session.conclude_serves quiet opened serves
      refine ⟨last, ?_⟩
      rw [concluded]
      rw [Chronicle.jobs_of_current current, List.append_assoc,
        ← last_job same callback size open_ tracks, ← Chronicle.jobs_closed current] at served
      exact {
        station_eq := same
        callback
        past_closed := by
          simp only [Chronicle.add, current, Option.map_some, Option.toList_some,
            List.forall_mem_append, List.forall_mem_singleton]
          exact ⟨past, rfl⟩
        standing := .closed rfl (by rw [← same]; rfl) free
        serves := served }

/-- A poll that brings nothing to be stored leaves the tracker alone. -/
theorem Kept.idle {episode : Episode κ} {captured : Option CapturedFrame} {size : Option Size}
    {mover : SegmentMover κ} {words : List Heard} {after : σ × List Heard} (records : Bool)
    (kept : Kept recorder station chronicle heard session state)
    (current : chronicle.current = some episode)
    (silent : episode.recording = true →
      Moment.shot? episode.knownSize ⟨captured, size, chronicle.callback⟩ = none)
    (served : Serves recorder (chronicle.jobs station) words mover after) :
    Kept recorder station (chronicle.add records (.polled captured size)) words
      { session with mover, lastSize := size.or session.lastSize } after := by
  have standing := kept.standing
  rw [current] at standing
  cases standing with
  | running _ stream phase opened recording known unclosed location tracks =>
      have same := Episode.extend_recorded_runs silent
      refine ⟨kept.station_eq, kept.callback, kept.past_closed, ?_, ?_⟩
      · simp only [Chronicle.add, current, Option.map_some]
        refine .running _ stream phase opened recording ?_ unclosed location (same ▸ tracks)
        rw [Episode.extend_known_size, ← known]
      · have jobs : (episode.extend ⟨captured, size, chronicle.callback⟩).jobs station =
            episode.jobs station := by
          rw [Episode.jobs_of_unclosed unclosed, ← same]
          exact Episode.jobs_of_unclosed unclosed
        rwa [Chronicle.jobs_polled current, jobs, ← Chronicle.jobs_of_current current]

/-- A poll that brings a shot submits the job of the run that the shot ends, if it ends one. -/
theorem Kept.follow {episode : Episode κ} {captured : CapturedFrame} {size : Option Size}
    {mover : SegmentMover κ} {words : List Heard} {after : σ × List Heard} (records : Bool)
    (kept : Kept recorder station chronicle heard session state)
    (current : chronicle.current = some episode)
    (served : Serves recorder (chronicle.jobs station) words mover after) :
    let followed := Session.follow services.overheard captured
      { session with mover, lastSize := size.or session.lastSize } after
    Kept recorder station (chronicle.add records (.polled (some captured) size)) words
      followed.1 followed.2 := by
  have standing := kept.standing
  rw [current] at standing
  cases standing with
  | running _ stream phase opened recording known unclosed location tracks =>
      simp only [Session.follow]
      split
      case isFalse untracked =>
        refine kept.idle records current (fun recorded => ?_) served
        have unnamed : captured.fileName.isEmpty = true := by
          rw [recording, recorded] at untracked
          simpa using untracked
        simp [Moment.shot?, unnamed]
      case isTrue tracked =>
        have recorded : episode.recording = true := recording ▸ tracked.1
        have taken : Moment.shot? episode.knownSize ⟨some captured, size, chronicle.callback⟩ =
            some ⟨captured.fileName, captured.frame.ms,
              ⟨size.or episode.knownSize, chronicle.callback⟩⟩ := by
          simp [Moment.shot?, tracked.2]
        have tracker : session.tracker = ⟨station.location, session.tracker.current⟩ := by
          rw [← location]
        obtain ⟨located, observed, which⟩ :=
          Episode.extend_observed recorded unclosed tracks taken
        rw [← tracker] at located observed which
        let polled : Session H κ :=
          { session with
            tracker := (session.tracker.observe captured.fileName captured.frame.ms).2
            mover
            lastSize := size.or session.lastSize }
        have jobs := jobs_handed polled kept.station_eq
          (by simp only [polled, known, kept.callback]) which
        obtain ⟨_, _, handed, submitted⟩ :=
          Session.finalize_any_serves polled _ served
        rw [handed]
        refine ⟨kept.station_eq, kept.callback, kept.past_closed, ?_, ?_⟩
        · simp only [Chronicle.add, current, Option.map_some]
          refine .running _ stream phase opened recording ?_ unclosed located observed
          rw [Episode.extend_known_size, ← known]
        · rw [Chronicle.jobs_of_current current, List.append_assoc, ← jobs,
            ← Chronicle.jobs_polled current] at submitted
          exact submitted

end Keeping

end Rotation

end Footage
