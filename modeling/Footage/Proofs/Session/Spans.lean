import Mathlib.Algebra.Group.Int.Defs
import Footage.Proofs.Session.Reels
import Footage.Proofs.Session.Storing

/-!
# The time that a record covers

A record starts with the first and ends with the last frame of a run, whatever came between. So it
is in order, and its length is one, exactly if the last of these frames is not before the first
and not too far from it. Nothing else orders the two: with a clock that goes back while a file is
written, the index is given a record that ends before it starts.
-/

namespace Footage.Clip

set_option autoImplicit false

structure Record.Sane (record : Record) : Prop where
  ordered : record.startMs ≤ record.endMs
  exact : record.durationMs.toInt = record.endMs.toInt - record.startMs.toInt

theorem Record.sane_iff (record : Record) :
    record.Sane ↔ record.startMs ≤ record.endMs ∧
      record.endMs.toInt - record.startMs.toInt < 2 ^ 63 := by
  have length : record.durationMs.toInt =
      (record.endMs.toInt - record.startMs.toInt).bmod (2 ^ 64) :=
    Int64.toInt_sub record.endMs record.startMs
  constructor
  · rintro ⟨ordered, exact⟩
    have bound := Int64.toInt_lt record.durationMs
    exact ⟨ordered, by omega⟩
  · rintro ⟨ordered, fits⟩
    refine ⟨ordered, ?_⟩
    rw [Int64.le_iff_toInt_le] at ordered
    rw [length]
    apply Int.bmod_eq_of_le <;> omega

end Footage.Clip

namespace Footage.Rotation

open Footage.Capture Footage.Clip Footage.Storage Footage.Services

set_option autoImplicit false

variable {σ H κ : Type}

structure Run.Advances (run : Run κ) : Prop where
  ordered : run.first.ms ≤ run.last.ms
  fits : run.last.ms.toInt - run.first.ms.toInt < 2 ^ 63

/-- No frame is before the epoch, or before the one that came just ahead of it from its file. -/
structure Episode.Steady (episode : Episode κ) : Prop where
  since : ∀ shot ∈ shots episode.openSize episode.moments, 0 ≤ shot.ms
  onward : (shots episode.openSize episode.moments).IsChain fun shot next =>
    shot.fileName = next.fileName → shot.ms ≤ next.ms

section Steadiness

variable {taken : List (Shot κ)}

theorem run_ordered (taken : List (Shot κ))
    (onward : taken.IsChain fun shot next => shot.fileName = next.fileName → shot.ms ≤ next.ms) :
    ∀ run ∈ runs taken, run.first.ms ≤ run.last.ms := by
  revert onward
  apply runs_induction (motive := fun taken all =>
    (taken.IsChain fun shot next => shot.fileName = next.fileName → shot.ms ≤ next.ms) →
      ∀ run ∈ all, run.first.ms ≤ run.last.ms)
  case nil => exact fun _ _ member => nomatch member
  case extend =>
    intro taken shot earlier before split same ih onward
    rw [List.isChain_append] at onward
    obtain ⟨former, -, step⟩ := onward
    have ordered := ih former
    rw [List.forall_mem_append, List.forall_mem_singleton] at ordered ⊢
    have last : before.last ∈ taken.getLast? := last_shot_of_runs split
    exact ⟨ordered.1, Int64.le_trans ordered.2 (step before.last last shot (by simp) same)⟩
  case begins =>
    intro taken shot ih onward
    rw [List.isChain_append] at onward
    rw [List.forall_mem_append, List.forall_mem_singleton]
    exact ⟨ih onward.1, Int64.le_refl _⟩

theorem Episode.Steady.advances {episode : Episode κ} (steady : episode.Steady) :
    ∀ run ∈ episode.runs, run.Advances := by
  intro run member
  have since := steady.since run.first (run_within _ run member).first
  rw [Int64.le_iff_toInt_le] at since
  have start : 0 ≤ run.first.ms.toInt := since
  have bound := Int64.toInt_lt run.last.ms
  exact ⟨run_ordered _ steady.onward run member, by omega⟩

end Steadiness

theorem record_sane_iff (station : Station) (run : Run κ) (before : Option (Run κ))
    (ending : Ending κ) : (run.job station before ending).record.Sane ↔ run.Advances := by
  rw [Record.sane_iff]
  constructor
  · rintro ⟨ordered, fits⟩
    exact ⟨ordered, fits⟩
  · rintro ⟨ordered, fits⟩
    exact ⟨ordered, fits⟩

/-- The times of the records that a session has offered to the index. -/
structure Spans (chronicle : Chronicle κ) (journal : Journal σ κ) : Prop where
  /-- Each record covers one run of a recorded stream, and is as sane as that run. -/
  run : ∀ record ∈ journal.deeds.filterMap Deed.offered,
    ∃ episode ∈ chronicle.episodes, episode.recording = true ∧ ∃ run ∈ episode.runs,
      record.startMs = run.first.ms ∧ record.endMs = run.last.ms ∧ (record.Sane ↔ run.Advances)
  /-- With a steady clock every record is sane. -/
  steady : (∀ episode ∈ chronicle.episodes, episode.recording = true → episode.Steady) →
    ∀ record ∈ journal.deeds.filterMap Deed.offered, record.Sane

theorem Spans.of_faithful {backend : Backend σ κ} {chronicle : Chronicle κ}
    {journal : Journal σ κ} (station : Station) (faithful : journal.Faithful backend)
    (started : ∀ start ∈ journal.starts, start.job ∈ chronicle.jobs station) :
    Spans chronicle journal := by
  have covers : ∀ record ∈ journal.deeds.filterMap Deed.offered,
      ∃ episode ∈ chronicle.episodes, episode.recording = true ∧ ∃ run ∈ episode.runs,
        record.startMs = run.first.ms ∧ record.endMs = run.last.ms ∧
          (record.Sane ↔ run.Advances) := by
    intro record offered
    rw [faithful.offered] at offered
    obtain ⟨start, chosen, rfl⟩ := List.mem_map.mp offered
    have submitted := started start (List.mem_filter.mp chosen).1
    obtain ⟨episode, told, inside⟩ := List.mem_flatMap.mp submitted
    obtain ⟨run, found, before, ending, job⟩ := job_of_run _ _ _ inside
    obtain ⟨recorded, member⟩ := Episode.mem_recorded_runs.mp found
    rw [job]
    exact ⟨episode, told, recorded, run, member, rfl, rfl,
      record_sane_iff station run before ending⟩
  refine ⟨covers, ?_⟩
  intro steady record offered
  obtain ⟨episode, told, recorded, run, found, -, -, sane⟩ := covers record offered
  exact sane.mpr ((steady episode told recorded).advances run found)

namespace Life

variable {engine : Engine σ H} {backend : Backend σ κ} {pace : σ → Nat × σ} {station : Station}
  {life : Life (Journal σ κ) H κ}

theorem Agrees.spans (agrees : life.Agrees (journal engine backend pace) station) :
    Spans life.chronicle life.state := by
  obtain ⟨collected, accounts⟩ := agrees.kept.serves.accounts
  apply Spans.of_faithful station accounts.balanced.intact
  intro start member
  have submitted := agrees.kept.serves.started
  rw [← submitted]
  apply List.mem_append_left
  have jobs : ((journal engine backend pace).attempts life.state).map Attempt.job =
      life.state.starts.map Start.job := backend.recorder_jobs pace life.state
  rw [jobs]
  exact List.mem_map_of_mem member

theorem Agrees.dropped_spans (agrees : life.Agrees (journal engine backend pace) station) :
    Spans (life.ask (journaled engine backend pace) .close).chronicle
      (life.session.drop (journaled engine backend pace) life.state) := by
  have settled := agrees.stores.dropped
  have faithful : (life.session.drop (journaled engine backend pace) life.state).Faithful
      backend := settled.deeds
  apply Spans.of_faithful station faithful
  intro start member
  rw [← settled.processed]
  exact List.mem_map_of_mem member

/-- Over every engine, storage and pace, and for every sequence of requests: what the records of a
session cover, at every point of its life and after it is given up. -/
theorem play_spans (engine : Engine σ H) (backend : Backend σ κ) (pace : σ → Nat × σ)
    (config : Config.Recorder) (encoder : Except Config.ConfigError Config.Encoder)
    (location : String) (state : σ) (requests : List (Request σ κ)) :
    let services := journaled engine backend pace
    let life := (begin services config encoder location { state }).play services
      (requests.map (Request.within Journal.state fun state journal => journal.setState state))
    let plain := ofBackend engine backend pace
    let played :=
      performAll plain (Session.create plain config encoder location state) requests
    (life.session, life.state.state) = played ∧
      (life.session.drop services life.state).state = played.1.drop plain played.2 ∧
      Spans life.chronicle life.state ∧
      Spans (life.ask services .close).chronicle (life.session.drop services life.state) := by
  intro services life plain played
  have projects := journaled_projects engine backend pace
  have same : (life.session, life.state.state) = played :=
    play_plain projects (fun _ _ => rfl) _ requests
  have agrees : life.Agrees (journal engine backend pace) (stationOf config location) := by
    apply play_agrees (journaled_quiet engine backend pace)
    · exact Request.within_harmless (journal engine backend pace) Journal.state
        (fun state journal => journal.setState state) (fun _ _ => ⟨rfl, id⟩) requests
    · exact begin_journaled_agrees engine backend pace config encoder location state
  refine ⟨same, ?_, agrees.spans, agrees.dropped_spans⟩
  rw [← same]
  exact Session.drop_project projects life.session life.state

end Life

namespace Script

def backend : Backend Script Unit where
  files := services.files
  engineMove := fun _ _ script => (.ok (), script)
  commit := fun _ script => (.accepted, script)
  notify := fun _ _ script => script

def spans (script : Script) : List (Int64 × Int64 × Int64) :=
  let services := journaled engine backend fun script => (0, script)
  let life := (Life.begin services config (.ok {}) "yard" { state := script }).play services
    (watch script.length ++ [.close])
  (life.state.deeds.filterMap Deed.offered).map fun record =>
    (record.startMs, record.endMs, record.durationMs)

end Script

/-- A clock that goes back makes a record end before it starts, and one that leaps makes the
length of a record negative. -/
theorem odd_clock_spans :
    Script.spans [Script.shown "one01.mp4" 100, Script.shown "one01.mp4" 50] =
        [(100, 50, -50)] ∧
      Script.spans [Script.shown "one01.mp4" Int64.minValue,
        Script.shown "one01.mp4" Int64.maxValue] =
          [(Int64.minValue, Int64.maxValue, -1)] := by
  decide +kernel

end Footage.Rotation
