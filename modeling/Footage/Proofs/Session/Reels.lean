import Footage.Proofs.Session.Named
import Footage.Proofs.Session.Rotation

/-!
# Frames that no segment covers

A reel is an episode together with the frames of the polls that found its stream stopped. Reels
are read off the answers of the engine like episodes, so a session has the same episodes either
way. Every file that a frame of a running stream names is stored, up to the last of these frames.
A frame that comes in the poll that finds the stream stopped is not followed any more, so its file
is stored only if an earlier frame has named it.
-/

namespace Footage.Rotation

open Footage.Capture Footage.Clip Footage.Storage Footage.Services

set_option autoImplicit false

variable {σ H κ : Type}

structure Reel (κ : Type) where
  episode : Episode κ
  /-- The frames of the polls that found the stream stopped. -/
  late : List CapturedFrame := []

namespace Reel

/-- The frames of the polls that found the stream running. -/
def heeded (reel : Reel κ) : List CapturedFrame :=
  reel.episode.moments.filterMap Moment.captured

def delivered (reel : Reel κ) : List CapturedFrame := reel.heeded ++ reel.late

def fileNames (station : Station) (reel : Reel κ) : List String :=
  (reel.episode.jobs station).map fun job => job.segment.fileName

structure Covered (station : Station) (reel : Reel κ) : Prop where
  /-- The files of the segments are the files that the heeded frames name. -/
  files : ∀ name, name ≠ "" → (name ∈ reel.fileNames station ↔
    name ∈ reel.heeded.map CapturedFrame.fileName)
  /-- The last segment ends with the last heeded frame that names a file. -/
  ends : (reel.episode.jobs station).getLast?.map (fun job => job.segment.endMs) =
    (reel.heeded.filter CapturedFrame.isNamed).getLast?.map fun captured => captured.frame.ms
  /-- Nothing that was delivered is left without a segment, unless it came too late. -/
  whole : (∀ captured ∈ reel.delivered, captured.isNamed = true →
      captured.fileName ∈ reel.fileNames station) ↔
    ∀ captured ∈ reel.late, captured.isNamed = true →
      captured.fileName ∈ reel.heeded.map CapturedFrame.fileName

section Covering

variable {station : Station} {reel : Reel κ} {closing : Ending κ}

theorem jobs_of_closed (station : Station) (recorded : reel.episode.recording = true)
    (closed : reel.episode.closing = some closing) :
    ∃ ending, reel.episode.jobs station =
      Rotation.jobs station (some ending) none (runs (shots reel.episode.openSize
        reel.episode.moments)) := by
  refine ⟨{ closing with size := closing.size.or reel.episode.knownSize }, ?_⟩
  simp only [Episode.jobs, Episode.ending, closed, Option.map_some, Episode.recordedRuns,
    recorded, if_true, Episode.runs]

theorem named_shots (reel : Reel κ) :
    (shots reel.episode.openSize reel.episode.moments).map (fun shot => (shot.fileName, shot.ms)) =
      (reel.heeded.filter CapturedFrame.isNamed).map
        fun captured => (captured.fileName, captured.frame.ms) :=
  shots_frames reel.episode.openSize reel.episode.moments

theorem shot_names (reel : Reel κ) :
    (shots reel.episode.openSize reel.episode.moments).map Shot.fileName =
      (reel.heeded.filter CapturedFrame.isNamed).map CapturedFrame.fileName := by
  have told := congrArg (List.map Prod.fst) reel.named_shots
  rw [List.map_map, List.map_map] at told
  exact told

theorem shot_times (reel : Reel κ) :
    (shots reel.episode.openSize reel.episode.moments).map Shot.ms =
      (reel.heeded.filter CapturedFrame.isNamed).map fun captured => captured.frame.ms := by
  have told := congrArg (List.map Prod.snd) reel.named_shots
  rw [List.map_map, List.map_map] at told
  exact told

theorem mem_file_names (recorded : reel.episode.recording = true)
    (closed : reel.episode.closing = some closing) {name : String} (named : name ≠ "") :
    name ∈ reel.fileNames station ↔ name ∈ reel.heeded.map CapturedFrame.fileName := by
  obtain ⟨ending, made⟩ := jobs_of_closed station recorded closed
  have files : reel.fileNames station =
      (runs (shots reel.episode.openSize reel.episode.moments)).map
        fun run => run.first.fileName := by
    rw [fileNames, made]
    apply jobs_map
    exact fun _ _ _ => rfl
  have shotNames : name ∈ reel.fileNames station ↔
      name ∈ (shots reel.episode.openSize reel.episode.moments).map Shot.fileName := by
    rw [files]
    constructor
    · intro member
      obtain ⟨run, inside, rfl⟩ := List.mem_map.mp member
      exact List.mem_map_of_mem (run_within _ run inside).first
    · intro member
      obtain ⟨shot, inside, rfl⟩ := List.mem_map.mp member
      exact shot_in_run _ shot inside
  rw [shotNames, shot_names]
  constructor
  · intro member
    obtain ⟨captured, inside, rfl⟩ := List.mem_map.mp member
    exact List.mem_map_of_mem (List.mem_filter.mp inside).1
  · intro member
    obtain ⟨captured, inside, rfl⟩ := List.mem_map.mp member
    apply List.mem_map_of_mem
    rw [List.mem_filter]
    exact ⟨inside, by simpa [CapturedFrame.isNamed] using named⟩

theorem last_end (recorded : reel.episode.recording = true)
    (closed : reel.episode.closing = some closing) :
    (reel.episode.jobs station).getLast?.map (fun job => job.segment.endMs) =
      (reel.heeded.filter CapturedFrame.isNamed).getLast?.map
        fun captured => captured.frame.ms := by
  obtain ⟨ending, made⟩ := jobs_of_closed station recorded closed
  rw [made, ← List.getLast?_map, ← List.getLast?_map, ← shot_times,
    jobs_map _ (fun run => run.last.ms) (fun _ _ _ => rfl), List.getLast?_map, List.getLast?_map,
    ← last_run_last, Option.map_map]
  rfl

theorem covered (recorded : reel.episode.recording = true)
    (closed : reel.episode.closing = some closing) : reel.Covered station := by
  have files : ∀ name, name ≠ "" → (name ∈ reel.fileNames station ↔
      name ∈ reel.heeded.map CapturedFrame.fileName) :=
    fun name named => mem_file_names recorded closed named
  have filled (captured : CapturedFrame) (named : captured.isNamed = true) :
      captured.fileName ≠ "" := by
    simpa [CapturedFrame.isNamed] using named
  refine ⟨files, last_end recorded closed, ?_⟩
  constructor
  · intro all captured late named
    rw [← files _ (filled captured named)]
    exact all captured (List.mem_append_right _ late) named
  · intro timely captured member named
    rw [files _ (filled captured named)]
    rcases List.mem_append.mp member with heeded | late
    · exact List.mem_map_of_mem heeded
    · exact timely captured late named

end Covering

end Reel

/-- What the answers of the engine to one request tell, the stops included. -/
inductive Scene where
  | noted (note : Note)
  /-- A poll found its stream stopped. -/
  | stopped (captured : Option CapturedFrame)

def Scene.note? : Scene → Option Note
  | .noted note => some note
  | .stopped _ => none

def scenes : List Heard → List Scene
  | .opened true :: .replied .processingSize size :: later =>
      .noted (.opened size) :: scenes later
  | .replied (.pollFrame _) captured :: .replied .isRunning running ::
      .replied .processingSize size :: later =>
      (if running then .noted (.polled captured size) else .stopped captured) :: scenes later
  | .replied .flush _ :: .replied .processingSize size :: .replied .close _ :: later =>
      .noted (.closed size) :: scenes later
  | _ :: later => scenes later
  | [] => []

theorem scenes_notes (heard : List Heard) : (scenes heard).filterMap Scene.note? = notes heard := by
  induction heard using scenes.induct with
  | case1 size later ih => simp [scenes, notes, Scene.note?, ih]
  | case2 wantLarge captured running size later ih =>
      cases running <;> simp [scenes, notes, Scene.note?, ih, List.filterMap_cons]
  | case3 flushed size closed later ih => simp [scenes, notes, Scene.note?, ih]
  | case4 first later notOpened notPolled notClosed ih =>
      have notRunning := fun wantLarge captured => notPolled wantLarge captured true
      rw [scenes, notes, ih] <;> assumption
  | case5 => rfl

structure Archive (κ : Type) where
  past : List (Reel κ) := []
  /-- The reel of the stream that is open. -/
  current : Option (Reel κ) := none
  callback : Option κ := none

namespace Archive

def chronicle (archive : Archive κ) : Chronicle κ where
  past := archive.past.map Reel.episode
  current := archive.current.map Reel.episode
  callback := archive.callback

def add (records : Bool) (archive : Archive κ) : Scene → Archive κ
  | .noted (.opened size) =>
      { archive with
        past := archive.past ++ archive.current.toList
        current := some { episode := ⟨records, size, [], none⟩ } }
  | .noted (.polled captured size) =>
      { archive with
        current := archive.current.map fun reel =>
          { reel with episode := reel.episode.extend ⟨captured, size, archive.callback⟩ } }
  | .noted (.closed size) =>
      { archive with
        past := archive.past ++ (archive.current.map fun reel =>
          { reel with episode := reel.episode.close ⟨size, archive.callback⟩ }).toList
        current := none }
  | .stopped captured =>
      { archive with
        current := archive.current.map fun reel =>
          { reel with late := reel.late ++ captured.toList } }

def hear (archive : Archive κ) (request : Request σ κ) (heard : List Heard) : Archive κ :=
  (scenes heard).foldl (add request.records)
    { archive with callback := request.callback?.or archive.callback }

def reels (archive : Archive κ) : List (Reel κ) := archive.past ++ archive.current.toList

variable {archive : Archive κ}

theorem add_chronicle (records : Bool) (archive : Archive κ) (scene : Scene) :
    (archive.add records scene).chronicle =
      scene.note?.toList.foldl (Chronicle.add records) archive.chronicle := by
  rcases archive with ⟨past, current, callback⟩
  cases scene with
  | noted note => cases note <;> cases current <;> simp [add, chronicle, Scene.note?, Chronicle.add]
  | stopped captured => cases current <;> rfl

theorem fold_chronicle (records : Bool) (archive : Archive κ) (scenes : List Scene) :
    (scenes.foldl (add records) archive).chronicle =
      (scenes.filterMap Scene.note?).foldl (Chronicle.add records) archive.chronicle := by
  induction scenes generalizing archive with
  | nil => rfl
  | cons scene later ih =>
      rw [List.foldl_cons, ih, add_chronicle, List.filterMap_cons]
      cases scene.note? <;> rfl

theorem hear_chronicle (archive : Archive κ) (request : Request σ κ) (heard : List Heard) :
    (archive.hear request heard).chronicle = archive.chronicle.hear request heard := by
  rw [hear, fold_chronicle, scenes_notes]
  rfl

theorem episodes_chronicle (archive : Archive κ) :
    archive.chronicle.episodes = archive.reels.map Reel.episode := by
  rw [Chronicle.episodes, reels, List.map_append, chronicle]
  cases archive.current <;> rfl

end Archive

namespace Life

variable {services : Services σ H κ}

def transcript (services : Services σ H κ) :
    Life σ H κ → List (Request σ κ) → List (Request σ κ × List Heard)
  | _, [] => []
  | life, request :: later =>
      let (_, _, _, heard) :=
        (request.within Prod.fst setFirst).perform services.overheard life.session (life.state, [])
      (request, heard) :: transcript services (life.ask services request) later

def archive (services : Services σ H κ) (life : Life σ H κ) (requests : List (Request σ κ)) :
    Archive κ :=
  (life.transcript services requests).foldl (fun archive said => archive.hear said.1 said.2) {}

theorem transcript_chronicle (life : Life σ H κ) (archive : Archive κ)
    (requests : List (Request σ κ)) (same : archive.chronicle = life.chronicle) :
    ((life.transcript services requests).foldl (fun archive said => archive.hear said.1 said.2)
      archive).chronicle = (life.play services requests).chronicle := by
  induction requests generalizing life archive with
  | nil => exact same
  | cons request later ih =>
      rw [transcript, List.foldl_cons]
      apply ih (life.ask services request)
      rw [Archive.hear_chronicle, same]
      rfl

structure Covers {services : Services σ H κ} (recorder : Recorder services.storage)
    (station : Station) (life : Life σ H κ) (archive : Archive κ) : Prop where
  /-- The jobs given to the mover, but for the unfinished one started, are those of the reels. -/
  submitted : (recorder.attempts life.state).map Attempt.job ++
    life.session.mover.worker.unfinished =
      archive.reels.flatMap fun reel => reel.episode.jobs station
  /-- The polls returned the heeded frames. -/
  returned : life.returned =
    archive.reels.flatMap fun reel => reel.heeded.map CapturedFrame.frame
  /-- A session that is closed has no reel in progress. -/
  closed : life.session.phase = .closed → archive.current = none
  covered : ∀ reel ∈ archive.past, reel.episode.recording = true → reel.Covered station

theorem Rotates.covers {recorder : Recorder services.storage} {station : Station}
    {life : Life σ H κ} {archive : Archive κ} (rotates : life.Rotates recorder station)
    (same : archive.chronicle = life.chronicle) : life.Covers recorder station archive where
  submitted := by
    rw [rotates.submitted, Chronicle.jobs, ← same, Archive.episodes_chronicle,
      List.flatMap_map]
  returned := by
    rw [rotates.returned, Chronicle.frames, ← same, Archive.episodes_chronicle,
      List.flatMap_map]
    simp only [Reel.heeded, List.map_filterMap]
  closed := by
    intro phase
    have idle := rotates.running
    have stopped : (Phase.closed == Phase.running) = false := rfl
    rw [Session.isRunning, phase, ← same, stopped] at idle
    simpa [Archive.chronicle] using idle
  covered := by
    intro reel member recorded
    have inside : reel.episode ∈ life.chronicle.past := by
      rw [← same]
      exact List.mem_map_of_mem member
    obtain ⟨closing, closed⟩ := Option.isSome_iff_exists.mp (rotates.past _ inside).1
    exact Reel.covered recorded closed

theorem play_covers (services : Services σ H κ) (config : Config.Recorder)
    (encoder : Except Config.ConfigError Config.Encoder) (location : String) (state : σ)
    (requests : List (Request σ κ)) :
    let start := begin services.recorded config encoder location (state, [])
    let asked := requests.map (Request.within Prod.fst setFirst)
    let life := start.play services.recorded asked
    (life.session, life.state.1) =
        performAll services (Session.create services config encoder location state) requests ∧
      life.Covers services.recorder (stationOf config location)
        (start.archive services.recorded asked) := by
  intro start asked life
  refine ⟨play_plain services.recorded_projects (fun _ _ => rfl) _ requests, ?_⟩
  apply Rotates.covers
  · apply Agrees.rotates
    apply play_agrees services.recorded_quiet
    · exact Request.within_harmless services.recorder Prod.fst setFirst
        (fun _ _ => ⟨rfl, id⟩) requests
    · exact begin_agrees config encoder location state
  · exact transcript_chronicle start {} asked rfl

end Life

structure Cue where
  captured : Option CapturedFrame
  running : Bool := true

/-- What a stream is going to say, poll by poll. After the script it has stopped. -/
abbrev Script := List Cue

namespace Script

def engine : Engine Script Unit where
  openStream := fun _ script => (.ok (), script)
  setHwDevice := fun _ script => script
  perform := fun _ call script =>
    match call with
    | .pollFrame _ => (script.head?.bind Cue.captured, script)
    | .isRunning => (script.head?.any Cue.running, script.tail)
    | .flush | .close => ((), script)
    | .processingSize => (none, script)
    | .frameRates => ({}, script)
    | .initialFrameBufferSize => (0, script)
    | .largeFrame => (none, script)

def shown (fileName : String) (ms : Int64) (running : Bool := true) : Cue where
  captured := some ⟨⟨[], 320, 240, ms⟩, fileName⟩
  running := running

def watch {σ : Type} (polls : Nat) : List (Request σ Unit) :=
  .openStream "rtsp://cam.local/stream1" { record := true } :: List.replicate polls (.poll false)

def config : Config.Recorder where
  paths := ⟨"rec", "store", "", ""⟩

def services : Services Script Unit Unit where
  engine := engine
  files := {
    makeDirs := fun _ script => (.ok (), script)
    rename := fun _ _ script => (.ok (), script)
    copy := fun _ _ script => (.ok (), script)
    remove := fun _ script => (.ok (), script) }
  storage := {
    run := fun job script => (some ⟨job.segment.logicalPath, true⟩, script)
    pace := fun script => (0, script) }

end Script

/-- The file of a frame that comes with the stop of its stream is not stored. -/
theorem stop_leaves_file :
    let start := Life.begin Script.services.recorded Script.config (.ok {}) "yard"
      ([Script.shown "one01.mp4" 0, Script.shown "two01.mp4" 100 false], [])
    let requests := Script.watch 2 ++ [.close]
    let life := start.play Script.services.recorded requests
    let archive := start.archive Script.services.recorded requests
    life.session.phase = .closed ∧
      (Script.services.recorder.attempts life.state).map (fun attempt =>
        attempt.job.segment.fileName) = ["one01.mp4"] ∧
      archive.past.map (fun reel => reel.delivered.map CapturedFrame.fileName) =
        [["one01.mp4", "two01.mp4"]] := by
  decide +kernel

end Footage.Rotation
