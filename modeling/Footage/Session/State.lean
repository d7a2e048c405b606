import Footage.Capture.Engine
import Footage.Clip.Segment
import Footage.Config.Load
import Footage.Storage.Job

/-!
# Sessions

A session owns one stream of a location, follows the segments that the engine writes, and hands
every finished one to its mover. This module holds the state of a session, how it is made, and
what can be asked of it.
-/

namespace Footage

open Footage.Capture Footage.Clip Footage.Storage

set_option autoImplicit false

/-- Where a session stands; `closing` occurs only while a session is being closed. -/
inductive Phase where
  | closed
  | running
  | closing
deriving DecidableEq, Repr

/-- What a session works with, over states of type `σ`. -/
structure Services (σ H κ : Type) where
  engine : Engine σ H
  files : Files.FileSystem σ
  /-- Stores finished segments. -/
  storage : Runner σ (MoveJob κ) MoveOutcome

/-- The state of a session with streams of type `H` and callbacks of type `κ`. -/
structure Session (H κ : Type) where
  location : String
  /-- The directory that the engine records into. -/
  recordDir : String
  /-- The root of the storage. -/
  storageDir : String
  capture : Config.Capture
  encoder : Config.Encoder
  phase : Phase := .closed
  stream : Option H := none
  /-- The open stream is recorded. -/
  recording : Bool := false
  tracker : Tracker
  mover : SegmentMover κ := {}
  /-- The callback for segments that are finished from now on. -/
  onMoveFailed : Option κ := none
  /-- The last known size of recorded frames; it outlives the stream. -/
  lastSize : Option Size := none

namespace Session

variable {σ H κ : Type}

/-- A session of a location. An encoder profile that could not be loaded is replaced by the
default, and the directory for recordings is made if that is possible. -/
def create (services : Services σ H κ) (config : Config.Recorder)
    (encoder : Except Config.ConfigError Config.Encoder) (location : String) (state : σ) :
    Session H κ × σ :=
  let recordDir := config.paths.locationRecordDir location
  let (_, state) := services.files.makeDirs recordDir state
  ({ location, recordDir
     storageDir := config.paths.storageDir
     capture := config.capture
     encoder := encoder.toOption.getD {}
     tracker := .new location },
    state)

def isRunning (session : Session H κ) : Bool := session.phase == .running

def withCallback (callback : κ) (session : Session H κ) : Session H κ :=
  { session with onMoveFailed := some callback }

def openRequest (uri : String) (options : StreamOptions) (session : Session H κ) : OpenRequest :=
  let uri := Uri.repairBlankPassword uri
  { uri
    maskedUri := Uri.maskCredentials uri
    recordWidth := session.capture.recordWidth
    recordHeight := session.capture.recordHeight
    fps := session.capture.fpsLimit
    recordDir := session.recordDir
    encoder := session.encoder
    initialFrameBufferSize := options.initialFrameBufferSize
    timestampFlags := timestampFlags session.capture.timestamps
    flags := openFlags session.capture options }

def runningStream (session : Session H κ) : Option H :=
  if session.isRunning then session.stream else none

def processingSize (services : Services σ H κ) (session : Session H κ) (state : σ) :
    Option Size × σ :=
  match session.runningStream with
  | some stream =>
      let (size, state) := services.engine.perform stream .processingSize state
      (size.or session.lastSize, state)
  | none => (session.lastSize, state)

def frameRates (services : Services σ H κ) (session : Session H κ) (state : σ) :
    FrameRates × σ :=
  match session.stream with
  | some stream => services.engine.perform stream .frameRates state
  | none => ({}, state)

def initialFrameBufferSize (services : Services σ H κ) (session : Session H κ) (state : σ) :
    UInt64 × σ :=
  match session.runningStream with
  | some stream => services.engine.perform stream .initialFrameBufferSize state
  | none => (0, state)

def largeFrame (services : Services σ H κ) (session : Session H κ) (state : σ) :
    Option Playback.Frame × σ :=
  match session.stream with
  | some stream => services.engine.perform stream .largeFrame state
  | none => (none, state)

end Session

end Footage
