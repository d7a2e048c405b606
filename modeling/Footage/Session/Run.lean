import Footage.Session.State

/-!
# Running a session

A frame with another file name than the one before finishes a segment. Closing always goes the
same way, whether the caller asks for it, opens another stream, drops the session, or the engine
stops: pending output is flushed, the stream is closed, the last segment goes to the mover, and
the session waits until the mover has stored it.
-/

namespace Footage

open Footage.Capture Footage.Clip Footage.Storage

set_option autoImplicit false

namespace Session

variable {σ H κ : Type}

def sized (session : Session H κ) (segment : Segment) : Segment :=
  match session.lastSize with
  | some (width, height) => { segment with width, height }
  | none => segment

def jobFor (segment : Segment) (session : Session H κ) : MoveJob κ where
  segment := session.sized segment
  recordDir := session.recordDir
  storageDir := session.storageDir
  relocator := if session.capture.recordInMemory then .engine else .filesystem
  onFailed := session.onMoveFailed

def finalize (services : Services σ H κ) (segment : Segment) (session : Session H κ) (state : σ) :
    Session H κ × σ :=
  let (_, mover, state) := session.mover.submit services.storage (session.jobFor segment) state
  ({ session with mover }, state)

def finalizeAny (services : Services σ H κ) (segment : Option Segment) (session : Session H κ)
    (state : σ) : Session H κ × σ :=
  match segment with
  | some segment => session.finalize services segment state
  | none => (session, state)

def releaseStream (services : Services σ H κ) (session : Session H κ) (state : σ) :
    Session H κ × σ :=
  match session.stream with
  | none => ({ session with phase := .closing }, state)
  | some stream =>
      let state := services.engine.tell stream .flush state
      let (size, state) := services.engine.perform stream .processingSize state
      let state := services.engine.tell stream .close state
      ({ session with
          phase := .closing, stream := none, lastSize := size.or session.lastSize },
        state)

def storeRest (services : Services σ H κ) (session : Session H κ) (state : σ) :
    Session H κ × σ :=
  let (last, tracker) := session.tracker.finish
  let (session, state) := { session with tracker }.finalizeAny services last state
  let (_, mover, state) := session.mover.drain services.storage state
  ({ session with mover }, state)

def reset (session : Session H κ) : Session H κ :=
  { session with tracker := .new session.location, recording := false, phase := .closed }

/-- Closes the session; the given action runs after the last segment is stored. Nothing happens
when the session is closed already. -/
def closeWith (services : Services σ H κ) (killable : σ → σ) (session : Session H κ) (state : σ) :
    Session H κ × σ :=
  if session.phase = .closed then (session, state)
  else
    let (session, state) := session.releaseStream services state
    let (session, state) := session.storeRest services state
    (session.reset, killable state)

def close (services : Services σ H κ) (session : Session H κ) (state : σ) : Session H κ × σ :=
  session.closeWith services id state

def selectDevice (services : Services σ H κ) (session : Session H κ) (state : σ) : σ :=
  if session.capture.hwAccelDevice.isEmpty then state
  else services.engine.setHwDevice session.capture.hwAccelDevice state

/-- Starts a stream in place of the one that is open. False when the engine cannot open it; the
session is closed then. -/
def openStream (services : Services σ H κ) (uri : String) (options : StreamOptions)
    (session : Session H κ) (state : σ) : Bool × Session H κ × σ :=
  let (session, state) := session.close services state
  let request := session.openRequest uri options
  let state := session.selectDevice services state
  match services.engine.openStream request state with
  | (.error _, state) => (false, session, state)
  | (.ok stream, state) =>
      let (size, state) := services.engine.perform stream .processingSize state
      (true,
        { session with
          phase := .running, stream := some stream, recording := options.record, lastSize := size },
        state)

/-- Follows the segment that a frame belongs to and hands the one that it ends to the mover. -/
def follow (services : Services σ H κ) (captured : CapturedFrame) (session : Session H κ)
    (state : σ) : Session H κ × σ :=
  if session.recording ∧ ¬captured.fileName.isEmpty then
    let (ended, tracker) := session.tracker.observe captured.fileName captured.frame.ms
    { session with tracker }.finalizeAny services ended state
  else (session, state)

/-- The newest frame, if one has arrived. A session whose stream has stopped closes itself, and a
frame that comes with the stop is dropped. -/
def pollFrame (services : Services σ H κ) (wantLarge : Bool) (session : Session H κ) (state : σ) :
    Option Playback.Frame × Session H κ × σ :=
  match session.runningStream with
  | none => (none, session, state)
  | some stream =>
      let (polled, state) := services.engine.perform stream (.pollFrame wantLarge) state
      let (running, state) := services.engine.perform stream .isRunning state
      let (size, state) := services.engine.perform stream .processingSize state
      let (_, mover, state) := session.mover.tryReap services.storage state
      let session := { session with mover }
      if running then
        let session := { session with lastSize := size.or session.lastSize }
        match polled with
        | none => (none, session, state)
        | some captured =>
            let (session, state) := session.follow services captured state
            (some captured.frame, session, state)
      else
        let (session, state) := session.close services state
        (none, session, state)

/-- The segment in progress starts after the time, so that the time lies in one that is stored. -/
def isStored (neededMs : Option Int64) (session : Session H κ) : Bool :=
  match neededMs, session.tracker.currentStartMs with
  | some ms, some start => ms < start
  | _, _ => false

/-- Makes pending output readable, unless only a time before the segment in progress is needed. -/
def flush (services : Services σ H κ) (neededMs : Option Int64) (session : Session H κ)
    (state : σ) : σ :=
  match session.stream with
  | some stream =>
      if session.isStored neededMs then state else services.engine.tell stream .flush state
  | none => state

/-- Gives the session up: it is closed and its mover ends. -/
def drop (services : Services σ H κ) (session : Session H κ) (state : σ) : σ :=
  let (session, state) := session.close services state
  (session.mover.shutdown services.storage state).2

end Session

end Footage
