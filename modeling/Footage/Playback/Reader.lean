import Footage.Playback.CursorPair

/-!
# Playing a clip

A reader steps through a clip and looks up single frames. It keeps the time of the frame last
delivered apart from the time at which the stepping handle stands; where the two differ, because
of a jump or because the position was set from outside, the next step first moves the handle. At
the end of the clip the reader is done until a jump, a step back, or a new position.
-/

namespace Footage.Playback

set_option autoImplicit false

structure Reader (H : Type) where
  pair : Option (CursorPair H) := none
  path : String := ""
  requestedSize : UInt32 × UInt32 := (0, 0)
  firstMs : Int64 := 0
  muted : Bool := false
  /-- The time of the frame last delivered. -/
  prevMs : Option Int64 := none
  /-- The time at which the stepping handle stands; none before the first frame. -/
  cursorMs : Option Int64 := none
  /-- The next step moves the stepping handle even where the two times agree. -/
  forceReseek : Bool := false
  done : Bool := false
  /-- The length of the clip once it is known. -/
  knownDuration : Option Int64 := none
  /-- The offsets of all frames once they are known. -/
  knownOffsets : Option (List Int64) := none

/-- Which handle of a pair an operation works on. -/
inductive Slot where
  | sequential
  | random
  /-- Any handle that is open already. -/
  | any
deriving DecidableEq, Repr

def CursorPair.take {σ H : Type} (decoder : Decoder σ H) (slot : Slot) (pair : CursorPair H)
    (state : σ) : Option H × CursorPair H × σ :=
  match slot with
  | .sequential => pair.takeSequential decoder state
  | .random => pair.takeRandom decoder state
  | .any => (pair.anyOpen, pair, state)

namespace Reader

variable {σ H : Type}

def isOpen (reader : Reader H) : Bool := reader.pair.isSome

/-- Closes all handles and forgets the position and what was known about the clip. -/
def close (decoder : Decoder σ H) (reader : Reader H) (state : σ) : Reader H × σ :=
  let state :=
    match reader.pair with
    | some pair => (pair.close decoder state).2
    | none => state
  ({ reader with
      pair := none, prevMs := none, cursorMs := none, forceReseek := false, done := false,
      knownDuration := none, knownOffsets := none },
    state)

/-- Opens a clip in place of the one that is open; false when the decoder refuses it. -/
def openClip (decoder : Decoder σ H) (spec : OpenSpec) (reader : Reader H) (state : σ) :
    Bool × Reader H × σ :=
  let (reader, state) := reader.close decoder state
  let reader := { reader with muted := spec.options.audioMute }
  match CursorPair.openClip decoder spec state with
  | (.ok pair, state) =>
      (true,
        { reader with
          pair := some pair
          path := spec.path
          requestedSize := (spec.width, spec.height)
          firstMs := spec.startMs },
        state)
  | (.error _, state) => (false, reader, state)

def take (decoder : Decoder σ H) (slot : Slot) (reader : Reader H) (state : σ) :
    Option H × Reader H × σ :=
  match reader.pair with
  | none => (none, reader, state)
  | some pair =>
      let (handle, pair, state) := pair.take decoder slot state
      (handle, { reader with pair := some pair }, state)

def ask (decoder : Decoder σ H) (slot : Slot) (call : Call) (reader : Reader H) (state : σ) :
    Option call.Reply × Reader H × σ :=
  match reader.take decoder slot state with
  | (none, reader, state) => (none, reader, state)
  | (some handle, reader, state) =>
      let (reply, state) := decoder.perform handle call state
      (some reply, reader, state)

/-- The stepping handle does not stand where the next step starts. -/
def diverged (reader : Reader H) : Bool :=
  reader.forceReseek || reader.prevMs != reader.cursorMs

/-- Moves the stepping handle to where the next step starts; false when it refuses. -/
def resync (decoder : Decoder σ H) (handle : H) (reader : Reader H) (state : σ) :
    Bool × Reader H × σ :=
  if reader.diverged then
    match decoder.perform handle (.seek reader.prevMs) state with
    | (true, state) =>
        (true, { reader with cursorMs := reader.prevMs, forceReseek := false }, state)
    | (false, state) => (false, reader, state)
  else (true, reader, state)

/-- The reader after a step that delivered a frame or none. -/
def stepped (forward : Bool) (frame : Option Frame) (reader : Reader H) : Reader H :=
  { reader with
    prevMs := frame.map Frame.ms
    cursorMs := frame.map Frame.ms
    done := reader.done || (forward && frame.isNone) }

def step (decoder : Decoder σ H) (forward : Bool) (reader : Reader H) (state : σ) :
    Option Frame × Reader H × σ :=
  match reader.take decoder .sequential state with
  | (none, reader, state) => (none, reader, state)
  | (some handle, reader, state) =>
      match reader.resync decoder handle state with
      | (false, reader, state) => (none, reader, state)
      | (true, reader, state) =>
          let (frame, state) :=
            if forward then decoder.perform handle .nextFrame state
            else decoder.perform handle .prevFrame state
          (frame, reader.stepped forward frame, state)

/-- The next frame; none at the end of the clip and as long as the reader is done. -/
def nextFrame (decoder : Decoder σ H) (reader : Reader H) (state : σ) :
    Option Frame × Reader H × σ :=
  if reader.done then (none, reader, state) else reader.step decoder true state

/-- The frame before; the reader is not done any more when there is one. -/
def prevFrame (decoder : Decoder σ H) (reader : Reader H) (state : σ) :
    Option Frame × Reader H × σ :=
  let (frame, reader, state) := reader.step decoder false state
  (frame, if frame.isSome then { reader with done := false } else reader, state)

/-- The frame at a time, without moving the position. -/
def frameAt (decoder : Decoder σ H) (ms : Int64) (reader : Reader H) (state : σ) :
    Option Frame × Reader H × σ :=
  let (reply, reader, state) := reader.ask decoder .random (.frameAt ms) state
  (reply.join, reader, state)

/-- Jumps to a time; stepping goes on from the delivered frame. -/
def seek (decoder : Decoder σ H) (ms : Int64) (reader : Reader H) (state : σ) :
    Option Frame × Reader H × σ :=
  let (frame, reader, state) := reader.frameAt decoder ms state
  match frame with
  | some frame => (some frame, { reader with prevMs := some frame.ms, done := false }, state)
  | none => (none, reader, state)

/-- The length of the clip; asked of the decoder until it is known. -/
def duration (decoder : Decoder σ H) (reader : Reader H) (state : σ) :
    Option Int64 × Reader H × σ :=
  match reader.knownDuration with
  | some known => (some known, reader, state)
  | none =>
      let (reply, reader, state) := reader.ask decoder .any .duration state
      (reply.join, { reader with knownDuration := reply.join }, state)

def frameOffsets (decoder : Decoder σ H) (reader : Reader H) (state : σ) :
    Option (List Int64) × Reader H × σ :=
  match reader.knownOffsets with
  | some known => (some known, reader, state)
  | none =>
      let (reply, reader, state) := reader.ask decoder .random .frameOffsets state
      (reply.join, { reader with knownOffsets := reply.join }, state)

def nextFrameOffset (decoder : Decoder σ H) (reader : Reader H) (state : σ) :
    Option Int64 × Reader H × σ :=
  let (reply, reader, state) := reader.ask decoder .sequential .nextFrameOffset state
  (reply.join, reader, state)

def hasAudio (decoder : Decoder σ H) (reader : Reader H) (state : σ) : Bool × Reader H × σ :=
  let (reply, reader, state) := reader.ask decoder .any .hasAudio state
  (reply.getD false, reader, state)

def inputSize (decoder : Decoder σ H) (reader : Reader H) (state : σ) :
    Option (UInt32 × UInt32) × Reader H × σ :=
  let (reply, reader, state) := reader.ask decoder .any .inputSize state
  (reply.join, reader, state)

def setMute (decoder : Decoder σ H) (on : Bool) (reader : Reader H) (state : σ) : Reader H × σ :=
  let reader := { reader with muted := on }
  match reader.pair with
  | some pair =>
      let (pair, state) := pair.setMute decoder on state
      ({ reader with pair := some pair }, state)
  | none => (reader, state)

def setOutputSize (decoder : Decoder σ H) (width height : UInt32) (reader : Reader H) (state : σ) :
    Reader H × σ :=
  let reader := { reader with requestedSize := (width, height) }
  match reader.pair with
  | some pair =>
      let (pair, state) := pair.setOutputSize decoder width height state
      ({ reader with pair := some pair }, state)
  | none => (reader, state)

def markDone (reader : Reader H) : Reader H := { reader with done := true }

/-- Sets the position from outside; none stands for the start of the clip. -/
def setPrevMs (ms : Option Int64) (reader : Reader H) : Reader H :=
  { reader with prevMs := ms, forceReseek := true, done := false }

end Reader

end Footage.Playback
