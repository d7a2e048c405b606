import Footage.Capture.Flags
import Footage.Capture.Uri
import Footage.Config.Encoder
import Footage.Playback.Decoder

/-!
# Capture engines

An engine opens live streams. What can be asked of a stream is a closed list of calls, and the
type of the reply depends on the call. Engines work on a state of any type, so that one statement
covers all of them.
-/

namespace Footage.Capture

open Footage.Playback (Frame)

set_option autoImplicit false

inductive CaptureError where
  | openFailed (uri reason : String)
  /-- Any other failure of the engine. -/
  | engine (reason : String)
deriving DecidableEq, Repr

def CaptureError.text : CaptureError → String
  | .openFailed uri reason => "Failed to open stream " ++ uri ++ ": " ++ reason
  | .engine reason => "Capture engine error: " ++ reason

structure OpenRequest where
  /-- The URI with its credentials, a blank password made explicit. -/
  uri : String
  /-- The same URI with its credentials masked. -/
  maskedUri : String
  recordWidth : UInt32
  recordHeight : UInt32
  fps : UInt32
  /-- The directory that segments are written into. -/
  recordDir : String
  encoder : Config.Encoder
  initialFrameBufferSize : UInt64
  timestampFlags : UInt32
  flags : OpenFlags
deriving DecidableEq, Repr

/-- A live frame and the file of the segment that it went into; no name without a recording. -/
structure CapturedFrame where
  frame : Frame
  fileName : String
deriving DecidableEq

structure FrameRates where
  received : Float32 := 0
  delivered : Float32 := 0

abbrev Size := UInt32 × UInt32

inductive StreamCall where
  /-- The newest frame if one has arrived, in full size or not. -/
  | pollFrame (wantLarge : Bool)
  | isRunning
  /-- Makes pending output readable on disk. -/
  | flush
  | close
  /-- The size of recorded frames once it is known. -/
  | processingSize
  | frameRates
  | initialFrameBufferSize
  /-- The most recent frame in full size, if the engine keeps one. -/
  | largeFrame
deriving DecidableEq, Repr

@[reducible] def StreamCall.Reply : StreamCall → Type
  | .pollFrame _ => Option CapturedFrame
  | .isRunning => Bool
  | .flush | .close => Unit
  | .processingSize => Option Size
  | .frameRates => FrameRates
  | .initialFrameBufferSize => UInt64
  | .largeFrame => Option Frame

/-- An engine with streams of type `H` over states of type `σ`. -/
structure Engine (σ H : Type) where
  openStream : OpenRequest → σ → Except CaptureError H × σ
  /-- Selects the decoding device of streams that are opened afterwards. -/
  setHwDevice : String → σ → σ
  perform : H → (call : StreamCall) → σ → call.Reply × σ

def Engine.tell {σ H : Type} (engine : Engine σ H) (stream : H) (call : StreamCall) (state : σ) :
    σ :=
  (engine.perform stream call state).2

end Footage.Capture
