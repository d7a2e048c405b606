import Footage.Playback.Options

/-!
# Decoders

A decoder opens handles on clips; every handle has a position of its own. What can be asked of a
handle is a closed list of calls, and the type of the reply depends on the call. Decoders work on
a state of any type, so that one statement covers all of them.
-/

namespace Footage.Playback

set_option autoImplicit false

structure Frame where
  /-- The bytes of the picture. -/
  data : List UInt8
  width : UInt32
  height : UInt32
  ms : Int64
deriving DecidableEq

structure ClipError where
  path : String
  reason : String
deriving DecidableEq, Repr

def ClipError.text (error : ClipError) : String :=
  "Failed to open clip " ++ error.path ++ ": " ++ error.reason

/-- How a handle is going to be used. -/
inductive Mode where
  /-- Stepping forward and backward. -/
  | sequential
  /-- Looking up frames by their time. -/
  | random
deriving DecidableEq, Repr

inductive Call where
  | setMode (mode : Mode)
  /-- Moves to the following frame. -/
  | nextFrame
  /-- Moves to the frame before. -/
  | prevFrame
  /-- The frame at a time or nearest before it; afterwards the position is not defined. -/
  | frameAt (ms : Int64)
  /-- Moves so that the next frame is the first after the time, or the first of all. -/
  | seek (after : Option Int64)
  /-- The offsets of all frames. -/
  | frameOffsets
  /-- The length of the clip. -/
  | duration
  /-- The offset of the frame that would be next. -/
  | nextFrameOffset
  | hasAudio
  | inputSize
  | setMute (on : Bool)
  | setOutputSize (width height : UInt32)
  /-- Releases what the handle holds. -/
  | close
deriving DecidableEq, Repr

@[reducible] def Call.Reply : Call → Type
  | .nextFrame | .prevFrame | .frameAt _ => Option Frame
  | .seek _ | .hasAudio => Bool
  | .frameOffsets => Option (List Int64)
  | .duration | .nextFrameOffset => Option Int64
  | .inputSize => Option (UInt32 × UInt32)
  | .setMode _ | .setMute _ | .setOutputSize _ _ | .close => Unit

/-- A decoder with handles of type `H` over states of type `σ`. -/
structure Decoder (σ H : Type) where
  /-- Opens one more handle. -/
  openClip : OpenSpec → σ → Except ClipError H × σ
  /-- Performs a call on a handle. -/
  perform : H → (call : Call) → σ → call.Reply × σ

def Decoder.tell {σ H : Type} (decoder : Decoder σ H) (handle : H) (call : Call) (state : σ) : σ :=
  (decoder.perform handle call state).2

end Footage.Playback
