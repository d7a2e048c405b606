import Footage.Config.Records

/-!
# How a clip is opened

Options that are passed through to the decoder, and everything needed to open one more handle on
the same clip. Options are persisted as records; all their fields are required.
-/

namespace Footage.Playback

open Footage.Config Footage.Document Footage.Number

set_option autoImplicit false

structure Overlay where
  ms : Int64
  params : List Double
deriving DecidableEq, Repr

structure OpenOptions where
  enableAudio : Bool := false
  asyncRead : Bool := false
  debug : Bool := false
  timestamps : TimeOverlay := {}
  keyframeOnly : Bool := false
  audioMute : Bool := false
  boxes : List Overlay := []
  zones : List Overlay := []
deriving DecidableEq, Repr

structure OpenSpec where
  path : String
  /-- The size of delivered frames; zero keeps the size of the clip. -/
  width : UInt32
  height : UInt32
  /-- The time at which the clip starts; offsets of frames are added to it. -/
  startMs : Int64
  options : OpenOptions
deriving DecidableEq, Repr

def OpenSpec.probe (path : String) : OpenSpec := ⟨path, 0, 0, 0, {}⟩

namespace Overlay

def shape : Shape where
  record := "Overlay"
  fields :=
    [.mandatory "ms" Value.asInt64,
      .mandatory "params" (Value.asListOf Value.asDouble)]

def ofValue (value : Value) : Reading Overlay := do
  let entries ← shape.entries value
  return {
    ms := ← Table.mandatory entries "ms" Value.asInt64
    params := ← Table.mandatory entries "params" (Value.asListOf Value.asDouble) }

def toValue (overlay : Overlay) : Value :=
  .table
    [("ms", .integer overlay.ms.toInt),
      ("params", .list (overlay.params.map .double))]

end Overlay

namespace OpenOptions

def shape : Shape where
  record := "ClipOpenOptions"
  fields :=
    [.mandatory "enable_audio" Value.asBoolean,
      .mandatory "async_read" Value.asBoolean,
      .mandatory "debug" Value.asBoolean,
      .mandatory "timestamps" TimeOverlay.ofValue,
      .mandatory "keyframe_only" Value.asBoolean,
      .mandatory "audio_mute" Value.asBoolean,
      .mandatory "boxes" (Value.asListOf Overlay.ofValue),
      .mandatory "zones" (Value.asListOf Overlay.ofValue)]

def ofValue (value : Value) : Reading OpenOptions := do
  let entries ← shape.entries value
  return {
    enableAudio := ← Table.mandatory entries "enable_audio" Value.asBoolean
    asyncRead := ← Table.mandatory entries "async_read" Value.asBoolean
    debug := ← Table.mandatory entries "debug" Value.asBoolean
    timestamps := ← Table.mandatory entries "timestamps" TimeOverlay.ofValue
    keyframeOnly := ← Table.mandatory entries "keyframe_only" Value.asBoolean
    audioMute := ← Table.mandatory entries "audio_mute" Value.asBoolean
    boxes := ← Table.mandatory entries "boxes" (Value.asListOf Overlay.ofValue)
    zones := ← Table.mandatory entries "zones" (Value.asListOf Overlay.ofValue) }

def toValue (options : OpenOptions) : Value :=
  .table
    [("enable_audio", .boolean options.enableAudio),
      ("async_read", .boolean options.asyncRead),
      ("debug", .boolean options.debug),
      ("timestamps", options.timestamps.toValue),
      ("keyframe_only", .boolean options.keyframeOnly),
      ("audio_mute", .boolean options.audioMute),
      ("boxes", .list (options.boxes.map Overlay.toValue)),
      ("zones", .list (options.zones.map Overlay.toValue))]

end OpenOptions

end Footage.Playback
