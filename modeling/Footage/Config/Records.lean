import Footage.Config.Encoder
import Footage.Config.Types
import Footage.Document.Reading

/-!
# Configuration records as document values

Reading and writing every record of the configuration. The shape of a record lists its fields in
the order of their declaration; the writer puts them down in the same order.
-/

namespace Footage.Config

open Footage.Document Footage.Place

set_option autoImplicit false

namespace TimeOverlay

def shape : Shape where
  record := "TimestampConfig"
  fields :=
    [.optional "enabled" Value.asBoolean,
      .optional "use_12hr_time" Value.asBoolean,
      .optional "use_us_date" Value.asBoolean]

def ofValue (value : Value) : Reading TimeOverlay := do
  let entries ← shape.entries value
  return {
    enabled := ← Table.optional entries "enabled" Value.asBoolean false
    use12HourTime := ← Table.optional entries "use_12hr_time" Value.asBoolean false
    useUsDate := ← Table.optional entries "use_us_date" Value.asBoolean false }

def toValue (overlay : TimeOverlay) : Value :=
  .table
    [("enabled", .boolean overlay.enabled),
      ("use_12hr_time", .boolean overlay.use12HourTime),
      ("use_us_date", .boolean overlay.useUsDate)]

end TimeOverlay

namespace Paths

def shape : Shape where
  record := "PathsConfig"
  fields :=
    [.optional "record_dir" Value.asPath,
      .optional "storage_dir" Value.asPath,
      .optional "config_dir" Value.asPath,
      .optional "index_path" Value.asPath]

def ofValue (env : Environment) (value : Value) : Reading Paths := do
  let entries ← shape.entries value
  let absent := Paths.default env
  return {
    recordDir := ← Table.optional entries "record_dir" Value.asPath absent.recordDir
    storageDir := ← Table.optional entries "storage_dir" Value.asPath absent.storageDir
    configDir := ← Table.optional entries "config_dir" Value.asPath absent.configDir
    indexPath := ← Table.optional entries "index_path" Value.asPath absent.indexPath }

def toValue (paths : Paths) : Value :=
  .table
    [("record_dir", .text paths.recordDir),
      ("storage_dir", .text paths.storageDir),
      ("config_dir", .text paths.configDir),
      ("index_path", .text paths.indexPath)]

end Paths

namespace Capture

def shape : Shape where
  record := "CaptureConfig"
  fields :=
    [.optional "record_width" Value.asUInt32,
      .optional "record_height" Value.asUInt32,
      .optional "fps_limit" Value.asUInt32,
      .optional "record_audio" Value.asBoolean,
      .optional "audio_mute" Value.asBoolean,
      .optional "force_tcp" Value.asBoolean,
      .optional "fast_start" Value.asBoolean,
      .optional "record_in_memory" Value.asBoolean,
      .optional "quality_profile" Value.asInt32,
      .optional "max_output_width" Value.asUInt32,
      .optional "max_output_height" Value.asUInt32,
      .optional "hw_accel_device" Value.asText,
      .optional "timestamps" TimeOverlay.ofValue,
      .optional "stats_interval_secs" Value.asUInt64]

def ofValue (value : Value) : Reading Capture := do
  let entries ← shape.entries value
  let absent : Capture := {}
  return {
    recordWidth := ← Table.optional entries "record_width" Value.asUInt32 absent.recordWidth
    recordHeight := ← Table.optional entries "record_height" Value.asUInt32 absent.recordHeight
    fpsLimit := ← Table.optional entries "fps_limit" Value.asUInt32 absent.fpsLimit
    recordAudio := ← Table.optional entries "record_audio" Value.asBoolean absent.recordAudio
    audioMute := ← Table.optional entries "audio_mute" Value.asBoolean absent.audioMute
    forceTcp := ← Table.optional entries "force_tcp" Value.asBoolean absent.forceTcp
    fastStart := ← Table.optional entries "fast_start" Value.asBoolean absent.fastStart
    recordInMemory :=
      ← Table.optional entries "record_in_memory" Value.asBoolean absent.recordInMemory
    qualityProfile :=
      ← Table.optional entries "quality_profile" Value.asInt32 absent.qualityProfile
    maxOutputWidth :=
      ← Table.optional entries "max_output_width" Value.asUInt32 absent.maxOutputWidth
    maxOutputHeight :=
      ← Table.optional entries "max_output_height" Value.asUInt32 absent.maxOutputHeight
    hwAccelDevice := ← Table.optional entries "hw_accel_device" Value.asText absent.hwAccelDevice
    timestamps := ← Table.optional entries "timestamps" TimeOverlay.ofValue absent.timestamps
    statsIntervalSecs :=
      ← Table.optional entries "stats_interval_secs" Value.asUInt64 absent.statsIntervalSecs }

def toValue (capture : Capture) : Value :=
  .table
    [("record_width", .integer capture.recordWidth.toNat),
      ("record_height", .integer capture.recordHeight.toNat),
      ("fps_limit", .integer capture.fpsLimit.toNat),
      ("record_audio", .boolean capture.recordAudio),
      ("audio_mute", .boolean capture.audioMute),
      ("force_tcp", .boolean capture.forceTcp),
      ("fast_start", .boolean capture.fastStart),
      ("record_in_memory", .boolean capture.recordInMemory),
      ("quality_profile", .integer capture.qualityProfile.toInt),
      ("max_output_width", .integer capture.maxOutputWidth.toNat),
      ("max_output_height", .integer capture.maxOutputHeight.toNat),
      ("hw_accel_device", .text capture.hwAccelDevice),
      ("timestamps", capture.timestamps.toValue),
      ("stats_interval_secs", .integer capture.statsIntervalSecs.toNat)]

end Capture

namespace Telemetry

def shape : Shape where
  record := "TelemetryConfig"
  fields := [.optional "log_level" Value.asText]

def ofValue (value : Value) : Reading Telemetry := do
  let entries ← shape.entries value
  let absent : Telemetry := {}
  return { logLevel := ← Table.optional entries "log_level" Value.asText absent.logLevel }

def toValue (telemetry : Telemetry) : Value := .table [("log_level", .text telemetry.logLevel)]

end Telemetry

namespace Recorder

def shape (env : Environment) : Shape where
  record := "ClipConfig"
  fields :=
    [.optional "paths" (Paths.ofValue env),
      .optional "capture" Capture.ofValue,
      .optional "telemetry" Telemetry.ofValue]

def ofValue (env : Environment) (value : Value) : Reading Recorder := do
  let entries ← (shape env).entries value
  let absent := Recorder.default env
  return {
    paths := ← Table.optional entries "paths" (Paths.ofValue env) absent.paths
    capture := ← Table.optional entries "capture" Capture.ofValue absent.capture
    telemetry := ← Table.optional entries "telemetry" Telemetry.ofValue absent.telemetry }

def toValue (config : Recorder) : Value :=
  .table
    [("paths", config.paths.toValue),
      ("capture", config.capture.toValue),
      ("telemetry", config.telemetry.toValue)]

end Recorder

namespace Encoder

def shape : Shape where
  record := "CodecConfig"
  fields :=
    [.optional "bit_rate_multiplier" Value.asDouble,
      .optional "max_bit_rate" Value.asInt64,
      .optional "gop_size" Value.asInt32,
      .optional "keyint_min" Value.asInt32,
      .optional "preset" Value.asText,
      .optional "max_width" Value.asUInt32,
      .optional "max_height" Value.asUInt32,
      .optional "sv_profile" Value.asInt32]

def ofValue (value : Value) : Reading Encoder := do
  let entries ← shape.entries value
  let absent : Encoder := {}
  return {
    bitRateMultiplier :=
      ← Table.optional entries "bit_rate_multiplier" Value.asDouble absent.bitRateMultiplier
    maxBitRate := ← Table.optional entries "max_bit_rate" Value.asInt64 absent.maxBitRate
    gopSize := ← Table.optional entries "gop_size" Value.asInt32 absent.gopSize
    keyintMin := ← Table.optional entries "keyint_min" Value.asInt32 absent.keyintMin
    preset := ← Table.optional entries "preset" Value.asText absent.preset
    maxWidth := ← Table.optional entries "max_width" Value.asUInt32 absent.maxWidth
    maxHeight := ← Table.optional entries "max_height" Value.asUInt32 absent.maxHeight
    qualityProfile := ← Table.optional entries "sv_profile" Value.asInt32 absent.qualityProfile }

def toValue (encoder : Encoder) : Value :=
  .table
    [("bit_rate_multiplier", .double encoder.bitRateMultiplier),
      ("max_bit_rate", .integer encoder.maxBitRate.toInt),
      ("gop_size", .integer encoder.gopSize.toInt),
      ("keyint_min", .integer encoder.keyintMin.toInt),
      ("preset", .text encoder.preset),
      ("max_width", .integer encoder.maxWidth.toNat),
      ("max_height", .integer encoder.maxHeight.toNat),
      ("sv_profile", .integer encoder.qualityProfile.toInt)]

end Encoder

end Footage.Config
