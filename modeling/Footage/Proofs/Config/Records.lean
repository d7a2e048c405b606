import Footage.Config.Records
import Footage.Proofs.Document.Reading

/-!
# Reading a written record gives the record back

Every record of the configuration is written with all its fields, so none of the defaults comes
into play.
-/

namespace Footage.Config

open Footage.Document Footage.Place

set_option autoImplicit false

theorem TimeOverlay.of_value_written {overlay : TimeOverlay} {table : Table}
    (written : Holds table
      [("enabled", .boolean overlay.enabled),
        ("use_12hr_time", .boolean overlay.use12HourTime),
        ("use_us_date", .boolean overlay.useUsDate)]) :
    ofValue (.table table) = .ok overlay := by
  have record : shape.entries (.table table) = .ok table := by
    apply written.record
    · simp [shape, Shape.checkEntry, Field.optional, Value.asBoolean]
    · simp [shape, Field.optional]
  simp [ofValue, record, Table.optional, written.finds, Entries.find?, Value.asBoolean]

theorem Paths.of_value_written (env : Environment) {paths : Paths} {table : Table}
    (written : Holds table
      [("record_dir", .text paths.recordDir),
        ("storage_dir", .text paths.storageDir),
        ("config_dir", .text paths.configDir),
        ("index_path", .text paths.indexPath)]) :
    ofValue env (.table table) = .ok paths := by
  have record : shape.entries (.table table) = .ok table := by
    apply written.record
    · simp [shape, Shape.checkEntry, Field.optional, Value.asPath, Value.asTextExpecting]
    · simp [shape, Field.optional]
  simp [ofValue, record, Table.optional, written.finds, Entries.find?, Value.asPath,
    Value.asTextExpecting]

theorem Capture.of_value_written {capture : Capture} {table : Table} {overlay : Value}
    (nested : TimeOverlay.ofValue overlay = .ok capture.timestamps)
    (written : Holds table
      [("record_width", .integer capture.recordWidth.toNat),
        ("record_height", .integer capture.recordHeight.toNat),
        ("fps_limit", .integer capture.fpsLimit.toNat),
        ("record_audio", .boolean capture.recordAudio),
        ("audio_mute", .boolean capture.audioMute),
        ("force_tcp", .boolean capture.forceTcp),
        ("fast_start", .boolean capture.fastStart),
        ("record_in_memory", .boolean capture.recordInMemory),
        ("quality_profile", .integer capture.qualityProfile.toInt),
        ("max_output_width", .integer capture.maxOutputWidth.toNat),
        ("max_output_height", .integer capture.maxOutputHeight.toNat),
        ("hw_accel_device", .text capture.hwAccelDevice),
        ("stats_interval_secs", .integer capture.statsIntervalSecs.toNat),
        ("timestamps", overlay)]) :
    ofValue (.table table) = .ok capture := by
  have record : shape.entries (.table table) = .ok table := by
    apply written.record
    · simp [shape, Shape.checkEntry, Field.optional, Value.as_uint32_written,
        Value.as_int32_written, Value.as_uint64_written, nested, Value.asBoolean, Value.asText,
        Value.asTextExpecting]
    · simp [shape, Field.optional]
  simp [ofValue, record, Table.optional, written.finds, Entries.find?, Value.as_uint32_written,
    Value.as_int32_written, Value.as_uint64_written, nested, Value.asBoolean, Value.asText,
    Value.asTextExpecting]

theorem Telemetry.of_value_written {telemetry : Telemetry} {table : Table}
    (written : Holds table [("log_level", .text telemetry.logLevel)]) :
    ofValue (.table table) = .ok telemetry := by
  have record : shape.entries (.table table) = .ok table := by
    apply written.record
    · simp [shape, Shape.checkEntry, Field.optional, Value.asText, Value.asTextExpecting]
    · simp [shape, Field.optional]
  simp [ofValue, record, Table.optional, written.finds, Entries.find?, Value.asText,
    Value.asTextExpecting]

theorem Encoder.of_value_written {encoder : Encoder} {table : Table}
    (written : Holds table
      [("bit_rate_multiplier", .double encoder.bitRateMultiplier),
        ("max_bit_rate", .integer encoder.maxBitRate.toInt),
        ("gop_size", .integer encoder.gopSize.toInt),
        ("keyint_min", .integer encoder.keyintMin.toInt),
        ("preset", .text encoder.preset),
        ("max_width", .integer encoder.maxWidth.toNat),
        ("max_height", .integer encoder.maxHeight.toNat),
        ("sv_profile", .integer encoder.qualityProfile.toInt)]) :
    ofValue (.table table) = .ok encoder := by
  have record : shape.entries (.table table) = .ok table := by
    apply written.record
    · simp [shape, Shape.checkEntry, Field.optional, Value.as_uint32_written,
        Value.as_int32_written, Value.as_int64_written, Value.asDouble, Value.asText,
        Value.asTextExpecting]
    · simp [shape, Field.optional]
  simp [ofValue, record, Table.optional, written.finds, Entries.find?, Value.as_uint32_written,
    Value.as_int32_written, Value.as_int64_written, Value.asDouble, Value.asText,
    Value.asTextExpecting]

theorem Recorder.of_value_written {env : Environment} {config : Recorder} {table : Table}
    {paths capture telemetry : Value} (dirs : Paths.ofValue env paths = .ok config.paths)
    (stream : Capture.ofValue capture = .ok config.capture)
    (logs : Telemetry.ofValue telemetry = .ok config.telemetry)
    (written : Holds table [("paths", paths), ("capture", capture), ("telemetry", telemetry)]) :
    ofValue env (.table table) = .ok config := by
  have record : (shape env).entries (.table table) = .ok table := by
    apply written.record
    · simp [shape, Shape.checkEntry, Field.optional, dirs, stream, logs]
    · simp [shape, Field.optional]
  simp [ofValue, record, Table.optional, written.finds, Entries.find?, dirs, stream, logs]

end Footage.Config
