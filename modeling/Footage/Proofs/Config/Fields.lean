import Footage.Config.Records
import Footage.Proofs.Document.Fields

/-!
# What the records of the configuration are read from

Each record is read from a table exactly when every one of its fields is.
-/

namespace Footage.Config

open Footage.Document Footage.Place

set_option autoImplicit false

structure Paths.ReadFrom (env : Environment) (table : Table) (paths : Paths) : Prop where
  recordDir :
    table.optional "record_dir" Value.asPath (Paths.default env).recordDir = .ok paths.recordDir
  storageDir :
    table.optional "storage_dir" Value.asPath (Paths.default env).storageDir =
      .ok paths.storageDir
  configDir :
    table.optional "config_dir" Value.asPath (Paths.default env).configDir = .ok paths.configDir
  indexPath :
    table.optional "index_path" Value.asPath (Paths.default env).indexPath = .ok paths.indexPath

structure Capture.ReadFrom (table : Table) (capture : Capture) : Prop where
  recordWidth : table.optional "record_width" Value.asUInt32 320 = .ok capture.recordWidth
  recordHeight : table.optional "record_height" Value.asUInt32 240 = .ok capture.recordHeight
  fpsLimit : table.optional "fps_limit" Value.asUInt32 10 = .ok capture.fpsLimit
  recordAudio : table.optional "record_audio" Value.asBoolean true = .ok capture.recordAudio
  audioMute : table.optional "audio_mute" Value.asBoolean false = .ok capture.audioMute
  forceTcp : table.optional "force_tcp" Value.asBoolean false = .ok capture.forceTcp
  fastStart : table.optional "fast_start" Value.asBoolean false = .ok capture.fastStart
  recordInMemory :
    table.optional "record_in_memory" Value.asBoolean false = .ok capture.recordInMemory
  qualityProfile :
    table.optional "quality_profile" Value.asInt32 (-1) = .ok capture.qualityProfile
  maxOutputWidth :
    table.optional "max_output_width" Value.asUInt32 0 = .ok capture.maxOutputWidth
  maxOutputHeight :
    table.optional "max_output_height" Value.asUInt32 0 = .ok capture.maxOutputHeight
  hwAccelDevice : table.optional "hw_accel_device" Value.asText "" = .ok capture.hwAccelDevice
  timestamps : table.optional "timestamps" TimeOverlay.ofValue {} = .ok capture.timestamps
  statsIntervalSecs :
    table.optional "stats_interval_secs" Value.asUInt64 0 = .ok capture.statsIntervalSecs

structure Telemetry.ReadFrom (table : Table) (telemetry : Telemetry) : Prop where
  logLevel : table.optional "log_level" Value.asText "info" = .ok telemetry.logLevel

structure Recorder.ReadFrom (env : Environment) (table : Table) (config : Recorder) : Prop where
  paths :
    table.optional "paths" (Paths.ofValue env) (Paths.default env) = .ok config.paths
  capture : table.optional "capture" Capture.ofValue {} = .ok config.capture
  telemetry : table.optional "telemetry" Telemetry.ofValue {} = .ok config.telemetry

section Records

variable {table : Table} (distinct : (Entries.keys table).Nodup)

include distinct

theorem Paths.of_value_iff {env : Environment} {paths : Paths} :
    ofValue env (.table table) = .ok paths ↔ ReadFrom env table paths := by
  constructor
  · intro read
    simp only [ofValue, bind_eq_ok] at read
    obtain ⟨_, taken, _, recordDir, _, storageDir, _, configDir, _, indexPath, same⟩ := read
    cases Shape.entries_same taken
    cases same
    exact ⟨recordDir, storageDir, configDir, indexPath⟩
  · intro reads
    have record : shape.entries (.table table) = .ok table := by
      apply Shape.entries_lenient (by simp [shape, Field.optional]) distinct
      simp only [shape, List.forall_mem_cons]
      exact ⟨Table.optional_passes reads.recordDir, Table.optional_passes reads.storageDir,
        Table.optional_passes reads.configDir, Table.optional_passes reads.indexPath, by simp⟩
    simp only [ofValue, record, reads.recordDir, reads.storageDir, reads.configDir,
      reads.indexPath, reading_bind_ok]
    rfl

theorem Capture.of_value_iff {capture : Capture} :
    ofValue (.table table) = .ok capture ↔ ReadFrom table capture := by
  constructor
  · intro read
    simp only [ofValue, bind_eq_ok] at read
    obtain ⟨_, taken, _, recordWidth, _, recordHeight, _, fpsLimit, _, recordAudio, _, audioMute,
      _, forceTcp, _, fastStart, _, recordInMemory, _, qualityProfile, _, maxOutputWidth,
      _, maxOutputHeight, _, hwAccelDevice, _, timestamps, _, statsIntervalSecs, same⟩ := read
    cases Shape.entries_same taken
    cases same
    exact ⟨recordWidth, recordHeight, fpsLimit, recordAudio, audioMute, forceTcp, fastStart,
      recordInMemory, qualityProfile, maxOutputWidth, maxOutputHeight, hwAccelDevice, timestamps,
      statsIntervalSecs⟩
  · intro reads
    have record : shape.entries (.table table) = .ok table := by
      apply Shape.entries_lenient (by simp [shape, Field.optional]) distinct
      simp only [shape, List.forall_mem_cons]
      exact ⟨Table.optional_passes reads.recordWidth, Table.optional_passes reads.recordHeight,
        Table.optional_passes reads.fpsLimit, Table.optional_passes reads.recordAudio,
        Table.optional_passes reads.audioMute, Table.optional_passes reads.forceTcp,
        Table.optional_passes reads.fastStart, Table.optional_passes reads.recordInMemory,
        Table.optional_passes reads.qualityProfile, Table.optional_passes reads.maxOutputWidth,
        Table.optional_passes reads.maxOutputHeight, Table.optional_passes reads.hwAccelDevice,
        Table.optional_passes reads.timestamps, Table.optional_passes reads.statsIntervalSecs,
        by simp⟩
    simp only [ofValue, record, reads.recordWidth, reads.recordHeight, reads.fpsLimit,
      reads.recordAudio, reads.audioMute, reads.forceTcp, reads.fastStart, reads.recordInMemory,
      reads.qualityProfile, reads.maxOutputWidth, reads.maxOutputHeight, reads.hwAccelDevice,
      reads.timestamps, reads.statsIntervalSecs, reading_bind_ok]
    rfl

theorem Telemetry.of_value_iff {telemetry : Telemetry} :
    ofValue (.table table) = .ok telemetry ↔ ReadFrom table telemetry := by
  constructor
  · intro read
    simp only [ofValue, bind_eq_ok] at read
    obtain ⟨_, taken, _, logLevel, same⟩ := read
    cases Shape.entries_same taken
    cases same
    exact ⟨logLevel⟩
  · intro reads
    have record : shape.entries (.table table) = .ok table := by
      apply Shape.entries_lenient (by simp [shape, Field.optional]) distinct
      simp only [shape, List.forall_mem_cons]
      exact ⟨Table.optional_passes reads.logLevel, by simp⟩
    simp only [ofValue, record, reads.logLevel, reading_bind_ok]
    rfl

theorem Recorder.of_value_iff {env : Environment} {config : Recorder} :
    ofValue env (.table table) = .ok config ↔ ReadFrom env table config := by
  constructor
  · intro read
    simp only [ofValue, bind_eq_ok] at read
    obtain ⟨_, taken, _, paths, _, capture, _, telemetry, same⟩ := read
    cases Shape.entries_same taken
    cases same
    exact ⟨paths, capture, telemetry⟩
  · intro reads
    have record : (shape env).entries (.table table) = .ok table := by
      apply Shape.entries_lenient (by simp [shape, Field.optional]) distinct
      simp only [shape, List.forall_mem_cons]
      exact ⟨Table.optional_passes reads.paths, Table.optional_passes reads.capture,
        Table.optional_passes reads.telemetry, by simp⟩
    simp only [ofValue, record, default, reads.paths, reads.capture, reads.telemetry,
      reading_bind_ok]
    rfl

end Records

end Footage.Config
