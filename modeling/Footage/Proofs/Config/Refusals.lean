import Footage.Proofs.Config.Sections
import Footage.Proofs.Document.Refusals

/-!
# Refused configurations

A record of the configuration is refused exactly where a check of one of its fields refuses it, so
every refusal rests on a value that a key of the document is bound to.
-/

namespace Footage.Config

open Footage.Document Footage.Place

set_option autoImplicit false

section Leaves

theorem boolean_checked {name : String} :
    Traceable (Field.optional name Value.asBoolean).check :=
  Value.as_boolean_traceable.map _

theorem text_checked {name expected : String} :
    Traceable (Field.optional name (Value.asTextExpecting expected)).check :=
  (Value.as_text_expecting_traceable expected).map _

theorem integer_checked {α : Type} {name : String} {low high : Int} {expected : String}
    {change : Int → α} :
    Traceable (Field.optional name
      fun value => (Value.asIntegerWithin low high expected value).map change).check :=
  ((Value.as_integer_within_traceable low high expected).map change).map _

end Leaves

theorem TimeOverlay.shape_governs : shape.Governs ofValue := by
  apply Shape.Governs.of_total (fun _ => rfl)
  · simp [shape, Field.optional]
  · intro value entries taken
    have distinct : (shape.fields.map Field.name).Nodup := by simp [shape, Field.optional]
    have given (name : String) (declared : Field.optional name Value.asBoolean ∈ shape.fields) :=
      Shape.optional_taken distinct taken name Value.asBoolean false declared
    obtain ⟨_, enabled⟩ := given "enabled" (by simp [shape])
    obtain ⟨_, hours⟩ := given "use_12hr_time" (by simp [shape])
    obtain ⟨_, date⟩ := given "use_us_date" (by simp [shape])
    simp [enabled, hours, date]

theorem TimeOverlay.traceable : Traceable ofValue := by
  apply shape_governs.traceable
  simp only [shape, List.forall_mem_cons]
  exact ⟨boolean_checked, boolean_checked, boolean_checked, by simp⟩

theorem Paths.shape_governs (env : Environment) : shape.Governs (ofValue env) := by
  apply Shape.Governs.of_total (fun _ => rfl)
  · simp [shape, Field.optional]
  · intro value entries taken
    have distinct : (shape.fields.map Field.name).Nodup := by simp [shape, Field.optional]
    have given (name absent : String)
        (declared : Field.optional name Value.asPath ∈ shape.fields) :=
      Shape.optional_taken distinct taken name Value.asPath absent declared
    obtain ⟨_, recordDir⟩ := given "record_dir" (default env).recordDir (by simp [shape])
    obtain ⟨_, storageDir⟩ := given "storage_dir" (default env).storageDir (by simp [shape])
    obtain ⟨_, configDir⟩ := given "config_dir" (default env).configDir (by simp [shape])
    obtain ⟨_, indexPath⟩ := given "index_path" (default env).indexPath (by simp [shape])
    simp [recordDir, storageDir, configDir, indexPath]

theorem Paths.traceable (env : Environment) : Traceable (ofValue env) := by
  apply (shape_governs env).traceable
  simp only [shape, List.forall_mem_cons]
  exact ⟨text_checked, text_checked, text_checked, text_checked, by simp⟩

theorem Capture.shape_governs : shape.Governs ofValue := by
  apply Shape.Governs.of_total (fun _ => rfl)
  · simp [shape, Field.optional]
  · intro value entries taken
    have distinct : (shape.fields.map Field.name).Nodup := by simp [shape, Field.optional]
    have number (name : String) (absent : UInt32)
        (declared : Field.optional name Value.asUInt32 ∈ shape.fields) :=
      Shape.optional_taken distinct taken name Value.asUInt32 absent declared
    have flag (name : String) (absent : Bool)
        (declared : Field.optional name Value.asBoolean ∈ shape.fields) :=
      Shape.optional_taken distinct taken name Value.asBoolean absent declared
    obtain ⟨_, recordWidth⟩ := number "record_width" 320 (by simp [shape])
    obtain ⟨_, recordHeight⟩ := number "record_height" 240 (by simp [shape])
    obtain ⟨_, fpsLimit⟩ := number "fps_limit" 10 (by simp [shape])
    obtain ⟨_, recordAudio⟩ := flag "record_audio" true (by simp [shape])
    obtain ⟨_, audioMute⟩ := flag "audio_mute" false (by simp [shape])
    obtain ⟨_, forceTcp⟩ := flag "force_tcp" false (by simp [shape])
    obtain ⟨_, fastStart⟩ := flag "fast_start" false (by simp [shape])
    obtain ⟨_, recordInMemory⟩ := flag "record_in_memory" false (by simp [shape])
    obtain ⟨_, qualityProfile⟩ := Shape.optional_taken distinct taken
      "quality_profile" Value.asInt32 (-1) (by simp [shape])
    obtain ⟨_, maxOutputWidth⟩ := number "max_output_width" 0 (by simp [shape])
    obtain ⟨_, maxOutputHeight⟩ := number "max_output_height" 0 (by simp [shape])
    obtain ⟨_, hwAccelDevice⟩ := Shape.optional_taken distinct taken
      "hw_accel_device" Value.asText "" (by simp [shape])
    obtain ⟨_, timestamps⟩ := Shape.optional_taken distinct taken
      "timestamps" TimeOverlay.ofValue {} (by simp [shape])
    obtain ⟨_, statsIntervalSecs⟩ := Shape.optional_taken distinct taken
      "stats_interval_secs" Value.asUInt64 0 (by simp [shape])
    simp [recordWidth, recordHeight, fpsLimit, recordAudio, audioMute, forceTcp,
      fastStart, recordInMemory, qualityProfile, maxOutputWidth, maxOutputHeight, hwAccelDevice,
      timestamps, statsIntervalSecs]

theorem Capture.traceable : Traceable ofValue := by
  apply shape_governs.traceable
  simp only [shape, List.forall_mem_cons]
  exact ⟨integer_checked, integer_checked, integer_checked, boolean_checked, boolean_checked,
    boolean_checked, boolean_checked, boolean_checked, integer_checked, integer_checked,
    integer_checked, text_checked, TimeOverlay.traceable.map _, integer_checked, by simp⟩

theorem Telemetry.shape_governs : shape.Governs ofValue := by
  apply Shape.Governs.of_total (fun _ => rfl)
  · simp [shape, Field.optional]
  · intro value entries taken
    have distinct : (shape.fields.map Field.name).Nodup := by simp [shape]
    obtain ⟨_, logLevel⟩ := Shape.optional_taken distinct taken
      "log_level" Value.asText "info" (by simp [shape])
    simp [logLevel]

theorem Telemetry.traceable : Traceable ofValue := by
  apply shape_governs.traceable
  simp only [shape, List.forall_mem_cons]
  exact ⟨text_checked, by simp⟩

theorem Recorder.shape_governs (env : Environment) : (shape env).Governs (ofValue env) := by
  apply Shape.Governs.of_total (fun _ => rfl)
  · simp [shape, Field.optional]
  · intro value entries taken
    have distinct : ((shape env).fields.map Field.name).Nodup := by simp [shape, Field.optional]
    obtain ⟨_, paths⟩ := Shape.optional_taken distinct taken
      "paths" (Paths.ofValue env) (Paths.default env) (by simp [shape])
    obtain ⟨_, capture⟩ := Shape.optional_taken distinct taken
      "capture" Capture.ofValue {} (by simp [shape])
    obtain ⟨_, telemetry⟩ := Shape.optional_taken distinct taken
      "telemetry" Telemetry.ofValue {} (by simp [shape])
    simp [default, paths, capture, telemetry]

theorem Recorder.fields_traceable (env : Environment) :
    ∀ field ∈ (shape env).fields, Traceable field.check := by
  simp only [shape, List.forall_mem_cons]
  exact ⟨(Paths.traceable env).map _, Capture.traceable.map _, Telemetry.traceable.map _, by simp⟩

end Footage.Config
