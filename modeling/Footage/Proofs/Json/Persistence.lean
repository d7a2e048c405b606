import Footage.Clip.Persisted
import Footage.Playback.Options
import Footage.Proofs.Config.Records
import Footage.Proofs.Json.Carrying

/-!
# Persisted records survive JSON

Each of the persisted records is written with all its fields, so that none of the required ones is
missed, and read back from them, whatever text carries it. A record with doubles has finite ones
whenever it was read from a document.
-/

namespace Footage.Clip

open Footage.Document

set_option autoImplicit false

theorem Segment.of_value_written {segment : Segment} {table : Table}
    (written : Holds table
      [("file_name", .text segment.fileName),
        ("dir", .text segment.dir),
        ("location_name", .text segment.location),
        ("start_ms", .integer segment.startMs.toInt),
        ("end_ms", .integer segment.endMs.toInt),
        ("prev_path", .text segment.prevPath),
        ("width", .integer segment.width.toNat),
        ("height", .integer segment.height.toNat)]) :
    ofValue (.table table) = .ok segment := by
  have record : shape.entries (.table table) = .ok table := by
    apply written.complete
    · simp [shape, Shape.checkEntry, Field.mandatory, Value.as_uint32_written,
        Value.as_int64_written, Value.asText, Value.asTextExpecting]
    · simp [shape, Field.mandatory, Entries.find?]
  simp [ofValue, record, Table.mandatory, written.finds, Entries.find?, Value.as_uint32_written,
    Value.as_int64_written, Value.asText, Value.asTextExpecting]

theorem Record.of_value_written {clip : Record} {table : Table}
    (written : Holds table
      [("path", .text clip.path),
        ("location_name", .text clip.location),
        ("start_ms", .integer clip.startMs.toInt),
        ("end_ms", .integer clip.endMs.toInt),
        ("prev_path", .text clip.prevPath),
        ("width", .integer clip.width.toNat),
        ("height", .integer clip.height.toNat)]) :
    ofValue (.table table) = .ok clip := by
  have record : shape.entries (.table table) = .ok table := by
    apply written.complete
    · simp [shape, Shape.checkEntry, Field.mandatory, Value.as_uint32_written,
        Value.as_int64_written, Value.asText, Value.asTextExpecting]
    · simp [shape, Field.mandatory, Entries.find?]
  simp [ofValue, record, Table.mandatory, written.finds, Entries.find?, Value.as_uint32_written,
    Value.as_int64_written, Value.asText, Value.asTextExpecting]

end Footage.Clip

namespace Footage.Playback

open Footage.Config Footage.Document

set_option autoImplicit false

theorem Overlay.of_value_written {overlay : Overlay} {table : Table} {params : Value}
    (numbers : Value.asListOf Value.asDouble params = .ok overlay.params)
    (written : Holds table [("ms", .integer overlay.ms.toInt), ("params", params)]) :
    ofValue (.table table) = .ok overlay := by
  have record : shape.entries (.table table) = .ok table := by
    apply written.complete
    · simp [shape, Shape.checkEntry, Field.mandatory, Value.as_int64_written, numbers]
    · simp [shape, Field.mandatory, Entries.find?]
  simp [ofValue, record, Table.mandatory, written.finds, Entries.find?, Value.as_int64_written,
    numbers]

theorem OpenOptions.of_value_written {options : OpenOptions} {table : Table}
    {timestamps boxes zones : Value}
    (overlay : TimeOverlay.ofValue timestamps = .ok options.timestamps)
    (drawn : Value.asListOf Overlay.ofValue boxes = .ok options.boxes)
    (marked : Value.asListOf Overlay.ofValue zones = .ok options.zones)
    (written : Holds table
      [("enable_audio", .boolean options.enableAudio),
        ("async_read", .boolean options.asyncRead),
        ("debug", .boolean options.debug),
        ("timestamps", timestamps),
        ("keyframe_only", .boolean options.keyframeOnly),
        ("audio_mute", .boolean options.audioMute),
        ("boxes", boxes),
        ("zones", zones)]) :
    ofValue (.table table) = .ok options := by
  have record : shape.entries (.table table) = .ok table := by
    apply written.complete
    · simp [shape, Shape.checkEntry, Field.mandatory, overlay, drawn, marked, Value.asBoolean]
    · simp [shape, Field.mandatory, Entries.find?]
  simp [ofValue, record, Table.mandatory, written.finds, Entries.find?, overlay, drawn, marked,
    Value.asBoolean]

end Footage.Playback

namespace Footage.Json

open Footage.Clip Footage.Config Footage.Document Footage.Place Footage.Playback

set_option autoImplicit false

section Written

theorem segment_written (segment : Segment) :
    Segment.ofValue (carried segment.toValue) = .ok segment := by
  apply record_written (by simp [Entries.keys])
  intro table written
  exact Segment.of_value_written written

theorem clip_record_written (clip : Record) : Record.ofValue (carried clip.toValue) = .ok clip := by
  apply record_written (by simp [Entries.keys])
  intro table written
  exact Record.of_value_written written

theorem time_overlay_written (overlay : TimeOverlay) :
    TimeOverlay.ofValue (carried overlay.toValue) = .ok overlay := by
  apply record_written (by simp [Entries.keys])
  intro table written
  exact TimeOverlay.of_value_written written

theorem paths_written (env : Environment) (paths : Paths) :
    Paths.ofValue env (carried paths.toValue) = .ok paths := by
  apply record_written (by simp [Entries.keys])
  intro table written
  exact Paths.of_value_written env written

theorem capture_written (capture : Capture) :
    Capture.ofValue (carried capture.toValue) = .ok capture := by
  apply record_written (by simp [Entries.keys])
  intro table written
  apply Capture.of_value_written (time_overlay_written capture.timestamps)
  -- The record is read with the overlay behind all others, as a configuration file has it.
  apply written.permuted
  · rw [keys_carried]
    simp [Entries.keys]
  · simp only [carriedEntries, carriedEntry, carried]
    repeat apply List.Perm.cons
    exact List.Perm.swap _ _ _

theorem telemetry_written (telemetry : Telemetry) :
    Telemetry.ofValue (carried telemetry.toValue) = .ok telemetry := by
  apply record_written (by simp [Entries.keys])
  intro table written
  exact Telemetry.of_value_written written

theorem recorder_written (env : Environment) (config : Recorder) :
    Recorder.ofValue env (carried config.toValue) = .ok config := by
  apply record_written (by simp [Entries.keys])
  intro table written
  exact Recorder.of_value_written (paths_written env config.paths) (capture_written config.capture)
    (telemetry_written config.telemetry) written

end Written

section Finite

def FiniteEncoder (encoder : Encoder) : Prop := encoder.bitRateMultiplier.isFinite = true

def FiniteOverlay (overlay : Overlay) : Prop := ∀ param ∈ overlay.params, param.isFinite = true

def FiniteOptions (options : OpenOptions) : Prop :=
  (∀ overlay ∈ options.boxes, FiniteOverlay overlay) ∧
    ∀ overlay ∈ options.zones, FiniteOverlay overlay

theorem encoder_written {encoder : Encoder} (finite : FiniteEncoder encoder) :
    Encoder.ofValue (carried encoder.toValue) = .ok encoder := by
  apply record_written (by simp [Entries.keys])
  intro table written
  simp only [carriedEntries, carriedEntry, carried_double finite] at written
  exact Encoder.of_value_written written

theorem overlay_written {overlay : Overlay} (finite : FiniteOverlay overlay) :
    Overlay.ofValue (carried overlay.toValue) = .ok overlay := by
  apply record_written (by simp [Entries.keys])
  intro table written
  apply Overlay.of_value_written _ written
  apply list_written
  intro param member
  rw [carried_double (finite param member)]
  rfl

theorem options_written {options : OpenOptions} (finite : FiniteOptions options) :
    OpenOptions.ofValue (carried options.toValue) = .ok options := by
  apply record_written (by simp [Entries.keys])
  intro table written
  apply OpenOptions.of_value_written (time_overlay_written options.timestamps) _ _ written
  · exact list_written fun overlay member => overlay_written (finite.1 overlay member)
  · exact list_written fun overlay member => overlay_written (finite.2 overlay member)

variable {document : Value} (denotable : Denotable document)

include denotable

theorem encoder_finite {encoder : Encoder} (read : Encoder.ofValue document = .ok encoder) :
    FiniteEncoder encoder := by
  simp only [Encoder.ofValue, bind_eq_ok] at read
  obtain ⟨entries, taken, multiplier, given, _, -, _, -, _, -, _, -, _, -, _, -, _, -, same⟩ := read
  cases same
  rcases Table.optional_from given with ⟨value, member, number⟩ | absent
  · exact as_double_finite (entries_denotable denotable taken _ member) number
  · rw [FiniteEncoder, absent]
    rfl

theorem overlay_finite {overlay : Overlay} (read : Overlay.ofValue document = .ok overlay) :
    FiniteOverlay overlay := by
  simp only [Overlay.ofValue, bind_eq_ok] at read
  obtain ⟨entries, taken, _, -, params, given, same⟩ := read
  cases same
  obtain ⟨value, member, numbers⟩ := Table.mandatory_from given
  intro param inside
  obtain ⟨item, stands, number⟩ :=
    list_read (entries_denotable denotable taken _ member) numbers param inside
  exact as_double_finite stands number

theorem overlays_finite {entries : Table} {name : String} {overlays : List Overlay}
    {shape : Shape} (taken : shape.entries document = .ok entries)
    (given : entries.mandatory name (Value.asListOf Overlay.ofValue) = .ok overlays) :
    ∀ overlay ∈ overlays, FiniteOverlay overlay := by
  intro overlay inside
  obtain ⟨value, member, drawn⟩ := Table.mandatory_from given
  obtain ⟨item, stands, read⟩ :=
    list_read (entries_denotable denotable taken _ member) drawn overlay inside
  exact overlay_finite stands read

theorem options_finite {options : OpenOptions}
    (read : OpenOptions.ofValue document = .ok options) : FiniteOptions options := by
  simp only [OpenOptions.ofValue, bind_eq_ok] at read
  obtain ⟨entries, taken, _, -, _, -, _, -, _, -, _, -, _, -, boxes, drawn, zones, marked, same⟩ :=
    read
  cases same
  exact ⟨overlays_finite denotable taken drawn, overlays_finite denotable taken marked⟩

end Finite

/-- Reading and writing are inverse for every persisted record, in every environment, and every text
that can be read is one that the reading is about. -/
theorem persisted_records_round_trip (env : Environment) :
    RoundTrips Record.ofValue Record.toValue (fun _ => True) ∧
      RoundTrips Segment.ofValue Segment.toValue (fun _ => True) ∧
      RoundTrips Overlay.ofValue Overlay.toValue FiniteOverlay ∧
      RoundTrips OpenOptions.ofValue OpenOptions.toValue FiniteOptions ∧
      RoundTrips TimeOverlay.ofValue TimeOverlay.toValue (fun _ => True) ∧
      RoundTrips Capture.ofValue Capture.toValue (fun _ => True) ∧
      RoundTrips Encoder.ofValue Encoder.toValue FiniteEncoder ∧
      RoundTrips (Paths.ofValue env) Paths.toValue (fun _ => True) ∧
      RoundTrips Telemetry.ofValue Telemetry.toValue (fun _ => True) ∧
      RoundTrips (Recorder.ofValue env) Recorder.toValue (fun _ => True) ∧
      ∀ text document, read? text = some document → Denotable document := by
  refine ⟨.of_exact clip_record_written, .of_exact segment_written, ?_, ?_,
    .of_exact time_overlay_written, .of_exact capture_written, ?_, .of_exact (paths_written env),
    .of_exact telemetry_written, .of_exact (recorder_written env), fun _ _ => read_denotable⟩
  · exact .of_finite (fun _ => overlay_written) fun _ _ stands read => overlay_finite stands read
  · exact .of_finite (fun _ => options_written) fun _ _ stands read => options_finite stands read
  · exact .of_finite (fun _ => encoder_written) fun _ _ stands read => encoder_finite stands read

/-- A profile in an array that ends early, with an integer for its double. -/
theorem persisted_records_round_trip_array :
    let encoder : Encoder := { bitRateMultiplier := ⟨0x4000000000000000⟩, maxBitRate := 9 }
    Encoder.ofValue (.list [.integer 2, .integer 9]) = .ok encoder ∧
      Encoder.ofValue (carried encoder.toValue) = .ok encoder := by
  intro encoder
  have denotable : Denotable (.list [.integer 2, .integer 9]) := by
    apply Denotable.list
    simp only [List.forall_mem_cons]
    exact ⟨.integer (by decide) (by decide), .integer (by decide) (by decide), by simp⟩
  have read : Encoder.ofValue (.list [.integer 2, .integer 9]) = .ok encoder := by
    rfl
  obtain ⟨-, -, -, -, -, -, profile, -⟩ :=
    persisted_records_round_trip ⟨fun _ => none, none⟩
  exact ⟨read, profile.rewritten _ encoder denotable read⟩

end Footage.Json
