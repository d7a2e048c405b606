import Footage.Config.Types
import Footage.Toml.Render

/-!
# Writing the configuration

The whole configuration as a text that can be read again: a table for the directories, one for
the capture settings with the time overlay below it, and one for the log level.
-/

namespace Footage.Config

open Footage.Toml

set_option autoImplicit false

def greatestInteger : Nat := 9223372036854775807

namespace Recorder

def sections (config : Recorder) : List Section :=
  let capture := config.capture
  [⟨["paths"],
      [("record_dir", .text config.paths.recordDir),
        ("storage_dir", .text config.paths.storageDir),
        ("config_dir", .text config.paths.configDir),
        ("index_path", .text config.paths.indexPath)]⟩,
    ⟨["capture"],
      [("record_width", .integer capture.recordWidth.toNat),
        ("record_height", .integer capture.recordHeight.toNat),
        ("fps_limit", .integer capture.fpsLimit.toNat),
        ("record_audio", .boolean capture.recordAudio),
        ("audio_mute", .boolean capture.audioMute),
        ("force_tcp", .boolean capture.forceTcp),
        ("fast_start", .boolean capture.fastStart),
        ("record_in_memory", .boolean capture.recordInMemory),
        ("quality_profile", .integer capture.qualityProfile.toInt),
        ("max_output_width", .integer capture.maxOutputWidth.toNat),
        ("max_output_height", .integer capture.maxOutputHeight.toNat),
        ("hw_accel_device", .text capture.hwAccelDevice),
        ("stats_interval_secs", .integer capture.statsIntervalSecs.toNat)]⟩,
    ⟨["capture", "timestamps"],
      [("enabled", .boolean capture.timestamps.enabled),
        ("use_12hr_time", .boolean capture.timestamps.use12HourTime),
        ("use_us_date", .boolean capture.timestamps.useUsDate)]⟩,
    ⟨["telemetry"], [("log_level", .text config.telemetry.logLevel)]⟩]

def heading : String := "# Clip recorder configuration\n\n"

/-- The configuration as a text. An interval that no integer of the format can hold leaves a
comment in place of the tables. -/
def toText (config : Recorder) : String :=
  if config.capture.statsIntervalSecs.toNat ≤ greatestInteger then
    heading ++ Section.renderAll config.sections
  else heading ++ "# failed to render config: out-of-range value for u64 type\n"

end Recorder

end Footage.Config
