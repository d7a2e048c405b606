import Footage.Place.Environment

/-!
# The configuration of the recorder

Where files go, how streams are captured, and what is logged. Every field has a default; the
default directories depend on the environment.
-/

namespace Footage.Config

open Footage.Place

set_option autoImplicit false

/-- Directories and the index file. -/
structure Paths where
  /-- The engine writes live segments below this directory, one directory for each location. -/
  recordDir : String
  /-- Root of the permanent storage. -/
  storageDir : String
  /-- Directory of the encoder profile. -/
  configDir : String
  /-- The clip index. -/
  indexPath : String
deriving DecidableEq, Repr

structure TimeOverlay where
  enabled : Bool := false
  use12HourTime : Bool := false
  useUsDate : Bool := false
deriving DecidableEq, Repr

structure Capture where
  recordWidth : UInt32 := 320
  recordHeight : UInt32 := 240
  fpsLimit : UInt32 := 10
  recordAudio : Bool := true
  audioMute : Bool := false
  forceTcp : Bool := false
  fastStart : Bool := false
  /-- The engine keeps segments in memory and moves them itself. -/
  recordInMemory : Bool := false
  qualityProfile : Int32 := -1
  /-- Zero for no bound. -/
  maxOutputWidth : UInt32 := 0
  maxOutputHeight : UInt32 := 0
  /-- Empty for decoding in software. -/
  hwAccelDevice : String := ""
  timestamps : TimeOverlay := {}
  /-- Zero for no log lines on timing. -/
  statsIntervalSecs : UInt64 := 0
deriving DecidableEq, Repr

structure Telemetry where
  logLevel : String := "info"
deriving DecidableEq, Repr

structure Recorder where
  paths : Paths
  capture : Capture := {}
  telemetry : Telemetry := {}
deriving DecidableEq, Repr

namespace Paths

def dataDir (env : Environment) : String :=
  match env.home? with
  | some home => join home ".local/share/cliprec"
  | none => ".local/share/cliprec"

def default (env : Environment) : Paths where
  recordDir := join (dataDir env) "recording"
  storageDir := join (dataDir env) "clips"
  configDir :=
    match env.configHome? with
    | some dir => join dir "cliprec"
    | none => ".config/cliprec"
  indexPath := join (dataDir env) "clips.db"

def locationRecordDir (paths : Paths) (location : String) : String := join paths.recordDir location

end Paths

namespace Recorder

def default (env : Environment) : Recorder := { paths := Paths.default env }

end Recorder

end Footage.Config
