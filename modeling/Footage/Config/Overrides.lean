import Footage.Config.Load
import Footage.Number.Decimal
import Footage.Text.Cutting

/-!
# Environment variables over the configuration

A fixed list of variables overrides single fields. Numbers and truth values that cannot be read
are passed over; every variable that takes effect is listed, in the order of the list.
-/

namespace Footage.Config

open Footage.Document Footage.Number Footage.Place

set_option autoImplicit false

/-- A truth value in one of its spellings, in any case, with white space around it. -/
def parseTruth (text : String) : Option Bool :=
  match String.ofList ((Text.trimmed text.toList).map Char.toLower) with
  | "1" | "true" | "yes" | "on" => some true
  | "0" | "false" | "no" | "off" => some false
  | _ => none

/-- A variable and what its value does to the configuration, if it does anything. -/
structure Override where
  name : String
  apply : String → Recorder → Option Recorder

namespace Recorder

def mapPaths (config : Recorder) (change : Paths → Paths) : Recorder :=
  { config with paths := change config.paths }

def mapCapture (config : Recorder) (change : Capture → Capture) : Recorder :=
  { config with capture := change config.capture }

def withLogLevel (config : Recorder) (level : String) : Recorder :=
  { config with telemetry := { config.telemetry with logLevel := level } }

end Recorder

/-- The variables in the order in which they apply. -/
def overrides (env : Environment) : List Override :=
  [⟨"CLIPREC_RECORD_DIR", fun text config =>
      some (config.mapPaths fun paths => { paths with recordDir := env.expandPath text })⟩,
    ⟨"CLIPREC_STORAGE_DIR", fun text config =>
      some (config.mapPaths fun paths => { paths with storageDir := env.expandPath text })⟩,
    ⟨"CLIPREC_CONFIG_DIR", fun text config =>
      some (config.mapPaths fun paths => { paths with configDir := env.expandPath text })⟩,
    ⟨"CLIPREC_INDEX_PATH", fun text config =>
      some (config.mapPaths fun paths => { paths with indexPath := env.expandPath text })⟩,
    ⟨"CLIPREC_FPS_LIMIT", fun text config =>
      (parseNatural UInt32.size text).map fun limit =>
        config.mapCapture fun capture => { capture with fpsLimit := UInt32.ofNat limit }⟩,
    ⟨"CLIPREC_HW_DEVICE", fun text config =>
      some (config.mapCapture fun capture => { capture with hwAccelDevice := text })⟩,
    ⟨"CLIPREC_RECORD_IN_MEMORY", fun text config =>
      (parseTruth text).map fun on =>
        config.mapCapture fun capture => { capture with recordInMemory := on }⟩,
    ⟨"CLIPREC_STATS_INTERVAL", fun text config =>
      (parseNatural UInt64.size text).map fun secs =>
        config.mapCapture fun capture => { capture with statsIntervalSecs := UInt64.ofNat secs }⟩,
    ⟨"CLIPREC_LOG_LEVEL", fun text config => some (config.withLogLevel text)⟩,
    ⟨"RUST_LOG", fun text config => some (config.withLogLevel text)⟩]

def applyOverride (env : Environment) (state : Recorder × Sources) (override : Override) :
    Recorder × Sources :=
  match (env.lookup override.name).bind fun text => override.apply text state.1 with
  | some config =>
      (config, { state.2 with overrides := state.2.overrides ++ [override.name] })
  | none => state

def applyOverrides (env : Environment) (config : Recorder) (sources : Sources) :
    Recorder × Sources :=
  (overrides env).foldl (applyOverride env) (config, sources)

/-- Loads exactly the given files in order, then applies the environment. -/
def loadFiles (env : Environment) (tree : Files.Tree) (files : List String) :
    Except ConfigError (Recorder × Sources) := do
  let tables ← files.mapM (loadTable tree)
  let config ← ofTable env files.getLast? (Table.mergeAll tables)
  return applyOverrides env config { files := files }

def load (env : Environment) (tree : Files.Tree) (given : Option String) :
    Except ConfigError (Recorder × Sources) :=
  loadFiles env tree (discover env tree given)

end Footage.Config
