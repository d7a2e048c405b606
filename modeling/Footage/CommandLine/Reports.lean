import Footage.Clip.Persisted
import Footage.Config.Load
import Footage.Config.Overrides
import Footage.Config.Render
import Footage.Json.Print

/-!
# What the commands write

The configuration as a text below comments that name its files and variables, the encoder profile
as a list of labelled values, and clips as rows or as JSON. Columns are counted in characters.
-/

namespace Footage.CommandLine

open Footage.Clip Footage.Config Footage.Files Footage.Number

set_option autoImplicit false

def filler (width : Nat) (text : String) : String :=
  String.ofList (List.replicate (width - text.length) ' ')

def leftIn (width : Nat) (text : String) : String := text ++ filler width text

def rightIn (width : Nat) (text : String) : String := filler width text ++ text

def unlines (lines : List String) : String := "".intercalate (lines.map fun line => line ++ "\n")

def sourceLines (sources : Sources) : List String :=
  (if sources.files.isEmpty then ["# sources: compiled defaults"] else []) ++
    sources.files.map (fun file => "# file: " ++ file) ++
    sources.overrides.map (fun name => "# env: " ++ name)

def configReport (config : Recorder) (sources : Sources) : String :=
  unlines (sourceLines sources ++ [""]) ++ config.toText

def qualityText : Quality → String
  | .notSpecified => "not specified"
  | .original => "original"
  | .high => "high"
  | .medium => "medium"
  | .low => "low"
  | .other number => "other (" ++ intText number.toInt ++ ")"

def labelWidth : Nat := 21

def encoderReport (file : String) (encoder : Encoder) : String :=
  unlines
    ([("source:", file),
      ("bit_rate_multiplier:", encoder.bitRateMultiplier.text Layout.positional),
      ("max_bit_rate:", intText encoder.maxBitRate.toInt),
      ("gop_size:", intText encoder.gopSize.toInt),
      ("keyint_min:", intText encoder.keyintMin.toInt),
      ("preset:", encoder.preset),
      ("max size:",
        toString encoder.maxWidth.toNat ++ "x" ++ toString encoder.maxHeight.toNat),
      ("quality:", qualityText encoder.quality)].map
      fun (label, value) => leftIn labelWidth label ++ value)

def largerUnits : List String := ["KiB", "MiB", "GiB"]

/-- A size in the largest unit that leaves at least one, or in the last of the units. -/
def scaledSize (value : Double) : List String → String
  | [] => value.fixed 1
  | [unit] => value.fixed 1 ++ " " ++ unit
  | unit :: units =>
      if value.toRatio.top < 1024 * value.toRatio.bottom then value.fixed 1 ++ " " ++ unit
      else scaledSize (value.div (Double.ofNat 1024)) units

def sizeText (bytes : Nat) : String :=
  if bytes < 1024 then toString bytes ++ " B"
  else scaledSize ((Double.ofNat bytes).div (Double.ofNat 1024)) largerUnits

def directoryBytes : Nat := 4096

def storedSize (tree : Tree) (storageDir : String) (clip : Record) : String :=
  match tree.find (Place.join storageDir clip.path) with
  | .ok (_, .file content) => sizeText content.size
  | .ok (_, .directory) => sizeText directoryBytes
  | .error _ => "missing"

def clipRow (tree : Tree) (storageDir : String) (clip : Record) : String :=
  let seconds := (Double.ofInt clip.durationMs.toInt).div (Double.ofNat 1000)
  " ".intercalate
    [leftIn 48 clip.path,
      rightIn 14 (intText clip.startMs.toInt),
      rightIn 14 (intText clip.endMs.toInt),
      rightIn 8 (seconds.fixed 1) ++ "s",
      rightIn 10 (storedSize tree storageDir clip)]

def clipRows (tree : Tree) (storageDir : String) (clips : List Record) : String :=
  unlines (clips.map (clipRow tree storageDir) ++ [toString clips.length ++ " clip(s)"])

def clipJson (clips : List Record) : String :=
  Json.pretty 0 (.list (clips.map Record.toValue)) ++ "\n"

end Footage.CommandLine
