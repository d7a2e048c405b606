import Footage.Proofs.Config.Lossless
import Footage.Proofs.Config.Overriding

/-!
# Saving the effective configuration and loading it again

A loaded configuration has its directories expanded once, and reading it back from its text
expands them once more. Integers from documents fit into the text; an interval from the
environment may not.
-/

namespace Footage.Config

open Footage.Document Footage.Number Footage.Place Footage.Toml

set_option autoImplicit false

namespace Recorder

variable {env : Environment} {config : Recorder}

theorem sections_lead (config : Recorder) :
    ∃ rest, (Section.renderAll config.sections).toList = '[' :: rest := by
  simp only [sections, Section.renderAll, List.map_cons, String.intercalate_cons_cons,
    Section.render, String.toList_append, List.append_assoc]
  exact ⟨_, rfl⟩

/-- The text holds the tables unless the interval is too long for the format. -/
theorem rendered_iff : config.toText = heading ++ Section.renderAll config.sections ↔
    config.capture.statsIntervalSecs.toNat ≤ greatestInteger := by
  constructor
  · intro rendered
    apply Classical.byContradiction
    intro long
    rw [toText, if_neg long] at rendered
    have bodies := congrArg String.toList ((String.append_right_inj _).mp rendered)
    obtain ⟨rest, lead⟩ := sections_lead config
    rw [lead] at bodies
    exact absurd (List.cons.inj bodies).1 (by decide)
  · intro short
    exact if_pos short

end Recorder

theorem as_uint64_fits {value : Value} {number : UInt64} (fits : value.Fits)
    (read : Value.asUInt64 value = .ok number) : number.toNat ≤ greatestInteger := by
  cases fits with
  | integer low high =>
      rename_i size
      simp only [Value.asUInt64, Value.asIntegerWithin] at read
      split at read
      · rename_i within
        cases read
        simp only [UInt64.toNat_ofNat', greatestInteger]
        have small := Nat.mod_le size.toNat (2 ^ 64)
        omega
      · cases read
  | _ => cases read

theorem entries_fit {shape : Shape} {value : Value} {entries : Table} (fits : value.Fits)
    (read : shape.entries value = .ok entries) : ∀ entry ∈ entries, entry.2.Fits := by
  apply Shape.entries_hold _ _ fits read
  · intro table whole
    cases whole with
    | table inner => exact inner
  · intro items whole
    cases whole with
    | list inner => exact inner

theorem Capture.interval_fits {value : Value} {capture : Capture} (fits : value.Fits)
    (read : ofValue value = .ok capture) :
    capture.statsIntervalSecs.toNat ≤ greatestInteger := by
  simp only [ofValue, bind_eq_ok] at read
  obtain ⟨entries, taken, _, -, _, -, _, -, _, -, _, -, _, -, _, -, _, -, _, -, _, -, _, -, _, -,
    _, -, interval, read, same⟩ := read
  cases same
  simp only [Table.optional] at read
  split at read
  · rename_i found
    exact as_uint64_fits (entries_fit fits taken _ (Entries.mem_of_find? found)) read
  · cases read
    exact Nat.zero_le _

theorem of_table_interval {env : Environment} {origin : Option String} {table : Table}
    {config : Recorder} (document : IsDocument table)
    (read : ofTable env origin table = .ok config) :
    config.capture.statsIntervalSecs.toNat ≤ greatestInteger := by
  have distinct := (expand_paths_ordered env document.sorted.ordered).distinct
  have record := (Recorder.of_value_iff distinct).mp (of_table_validated.mp read).1
  have capture := record.capture
  simp only [Table.optional, find?_expand_paths env table (show "capture" ≠ "paths" by decide)]
    at capture
  split at capture
  · rename_i found
    exact Capture.interval_fits (document.fits.inner _ (Entries.mem_of_find? found)) capture
  · rw [← Except.ok.inj capture]
    exact Nat.zero_le _

/-- An interval that is too long for a document has come from its variable. -/
theorem long_interval_given {env : Environment} {names : List String} {decoded : Recorder}
    (short : decoded.capture.statsIntervalSecs.toNat ≤ greatestInteger)
    (long : greatestInteger <
      ((Adjustment.ofVariables env names).apply env decoded).capture.statsIntervalSecs.toNat) :
    ∃ secs ∈ (Adjustment.ofVariables env names).statsIntervalSecs, greatestInteger < secs := by
  rcases given : (Adjustment.ofVariables env names).statsIntervalSecs with _ | secs
  · simp only [Adjustment.apply, given, Option.map_none, Option.getD_none] at long
    exact absurd long (Nat.not_lt.mpr short)
  · rw [Adjustment.interval_adjusted given] at long
    exact ⟨secs, rfl, long⟩

/-- A loaded configuration can be saved unless its interval is too long, and loading it again
expands its directories once more and changes nothing else. -/
theorem loaded_configuration_reloads {env : Environment} {tree : Files.Tree} {files : List String}
    {config : Recorder} {sources : Sources}
    (loaded : loadFiles env tree files = .ok (config, sources)) :
    (config.toText = Recorder.heading ++ Section.renderAll config.sections ↔
        config.capture.statsIntervalSecs.toNat ≤ greatestInteger) ∧
      (greatestInteger < config.capture.statsIntervalSecs.toNat →
        "CLIPREC_STATS_INTERVAL" ∈ sources.overrides ∧
          ∃ secs, (env.lookup "CLIPREC_STATS_INTERVAL").bind (parseNatural UInt64.size) =
            some secs ∧ greatestInteger < secs) ∧
      (config.capture.statsIntervalSecs.toNat ≤ greatestInteger →
        ofText env config.toText = .ok { config with paths := config.paths.expanded env } ∧
          (ofText env config.toText = .ok config ↔ config.paths.Settled env)) := by
  obtain ⟨tables, decoded, read, valid, adjusted, -⟩ := loaded_adjusts loaded
  refine ⟨Recorder.rendered_iff, ?_, ?_⟩
  · intro long
    have short := of_table_interval (merge_all_document (documents_loaded read)) valid
    obtain ⟨secs, given, above⟩ := long_interval_given short (adjusted ▸ long)
    obtain ⟨named, parsed⟩ := Adjustment.given_binds.mp given
    exact ⟨named, secs, parsed, above⟩
  · intro short
    obtain ⟨-, decoded_width, decoded_height⟩ := of_table_validated.mp valid
    have width : config.capture.recordWidth ≠ 0 := adjusted ▸ decoded_width
    have height : config.capture.recordHeight ≠ 0 := adjusted ▸ decoded_height
    have again : ofText env config.toText = _ := Recorder.of_text_expanded width height short
    refine ⟨again, ?_⟩
    rw [again, ← Paths.expanded_iff, Except.ok.injEq]
    constructor
    · intro same
      exact congrArg Recorder.paths same
    · intro same
      rw [same]

theorem loaded_configuration_reloads_kennel :
    loadFiles nightShift (oneFile kennelText) ["cliprec.toml"] =
        .ok (kennel, ⟨["cliprec.toml"],
          ["CLIPREC_RECORD_DIR", "CLIPREC_FPS_LIMIT", "CLIPREC_LOG_LEVEL", "RUST_LOG"]⟩) ∧
      ofText nightShift kennel.toText = .ok kennel := by
  obtain ⟨-, -, reloads⟩ := loaded_configuration_reloads kennel_loaded
  obtain ⟨-, same⟩ := reloads (by decide)
  exact ⟨kennel_loaded, same.mpr ⟨rfl, rfl, rfl, rfl⟩⟩

def longInterval : Environment where
  lookup
    | "HOME" => some "/home"
    | "CLIPREC_STATS_INTERVAL" => some "9223372036854775808"
    | _ => none
  accountHome := none

def chained : Environment where
  lookup
    | "HOME" => some "/home"
    | "CLIPREC_RECORD_DIR" => some "$LIVE"
    | "LIVE" => some "$DISK/live"
    | "DISK" => some "/disk"
    | _ => none
  accountHome := none

def longIntervalRecorder : Recorder where
  paths := Paths.default longInterval
  capture := { statsIntervalSecs := 9223372036854775808 }

def chainedRecorder : Recorder where
  paths := { Paths.default chained with recordDir := "$DISK/live" }

/-- One loaded configuration is not rendered, and another one is not the same after it has been
saved and loaded again. -/
theorem loaded_configuration_lost :
    loadFiles longInterval ⟨[], [], []⟩ [] =
        .ok (longIntervalRecorder, ⟨[], ["CLIPREC_STATS_INTERVAL"]⟩) ∧
      longIntervalRecorder.toText ≠
        Recorder.heading ++ Section.renderAll longIntervalRecorder.sections ∧
      loadFiles chained ⟨[], [], []⟩ [] = .ok (chainedRecorder, ⟨[], ["CLIPREC_RECORD_DIR"]⟩) ∧
      ofText chained chainedRecorder.toText ≠ .ok chainedRecorder := by
  refine ⟨rfl, ?_, rfl, ?_⟩
  · intro rendered
    exact absurd (Recorder.rendered_iff.mp rendered) (by decide)
  · have again : ofText chained chainedRecorder.toText = _ :=
      Recorder.of_text_expanded (by decide) (by decide) (by decide)
    rw [again]
    intro same
    have moved := congrArg (fun config : Recorder => config.paths.recordDir) (Except.ok.inj same)
    exact absurd moved (by decide)

end Footage.Config
