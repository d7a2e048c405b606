import Footage.Config.Render
import Footage.Proofs.Config.Adjusting
import Footage.Proofs.Config.Sections
import Footage.Proofs.Toml.Documents

/-!
# The environment as one more document

An adjustment can be written as a table that binds its values and nothing else. Merging that table
into a document and reading the result gives what adjusting the configuration of the document
gives, for a look-up in a merged section finds the new value where there is one and the old one
otherwise.
-/

namespace Footage.Config

open Footage.Document Footage.Number Footage.Place

set_option autoImplicit false

section Bound

variable {items : List (String × Option Value)}

def bound (items : List (String × Option Value)) : Table :=
  items.filterMap fun item => item.2.map fun value => (item.1, value)

theorem mem_bound {entry : String × Value} :
    entry ∈ bound items ↔ (entry.1, some entry.2) ∈ items := by
  simp only [bound, List.mem_filterMap, Option.map_eq_some_iff]
  constructor
  · rintro ⟨⟨key, given⟩, member, value, same, rfl⟩
    exact same ▸ member
  · intro member
    exact ⟨_, member, entry.2, rfl, rfl⟩

theorem keys_bound_sublist (items : List (String × Option Value)) :
    (Entries.keys (bound items)).Sublist (items.map Prod.fst) := by
  induction items with
  | nil => exact List.Sublist.slnil
  | cons item items ih =>
      obtain ⟨key, given⟩ := item
      cases given with
      | none => exact ih.cons key
      | some value => exact ih.cons_cons key

theorem bound_ordered (ascending : (items.map Prod.fst).Pairwise (· < ·)) :
    Entries.Ordered (bound items) :=
  List.Pairwise.sublist (keys_bound_sublist items) ascending

theorem find?_bound (distinct : (items.map Prod.fst).Nodup) (key : String) :
    Entries.find? key (bound items) = (Entries.find? key items).join := by
  induction items with
  | nil => rfl
  | cons item items ih =>
      obtain ⟨name, given⟩ := item
      obtain ⟨free, later⟩ := List.nodup_cons.mp distinct
      cases given with
      | none =>
          have skipped : bound ((name, none) :: items) = bound items := rfl
          by_cases same : name = key
          · subst same
            have absent : Entries.find? name (bound items) = none := by
              apply (Entries.find?_eq_none _ _).mpr
              exact fun member => free ((keys_bound_sublist items).subset member)
            simp [skipped, absent, Entries.find?]
          · simp [skipped, Entries.find?, same, ih later]
      | some value =>
          have kept : bound ((name, some value) :: items) = (name, value) :: bound items := rfl
          by_cases same : name = key
          · subst same
            simp [kept, Entries.find?]
          · simp [kept, Entries.find?, same, ih later]

end Bound

def sectionValue (entries : Table) : Option Value :=
  if entries.isEmpty then none else some (.table entries)

theorem section_value_table {entries : Table} {value : Value}
    (made : sectionValue entries = some value) : value = .table entries := by
  cases entries with
  | nil => cases made
  | cons entry entries =>
      cases made
      rfl

theorem section_value_long {entries : Table} (long : entries ≠ []) :
    sectionValue entries = some (.table entries) := by
  cases entries with
  | nil => exact absurd rfl long
  | cons entry entries => rfl

namespace Adjustment

variable (adjustment : Adjustment)

def captureItems : List (String × Option Value) :=
  [("fps_limit", adjustment.fpsLimit.map fun limit : Nat => .integer limit),
    ("hw_accel_device", adjustment.hwAccelDevice.map .text),
    ("record_in_memory", adjustment.recordInMemory.map .boolean),
    ("stats_interval_secs", adjustment.statsIntervalSecs.map fun secs : Nat => .integer secs)]

def pathItems : List (String × Option Value) :=
  [("config_dir", adjustment.configDir.map .text), ("index_path", adjustment.indexPath.map .text),
    ("record_dir", adjustment.recordDir.map .text),
    ("storage_dir", adjustment.storageDir.map .text)]

def telemetryItems : List (String × Option Value) :=
  [("log_level", adjustment.logLevel.map .text)]

def sections : List (String × List (String × Option Value)) :=
  [("capture", adjustment.captureItems), ("paths", adjustment.pathItems),
    ("telemetry", adjustment.telemetryItems)]

def sectionItems : Entries (Option Value) :=
  adjustment.sections.map fun part => (part.1, sectionValue (bound part.2))

def table : Table := bound adjustment.sectionItems

theorem capture_part : ("capture", adjustment.captureItems) ∈ adjustment.sections := by
  simp [sections]

theorem paths_part : ("paths", adjustment.pathItems) ∈ adjustment.sections := by
  simp [sections]

theorem telemetry_part : ("telemetry", adjustment.telemetryItems) ∈ adjustment.sections := by
  simp [sections]

variable {adjustment} {name key : String} {items : List (String × Option Value)} {value : Value}

theorem sections_ascending : adjustment.sectionItems.Ordered := by
  simp only [Entries.Ordered, Entries.keys, sectionItems, sections, List.map_cons, List.map_nil]
  decide

theorem items_ascending (part : (name, items) ∈ adjustment.sections) :
    (items.map Prod.fst).Pairwise (· < ·) := by
  simp only [sections, List.mem_cons, List.not_mem_nil, or_false, Prod.mk.injEq] at part
  rcases part with ⟨-, rfl⟩ | ⟨-, rfl⟩ | ⟨-, rfl⟩
  · simp only [captureItems, List.map_cons, List.map_nil]
    decide
  · simp only [pathItems, List.map_cons, List.map_nil]
    decide
  · exact List.pairwise_singleton _ _

theorem items_distinct (part : (name, items) ∈ adjustment.sections) :
    (items.map Prod.fst).Nodup := by
  apply List.Pairwise.imp _ (items_ascending part)
  intro left right below same
  exact String.lt_irrefl right (same ▸ below)

theorem map_holds {α : Type} {holds : Value → Prop} {given : Option α} {make : α → Value}
    (each : ∀ new ∈ given, holds (make new)) :
    ∀ value, given.map make = some value → holds value := by
  intro value made
  obtain ⟨new, set, rfl⟩ := Option.map_eq_some_iff.mp made
  exact each new set

theorem items_hold {holds : Value → Prop} (text : ∀ text, holds (.text text))
    (boolean : ∀ value, holds (.boolean value))
    (limit : ∀ number ∈ adjustment.fpsLimit, holds (.integer number))
    (interval : ∀ secs ∈ adjustment.statsIntervalSecs, holds (.integer secs))
    (part : (name, items) ∈ adjustment.sections) :
    ∀ item ∈ items, ∀ value, item.2 = some value → holds value := by
  have texts (given : Option String) : ∀ value, given.map .text = some value → holds value :=
    map_holds fun new _ => text new
  simp only [sections, List.mem_cons, List.not_mem_nil, or_false, Prod.mk.injEq] at part
  rcases part with ⟨-, rfl⟩ | ⟨-, rfl⟩ | ⟨-, rfl⟩
  · simp only [captureItems, List.forall_mem_cons]
    exact ⟨map_holds limit, texts _, map_holds fun new _ => boolean new, map_holds interval,
      fun _ member => nomatch member⟩
  · simp only [pathItems, List.forall_mem_cons]
    exact ⟨texts _, texts _, texts _, texts _, fun _ member => nomatch member⟩
  · simp only [telemetryItems, List.forall_mem_cons]
    exact ⟨texts _, fun _ member => nomatch member⟩

theorem items_plain (part : (name, items) ∈ adjustment.sections) :
    ∀ item ∈ items, ∀ value, item.2 = some value → value.isTable = false :=
  items_hold (fun _ => rfl) (fun _ => rfl) (fun _ _ => rfl) (fun _ _ => rfl) part

theorem find?_table (part : (name, items) ∈ adjustment.sections) :
    Entries.find? name adjustment.table = sectionValue (bound items) := by
  have distinct : (Entries.keys adjustment.sectionItems).Nodup := sections_ascending.distinct
  have member : (name, sectionValue (bound items)) ∈ adjustment.sectionItems :=
    List.mem_map_of_mem part
  rw [table, find?_bound distinct, Entries.find?_of_mem distinct member, Option.join_some]

theorem section_known (member : (name, value) ∈ adjustment.table) :
    ∃ items, (name, items) ∈ adjustment.sections ∧ value = .table (bound items) := by
  obtain ⟨⟨_, items⟩, part, same⟩ := List.mem_map.mp (mem_bound.mp member)
  obtain ⟨rfl, made⟩ := Prod.mk.inj same
  exact ⟨items, part, section_value_table made⟩

theorem table_sectioned : Sectioned adjustment.table := by
  intro name _ value found
  obtain ⟨items, -, rfl⟩ := section_known (Entries.mem_of_find? found)
  rfl

theorem table_binds : (Value.table adjustment.table).at? [name, key] = some value ↔
    ∃ items, (name, items) ∈ adjustment.sections ∧ (key, some value) ∈ items := by
  constructor
  · intro bound_at
    obtain ⟨_, found, below⟩ := Option.bind_eq_some_iff.mp bound_at
    obtain ⟨items, part, rfl⟩ := section_known (Entries.mem_of_find? found)
    obtain ⟨_, inner, same⟩ := Option.bind_eq_some_iff.mp below
    cases same
    exact ⟨items, part, mem_bound.mp (Entries.mem_of_find? inner)⟩
  · rintro ⟨items, part, member⟩
    have inner : (key, value) ∈ bound items := mem_bound.mpr member
    have long := section_value_long (List.ne_nil_of_mem inner)
    have distinct := (bound_ordered (items_ascending part)).distinct
    simp only [Value.at?, find?_table part, long, Option.bind_some,
      Entries.find?_of_mem distinct inner]

theorem table_sorted : (Value.table adjustment.table).Sorted := by
  apply Value.Sorted.table (bound_ordered sections_ascending)
  intro entry member
  obtain ⟨items, part, same⟩ := section_known member
  rw [same]
  apply Value.Sorted.table (bound_ordered (items_ascending part))
  intro inner bound_in
  have plain := items_plain part _ (mem_bound.mp bound_in) inner.2 rfl
  exact .plain fun entries table => absurd (table ▸ plain) (by simp [Value.isTable])

theorem table_fits (limit : ∀ number ∈ adjustment.fpsLimit, number ≤ greatestInteger)
    (interval : ∀ secs ∈ adjustment.statsIntervalSecs, secs ≤ greatestInteger) :
    (Value.table adjustment.table).Fits := by
  have number_fits {number : Nat} (small : number ≤ greatestInteger) :
      (Value.integer number).Fits := by
    simp only [greatestInteger] at small
    exact .integer (by omega) (by omega)
  apply Value.Fits.table
  intro entry member
  obtain ⟨items, part, same⟩ := section_known member
  rw [same]
  apply Value.Fits.table
  intro inner bound_in
  exact items_hold .text .boolean (fun number given => number_fits (limit number given))
    (fun secs given => number_fits (interval secs given)) part _ (mem_bound.mp bound_in) inner.2 rfl

end Adjustment

theorem merge_sectioned {base overlay : Table} (distinct : (Entries.keys overlay).Nodup)
    (below : Sectioned base) (above : Sectioned overlay) : Sectioned (base.merge overlay) := by
  intro name known value found
  rw [find?_merge distinct] at found
  rcases upper : Entries.find? name overlay with _ | incoming
  · rw [upper] at found
    exact below name known value found
  · rw [upper] at found
    cases found
    have shape := above name known incoming upper
    cases incoming with
    | table entries =>
        rcases base_bound : Entries.find? name base with _ | old
        · rfl
        · cases old <;> rfl
    | _ => cases shape

section Merged

variable {base : Table} {adjustment : Adjustment} {name : String}
  {items : List (String × Option Value)}

/-- A look-up in a merged section finds the new value where there is one. -/
theorem find?_merged (part : (name, items) ∈ adjustment.sections) (key : String) :
    Entries.find? key (sectionOf name (base.merge adjustment.table)) =
      (Entries.find? key (bound items)).or (Entries.find? key (sectionOf name base)) := by
  have distinct : (Entries.keys adjustment.table).Nodup :=
    Adjustment.table_sorted.ordered.distinct
  rw [sectionOf, find?_merge distinct, Adjustment.find?_table part]
  rcases short : bound items with _ | ⟨entry, rest⟩
  · rfl
  · have inner := (bound_ordered (Adjustment.items_ascending part)).distinct
    obtain ⟨merged, same, finds⟩ := find?_overlaid inner (Entries.find? name base)
    have long : bound items ≠ [] := by
      intro empty
      cases short.symm.trans empty
    rw [← short, section_value_long long, Option.map_some, Option.some_or, same]
    have plain (existing : Option Value) : (Entries.find? key (bound items)).map
        (Value.overlaid existing) = Entries.find? key (bound items) := by
      rcases found : Entries.find? key (bound items) with _ | value
      · rfl
      · have member := mem_bound.mp (Entries.mem_of_find? found)
        have leaf := Adjustment.items_plain part _ member value rfl
        rw [Option.map_some, Value.overlaid_plain leaf]
    exact (finds key).trans (by rw [plain]; rfl)

end Merged

end Footage.Config
