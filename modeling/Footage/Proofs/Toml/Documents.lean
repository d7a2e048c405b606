import Footage.Proofs.Document.Merging
import Footage.Proofs.Toml.Closure

/-!
# What documents have in common

The tables of a document have ascending keys and its integers fit into sixty-four bits. Merging
documents gives a document.
-/

namespace Footage.Document

open Footage.Toml

set_option autoImplicit false

inductive Value.Fits : Value → Prop where
  | null : Fits .null
  | boolean (value : Bool) : Fits (.boolean value)
  | integer {value : Int} (low : -9223372036854775808 ≤ value)
      (high : value ≤ 9223372036854775807) : Fits (.integer value)
  | double (value : Number.Double) : Fits (.double value)
  | text (value : String) : Fits (.text value)
  | moment (value : Moment) : Fits (.moment value)
  | list {items : List Value} (inner : ∀ item ∈ items, Fits item) : Fits (.list items)
  | table {entries : Table} (inner : ∀ entry ∈ entries, Fits entry.2) : Fits (.table entries)

theorem Value.Fits.inner {entries : Table} (fits : (Value.table entries).Fits) :
    ∀ entry ∈ entries, entry.2.Fits := by
  cases fits with
  | table inner => exact inner

theorem overlaid_fits {value : Value} (fits : value.Fits) {existing : Option Value}
    (before : ∀ old ∈ existing, old.Fits) : (Value.overlaid existing value).Fits := by
  induction fits generalizing existing with
  | null => exact .null
  | boolean value => exact .boolean value
  | integer low high => exact .integer low high
  | double value => exact .double value
  | text value => exact .text value
  | moment value => exact .moment value
  | list inner _ => exact .list inner
  | @table entries inner ih =>
      cases existing with
      | none => exact .table inner
      | some old =>
          cases old with
          | table base =>
              have base_fits := before (.table base) rfl
              apply Value.Fits.table
              apply merge_preserves base_fits.inner
              intro entry member existing earlier
              exact ih entry member earlier
          | _ => exact .table inner

structure IsDocument (table : Table) : Prop where
  sorted : (Value.table table).Sorted
  fits : (Value.table table).Fits

theorem sorted_spelled : Spelled Value.Sorted where
  boolean _ := .plain fun _ same => nomatch same
  integer _ _ _ := .plain fun _ same => nomatch same
  double _ := .plain fun _ same => nomatch same
  text _ := .plain fun _ same => nomatch same
  moment _ := .plain fun _ same => nomatch same
  list _ _ := .plain fun _ same => nomatch same
  table entries inner := by
    apply Value.Sorted.table (Entries.sorted_ordered entries)
    intro entry member
    exact inner entry (Entries.mem_sorted member)

theorem fits_spelled : Spelled Value.Fits where
  boolean := .boolean
  integer _ low high := .integer low high
  double := .double
  text := .text
  moment := .moment
  list _ inner := .list inner
  table entries inner := by
    apply Value.Fits.table
    intro entry member
    exact inner entry (Entries.mem_sorted member)

theorem read_document {text : String} {table : Table} (read : read? text = some table) :
    IsDocument table :=
  ⟨read_holds sorted_spelled read, read_holds fits_spelled read⟩

theorem empty_document : IsDocument [] where
  sorted := .table List.Pairwise.nil fun _ member => nomatch member
  fits := .table fun _ member => nomatch member

theorem merge_document {base overlay : Table} (before : IsDocument base)
    (incoming : IsDocument overlay) : IsDocument (base.merge overlay) where
  sorted := merge_sorted before.sorted incoming.sorted
  fits := by
    have both : (Value.overlaid (some (.table base)) (.table overlay)).Fits := by
      apply overlaid_fits incoming.fits
      intro old found
      cases found
      exact before.fits
    exact both

theorem merge_all_document {documents : List Table}
    (each : ∀ table ∈ documents, IsDocument table) : IsDocument (Table.mergeAll documents) := by
  suffices folded : ∀ base, IsDocument base → IsDocument (documents.foldl Table.merge base) from
    folded [] empty_document
  induction documents with
  | nil => exact fun _ before => before
  | cons table documents ih =>
      rw [List.forall_mem_cons] at each
      intro base before
      exact ih each.2 _ (merge_document before each.1)

end Footage.Document
