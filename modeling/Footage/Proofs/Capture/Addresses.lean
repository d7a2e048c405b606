import Mathlib.Data.List.Infix
import Mathlib.Data.List.TakeWhile
import Footage.Capture.Uri

/-!
# The parts of a URI

A URI comes apart in one way only: the scheme ends at the first mark, and the authority goes from
there as far as it can. Two URIs whose schemes differ in case alone are alike.
-/

namespace Footage.Capture.Uri

open Footage.Text

set_option autoImplicit false

variable {uri : List Char} {parts other : Parts}

structure Parts.Of (parts : Parts) (uri : List Char) : Prop where
  text : uri = parts.join
  scheme : ¬schemeMark <:+: parts.scheme
  authority : ∀ char ∈ parts.authority, endsAuthority char = false
  rest : ∀ char ∈ parts.rest.head?, endsAuthority char = true

theorem scheme_mark_unbordered : Unbordered schemeMark := by
  have apart : ∀ tail ∈ schemeMark.tails, tail <+: schemeMark → tail = [] ∨ tail = schemeMark := by
    decide
  exact fun tail ends => apart tail ((List.mem_tails _ _).mpr ends)

theorem authority_cut {authority rest : List Char}
    (whole : ∀ char ∈ authority, endsAuthority char = false)
    (apart : ∀ char ∈ rest.head?, endsAuthority char = true) :
    (authority ++ rest).takeWhile (fun char => !endsAuthority char) = authority ∧
      (authority ++ rest).dropWhile (fun char => !endsAuthority char) = rest := by
  have inside : ∀ char ∈ authority, (!endsAuthority char) = true := by
    intro char member
    rw [whole char member]
    rfl
  rw [List.takeWhile_append_of_pos inside, List.dropWhile_append_of_pos inside]
  cases rest with
  | nil => simp
  | cons char rest => simp [apart char rfl]

theorem split_eq_some : split? uri = some parts ↔ parts.Of uri := by
  unfold split?
  rw [Option.map_eq_some_iff]
  constructor
  · rintro ⟨⟨scheme, behind⟩, cut, rfl⟩
    obtain ⟨joined, absent⟩ := cut_word_eq_some (by decide) cut
    refine ⟨?_, absent, ?_, ?_⟩
    · rw [joined, Parts.join, List.append_assoc _ _ (List.dropWhile _ _),
        List.takeWhile_append_dropWhile]
    · intro char member
      simpa using List.mem_takeWhile_imp member
    · intro char member
      have ended := List.head?_dropWhile_not (fun char => !endsAuthority char) behind
      rw [Option.mem_def.mp member] at ended
      simpa using ended
  · intro of
    obtain ⟨authority, rest⟩ := authority_cut of.authority of.rest
    refine ⟨(parts.scheme, parts.authority ++ parts.rest), ?_, ?_⟩
    · rw [of.text, Parts.join, List.append_assoc _ parts.authority]
      exact cut_word_word scheme_mark_unbordered (by decide) of.scheme _
    · simp only [authority, rest]

theorem Parts.Of.unique (of : parts.Of uri) (also : other.Of uri) : parts = other :=
  Option.some.inj ((split_eq_some.mpr of).symm.trans (split_eq_some.mpr also))

theorem Parts.Of.replace (of : parts.Of uri) {scheme authority : List Char}
    (unmarked : ¬schemeMark <:+: scheme)
    (whole : ∀ char ∈ authority, endsAuthority char = false) :
    (⟨scheme, authority, parts.rest⟩ : Parts).Of (Parts.join ⟨scheme, authority, parts.rest⟩) where
  text := rfl
  scheme := unmarked
  authority := whole
  rest := of.rest

/-- The URIs are the same up to the case of their schemes. -/
def Alike (first second : String) : Prop :=
  first = second ∨ ∃ parts other : Parts, parts.Of first.toList ∧ other.Of second.toList ∧
    lowerScheme parts.scheme = lowerScheme other.scheme ∧
    parts.authority = other.authority ∧ parts.rest = other.rest

namespace Alike

variable {first second third : String}

theorem symm (alike : Alike first second) : Alike second first := by
  rcases alike with rfl | ⟨parts, other, of, also, scheme, authority, rest⟩
  · exact .inl rfl
  · exact .inr ⟨other, parts, also, of, scheme.symm, authority.symm, rest.symm⟩

theorem trans (one : Alike first second) (two : Alike second third) : Alike first third := by
  rcases one with rfl | ⟨parts, other, of, also, scheme, authority, rest⟩
  · exact two
  rcases two with rfl | ⟨middle, last, again, ends, scheme', authority', rest'⟩
  · exact .inr ⟨parts, other, of, also, scheme, authority, rest⟩
  · obtain rfl := also.unique again
    exact .inr ⟨parts, last, of, ends, scheme.trans scheme', authority.trans authority',
      rest.trans rest'⟩

end Alike

end Footage.Capture.Uri
