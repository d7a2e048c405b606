import Footage.Text.Lowercase

/-!
# What lower case keeps

No partner of a capital is a capital again, so lower case of lower case changes nothing. Slashes
and dots are nobody's partner and have none: they stay, and no others appear. A slash also ends
the context of a sigma, so text is lowered piece by piece between slashes.
-/

namespace Footage.Text

open Footage.Text.CaseTable

set_option autoImplicit false

namespace CaseTable

/-- No partner of the first run lies in the second: their spans are apart, or the second holds
every second code point and none of the partners is one of those. -/
def CapitalRun.avoids (run other : CapitalRun) : Bool :=
  other.last.blt run.partner || (run.partner + (run.last - run.first)).blt other.first ||
    ((run.stride.beq 2 || run.first.beq run.last) && other.stride.beq 2 &&
      ((run.partner + other.first) % 2).beq 1)

def CapitalRun.single (code : Nat) : CapitalRun := ⟨code, code, 1, code⟩

/-- The capitals, the two special ones among them, and the marks of paths. -/
def reservedRuns : List CapitalRun :=
  capitalRuns ++ [.single 0x03A3, .single 0x0130, .single 0x002F, .single 0x002E]

theorem partners_avoid_reserved :
    (capitalRuns.all fun run => reservedRuns.all run.avoids) = true := by
  decide +kernel

theorem partners_valid :
    ∀ run ∈ capitalRuns, (run.partner + (run.last - run.first)).isValidChar ∧
      (run.partner + (run.last - run.first) < 0xD800 ∨ 0xDFFF < run.partner) := by
  decide +kernel

theorem CapitalRun.avoids_not_holds {run other : CapitalRun} {code : Nat}
    (avoids : run.avoids other = true) (holds : run.holds code = true) :
    other.holds (run.partner + (code - run.first)) = false := by
  simp only [CapitalRun.holds, Bool.and_eq_true, decide_eq_true_eq, beq_iff_eq] at holds
  obtain ⟨⟨lower, upper⟩, step⟩ := holds
  rw [Bool.eq_false_iff]
  intro held
  simp only [CapitalRun.holds, Bool.and_eq_true, decide_eq_true_eq, beq_iff_eq] at held
  obtain ⟨⟨otherLower, otherUpper⟩, otherStep⟩ := held
  simp only [CapitalRun.avoids, Bool.or_eq_true, Bool.and_eq_true, Nat.blt_eq,
    Nat.beq_eq] at avoids
  rcases avoids with (below | above) | ⟨⟨stride | alone, otherStride⟩, parity⟩
  · omega
  · omega
  · rw [stride] at step
    rw [otherStride] at otherStep
    omega
  · rw [otherStride] at otherStep
    omega

end CaseTable

theorem to_nat_of_nat {code : Nat} (valid : code.isValidChar) :
    (Char.ofNat code).toNat = code := by
  rw [Char.ofNat, dif_pos valid]
  rfl

/-- Lower case leaves the character alone wherever it stands. -/
def IsSmall (char : Char) : Prop := char ≠ 'Σ' ∧ char ≠ 'İ' ∧ partner char = char

theorem partner_cases (char : Char) :
    partner char = char ∧ (∀ run ∈ capitalRuns, run.holds char.toNat = false) ∨
      ∃ run ∈ capitalRuns, run.holds char.toNat = true ∧
        (partner char).toNat = run.partner + (char.toNat - run.first) := by
  simp only [partner]
  cases found : capitalRuns.find? fun run => run.holds char.toNat with
  | none =>
      left
      simpa using found
  | some run =>
      right
      have member := List.mem_of_find?_eq_some found
      have holds := List.find?_some found
      refine ⟨run, member, holds, ?_⟩
      obtain ⟨last, side⟩ := partners_valid run member
      simp only [CapitalRun.holds, Bool.and_eq_true, decide_eq_true_eq] at holds
      apply to_nat_of_nat
      simp only [Nat.isValidChar] at last ⊢
      omega

theorem partner_not_reserved {char : Char} {other : CapitalRun} (reserved : other ∈ reservedRuns)
    (changes : partner char ≠ char) : other.holds (partner char).toNat = false := by
  rcases partner_cases char with ⟨same, -⟩ | ⟨run, member, holds, code⟩
  · exact absurd same changes
  · have avoids := List.all_eq_true.mp partners_avoid_reserved run member
    rw [code]
    exact CapitalRun.avoids_not_holds (List.all_eq_true.mp avoids other reserved) holds

theorem partner_partner (char : Char) : partner (partner char) = partner char := by
  by_cases changes : partner char = char
  · rw [changes, changes]
  · rcases partner_cases (partner char) with ⟨same, -⟩ | ⟨run, member, holds, -⟩
    · exact same
    · have free := partner_not_reserved (List.mem_append_left _ member) changes
      exact absurd holds (by simp [free])

theorem partner_eq_reserved {char mark : Char}
    (reserved : CapitalRun.single mark.toNat ∈ reservedRuns) (partnered : partner char = mark) :
    char = mark := by
  by_cases changes : partner char = char
  · exact changes.symm.trans partnered
  · have free := partner_not_reserved reserved changes
    rw [partnered] at free
    simp [CapitalRun.holds, CapitalRun.single] at free

theorem partner_small {char : Char} (notSigma : char ≠ 'Σ') (notDotted : char ≠ 'İ') :
    IsSmall (partner char) := by
  refine ⟨?_, ?_, partner_partner char⟩
  · intro sigma
    exact notSigma (partner_eq_reserved (by decide) sigma)
  · intro dotted
    exact notDotted (partner_eq_reserved (by decide) dotted)

def lowered (before : List Char) (char : Char) (rest : List Char) : List Char :=
  if char = 'Σ' then [sigmaAt before rest]
  else if char = 'İ' then ['i', '\u0307']
  else [partner char]

theorem lower_after_cons (before : List Char) (char : Char) (rest : List Char) :
    lowerAfter before (char :: rest) =
      lowered before char rest ++ lowerAfter (char :: before) rest := rfl

theorem lowered_ne_nil (before rest : List Char) (char : Char) : lowered before char rest ≠ [] := by
  simp only [lowered]
  split
  · simp
  · split <;> simp

/-- What a character becomes is one of the characters for the special capitals, or its partner. -/
theorem mem_lowered {before rest : List Char} {char small : Char}
    (member : small ∈ lowered before char rest) :
    small ∈ ['ς', 'σ', 'i', '\u0307'] ∨ char ≠ 'Σ' ∧ char ≠ 'İ' ∧ small = partner char := by
  simp only [lowered, sigmaAt] at member
  split at member
  case isTrue sigma => split at member <;> simp_all
  case isFalse notSigma =>
    split at member
    case isTrue dotted => simp_all
    case isFalse notDotted => exact .inr ⟨notSigma, notDotted, List.mem_singleton.mp member⟩

theorem specials_small : ∀ char ∈ ['ς', 'σ', 'i', '\u0307'], IsSmall char := by
  have kept : partner 'ς' = 'ς' ∧ partner 'σ' = 'σ' ∧ partner 'i' = 'i' ∧
      partner '\u0307' = '\u0307' := by decide +kernel
  obtain ⟨final, plain, letter, dot⟩ := kept
  intro char special
  simp only [List.mem_cons, List.not_mem_nil, or_false] at special
  rcases special with rfl | rfl | rfl | rfl
  · exact ⟨by decide, by decide, final⟩
  · exact ⟨by decide, by decide, plain⟩
  · exact ⟨by decide, by decide, letter⟩
  · exact ⟨by decide, by decide, dot⟩

theorem lower_after_small (before text : List Char) :
    ∀ char ∈ lowerAfter before text, IsSmall char := by
  induction text generalizing before with
  | nil => simp [lowerAfter]
  | cons char rest ih =>
      intro small member
      rw [lower_after_cons, List.mem_append] at member
      rcases member with here | later
      · rcases mem_lowered here with special | ⟨notSigma, notDotted, rfl⟩
        · exact specials_small small special
        · exact partner_small notSigma notDotted
      · exact ih _ small later

theorem lower_after_of_small (before text : List Char)
    (small : ∀ char ∈ text, IsSmall char) : lowerAfter before text = text := by
  induction text generalizing before with
  | nil => rfl
  | cons char rest ih =>
      rw [List.forall_mem_cons] at small
      obtain ⟨notSigma, notDotted, same⟩ := small.1
      simp only [lowerAfter, notSigma, notDotted, if_false, same, ih _ small.2,
        List.singleton_append]

theorem lower_lower (text : String) : lower (lower text) = lower text := by
  simp only [lower, lowerChars, String.toList_ofList]
  rw [lower_after_of_small _ _ (lower_after_small [] text.toList)]

section Slashes

theorem meets_cased_slash (near far : List Char) :
    meetsCased (near ++ '/' :: far) = meetsCased near := by
  induction near with
  | nil =>
      have opaqueSlash : isTransparent '/' = false := by decide +kernel
      have uncased : isCased '/' = false := by decide +kernel
      simp [meetsCased, opaqueSlash, uncased]
  | cons char rest ih =>
      simp only [meetsCased, List.cons_append, List.dropWhile_cons] at ih ⊢
      by_cases through : isTransparent char = true
      · simpa only [through, if_true] using ih
      · simp only [through, Bool.false_eq_true, if_false]

theorem lower_after_behind (before far text : List Char) :
    lowerAfter (before ++ '/' :: far) text = lowerAfter before text := by
  induction text generalizing before with
  | nil => rfl
  | cons char rest ih =>
      have tail := ih (char :: before)
      rw [List.cons_append] at tail
      simp only [lowerAfter, sigmaAt, meets_cased_slash, tail]

theorem lower_after_slash (before text later : List Char) :
    lowerAfter before (text ++ '/' :: later) =
      lowerAfter before text ++ '/' :: lowerChars later := by
  induction text generalizing before with
  | nil =>
      have same : partner '/' = '/' := by decide +kernel
      have behind := lower_after_behind [] before later
      rw [List.nil_append] at behind
      simp [lowerAfter, lowerChars, same, behind]
  | cons char rest ih =>
      simp only [lowerAfter, List.cons_append, sigmaAt, meets_cased_slash, ih, List.append_assoc]

theorem lower_slash (text later : String) :
    lower (text ++ "/" ++ later) = lower text ++ "/" ++ lower later := by
  have slash : "/".toList = ['/'] := by decide
  apply String.toList_injective
  simp only [lower, String.toList_append, String.toList_ofList, slash, List.append_assoc,
    List.singleton_append]
  exact lower_after_slash [] text.toList later.toList

end Slashes

section Marks

variable {mark : Char} (path : mark = '/' ∨ mark = '.')

include path

theorem mark_reserved : CapitalRun.single mark.toNat ∈ reservedRuns := by
  rcases path with rfl | rfl <;> decide

theorem mark_small : IsSmall mark := by
  unfold IsSmall
  rcases path with rfl | rfl <;> decide +kernel

theorem mark_mem_lowered (before rest : List Char) (char : Char) :
    mark ∈ lowered before char rest ↔ char = mark := by
  constructor
  · intro member
    rcases mem_lowered member with special | ⟨-, -, partnered⟩
    · rcases path with rfl | rfl <;> exact absurd special (by decide)
    · exact partner_eq_reserved (mark_reserved path) partnered.symm
  · rintro rfl
    obtain ⟨notSigma, notDotted, same⟩ := mark_small path
    simp [lowered, notSigma, notDotted, same]

theorem mark_mem_lower_after (before text : List Char) :
    mark ∈ lowerAfter before text ↔ mark ∈ text := by
  induction text generalizing before with
  | nil => rfl
  | cons char rest ih =>
      rw [lower_after_cons, List.mem_append, List.mem_cons, ih, mark_mem_lowered path,
        eq_comm]

theorem lower_after_marks (before text : List Char)
    (marks : ∀ char ∈ lowerAfter before text, char = mark) : ∀ char ∈ text, char = mark := by
  induction text generalizing before with
  | nil => simp
  | cons char rest ih =>
      rw [lower_after_cons] at marks
      have head : mark ∈ lowered before char rest := by
        obtain ⟨first, others, made⟩ := List.exists_cons_of_ne_nil (lowered_ne_nil before rest char)
        have same := marks first (by simp [made])
        simp [made, same]
      rw [List.forall_mem_cons]
      refine ⟨(mark_mem_lowered path before rest char).mp head, ?_⟩
      apply ih (char :: before)
      intro small member
      exact marks small (List.mem_append_right _ member)

theorem mark_mem_lower (text : String) : mark ∈ (lower text).toList ↔ mark ∈ text.toList := by
  simp only [lower, lowerChars, String.toList_ofList]
  exact mark_mem_lower_after path [] text.toList

theorem lower_eq_marks {text : String} (count : Nat)
    (marks : lower text = String.ofList (List.replicate count mark)) : text = lower text := by
  have only : ∀ char ∈ text.toList, char = mark := by
    apply lower_after_marks path []
    intro char member
    have lowered : lowerAfter [] text.toList = List.replicate count mark :=
      String.ofList_injective marks
    rw [lowered] at member
    exact List.eq_of_mem_replicate member
  have same := lower_after_of_small [] text.toList
    (fun char member => only char member ▸ mark_small path)
  rw [lower, lowerChars, same, String.ofList_toList]

end Marks

theorem lower_eq_empty {text : String} : lower text = "" ↔ text = "" := by
  constructor
  · intro empty
    have nothing : lowerAfter [] text.toList = [] := String.ofList_injective empty
    apply String.toList_injective
    cases chars : text.toList with
    | nil => rfl
    | cons char rest =>
        rw [chars, lower_after_cons, List.append_eq_nil_iff] at nothing
        exact absurd nothing.1 (lowered_ne_nil [] rest char)
  · rintro rfl
    rfl

end Footage.Text
