import Footage.Proofs.Toml.Quoting
import Footage.Toml.Value

/-!
# Reading a written scalar gives the scalar back

What is written behind an equals sign is a quoted text, a decimal number or a truth value, and it
ends with its line. A decimal number has no leading zero and is no moment, since neither a dash
nor a colon follows its digits.
-/

namespace Footage.Toml

open Footage.Document Footage.Number

set_option autoImplicit false

def Scalar.value : Scalar → Value
  | .text value => .text value
  | .integer value => .integer value
  | .boolean value => .boolean value

def Scalar.Fits : Scalar → Prop
  | .integer value => -9223372036854775808 ≤ value ∧ value ≤ 9223372036854775807
  | _ => True

theorem Scalar.fits_uint32 (number : UInt32) : (Scalar.integer number.toNat).Fits := by
  have bound := number.toNat_lt
  simp only [Scalar.Fits]
  omega

theorem Scalar.fits_int32 (number : Int32) : (Scalar.integer number.toInt).Fits := by
  have low := number.le_toInt
  have high := number.toInt_lt
  simp only [Scalar.Fits]
  omega

theorem digit_bounds {char : Char} (digit : char.isDigit = true) :
    48 ≤ char.toNat ∧ char.toNat ≤ 57 := by
  simp only [Char.isDigit, Bool.and_eq_true, decide_eq_true_eq] at digit
  exact digit

/-- A digit of the decimal system has the value that its place after zero gives. -/
theorem digit_value_digit {char : Char} (digit : char.isDigit = true) :
    digitValue? 10 char = some (char.toNat - 48) := by
  have bounds := digit_bounds digit
  have within : char.toNat - 48 < 10 := by omega
  simp only [Char.isDigit, Bool.and_eq_true, decide_eq_true_eq] at digit
  have first : '0' ≤ char ∧ char ≤ '9' := digit
  simp [digitValue?, Text.hexValue?, first, within]

theorem digit_ne {mark char : Char} (odd : mark.isDigit = false) (digit : char.isDigit = true) :
    char ≠ mark := by
  intro same
  rw [same, odd] at digit
  cases digit

/-- Digits are read one after the other, unless an underscore stands between them. -/
theorem digit_run_cons {base digit : Nat} {char : Char} {text : List Char}
    (value : digitValue? base char = some digit) (solid : char ≠ '_') :
    digitRun base (char :: text) =
      (digit :: (digitRun base text).1, (digitRun base text).2) := by
  simp [digitRun, solid, value]

theorem fixed_digits_rest {run rest after : List Char} {count number : Nat}
    (taken : fixedDigits? count (run ++ '\n' :: rest) = some (number, after)) :
    after = run.drop count ++ '\n' :: rest := by
  simp only [fixedDigits?] at taken
  split at taken
  · rename_i whole
    have short : count ≤ run.length := by
      apply Nat.le_of_not_lt
      intro long
      have newline : '\n' ∈ (run ++ '\n' :: rest).take count := by
        obtain ⟨more, beyond⟩ := Nat.exists_eq_add_of_lt long
        have left : count - run.length = more + 1 := by omega
        rw [List.take_append, left]
        simp
      exact absurd (List.all_eq_true.mp whole.2 _ newline) (by decide)
    rw [Option.some.injEq, Prod.mk.injEq] at taken
    rw [← taken.2, List.drop_append_of_le_length short]
  · cases taken

section Digits

variable {run rest : List Char} (digits : ∀ char ∈ run, char.isDigit = true)

include digits

/-- What follows a digit at the end of a line is a digit or the line end. -/
theorem digits_head {mark : Char} (odd : mark.isDigit = false) (inside : mark ≠ '\n')
    (more : List Char) : run ++ '\n' :: rest ≠ mark :: more := by
  intro shape
  cases run with
  | nil => exact inside (List.cons.inj shape).1.symm
  | cons char run => exact digit_ne odd (digits char List.mem_cons_self) (List.cons.inj shape).1

theorem digits_second {mark : Char} (odd : mark.isDigit = false) (inside : mark ≠ '\n')
    (more : List Char) : run ++ '\n' :: rest ≠ '0' :: mark :: more := by
  intro shape
  cases run with
  | nil => cases shape
  | cons char run =>
      rw [List.forall_mem_cons] at digits
      exact digits_head digits.2 odd inside more (List.cons.inj shape).2

theorem expect_none (mark : Char) (odd : mark.isDigit = false) (inside : mark ≠ '\n') :
    expect? mark (run ++ '\n' :: rest) = none := by
  unfold expect?
  split
  · rename_i head more shape
    have different : head ≠ mark := by
      intro same
      rw [same] at shape
      exact digits_head digits odd inside more shape
    rw [if_neg different]
  · rfl

theorem moment_digits : moment? (run ++ '\n' :: rest) = none := by
  -- A date goes on with a dash behind four digits, a time with a colon behind two.
  have others (count : Nat) : ∀ char ∈ run.drop count, char.isDigit = true :=
    fun char member => digits char (List.mem_of_mem_drop member)
  have day : day? (run ++ '\n' :: rest) = none := by
    rcases taken : fixedDigits? 4 (run ++ '\n' :: rest) with _ | ⟨year, after⟩
    · simp [day?, taken]
    · rw [fixed_digits_rest taken] at taken
      simp [day?, taken, expect_none (others 4) '-' rfl (by decide)]
  have clock : clock? .strict (run ++ '\n' :: rest) = none := by
    rcases taken : fixedDigits? 2 (run ++ '\n' :: rest) with _ | ⟨hour, after⟩
    · simp [clock?, pair?, taken]
    · rw [fixed_digits_rest taken] at taken
      have colon : expect? ':' (run.drop 2 ++ '\n' :: rest) = none :=
        expect_none (others 2) ':' rfl (by decide)
      simp only [clock?, pair?, taken, Option.bind_eq_bind, Option.bind_some]
      split
      · simp [colon]
      · rfl
  simp [moment?, day, clock]

theorem digit_run_digits :
    digitRun 10 (run ++ '\n' :: rest) =
      (run.map fun char => char.toNat - 48, '\n' :: rest) := by
  induction run with
  | nil => rfl
  | cons char run ih =>
      rw [List.forall_mem_cons] at digits
      rw [List.cons_append, digit_run_cons (digit_value_digit digits.1) (digit_ne rfl digits.1),
        ih digits.2]
      rfl

theorem special_digits (negative : Bool) : special? negative (run ++ '\n' :: rest) = none := by
  unfold special?
  split
  · rename_i shape
    exact absurd shape (digits_head digits rfl (by decide) _)
  · rename_i shape
    exact absurd shape (digits_head digits rfl (by decide) _)
  · rfl

theorem sign_digits : signAndRest (run ++ '\n' :: rest) = (false, run ++ '\n' :: rest) := by
  unfold signAndRest
  split
  · rename_i shape
    exact absurd shape (digits_head digits rfl (by decide) _)
  · rename_i shape
    exact absurd shape (digits_head digits rfl (by decide) _)
  · rfl

end Digits

theorem moment_none {mark : Char} (odd : mark.isDigit = false) (text : List Char) :
    moment? (mark :: text) = none := by
  have none_taken (count : Nat) : fixedDigits? (count + 1) (mark :: text) = none := by
    simp [fixedDigits?, odd]
  have day : day? (mark :: text) = none := by simp [day?, none_taken 3]
  have clock : clock? .strict (mark :: text) = none := by simp [clock?, pair?, none_taken 1]
  simp [moment?, day, clock]

section Numerals

variable (number : Nat) (rest : List Char)

theorem digit_chars_digits : ∀ char ∈ digitChars number, char.isDigit = true := by
  intro char member
  exact Nat.isDigit_of_mem_toDigits (by decide) (by decide) member

theorem digit_chars_zero {number : Nat} {others : List Char}
    (shape : digitChars number = '0' :: others) : number = 0 := by
  -- All digits but the last are those of a tenth of the number.
  induction number using Nat.strongRecOn generalizing others with
  | ind number ih =>
      simp only [digitChars] at shape ih
      by_cases small : number < 10
      · rw [Nat.toDigits_of_lt_base small] at shape
        exact Nat.digitChar_eq_zero.mp (List.cons.inj shape).1
      · rw [Nat.toDigits_of_base_le (by decide) (by omega)] at shape
        rcases front : Nat.toDigits 10 (number / 10) with _ | ⟨lead, more⟩
        · exact absurd front Nat.toDigits_ne_nil
        · rw [front, List.cons_append] at shape
          rw [(List.cons.inj shape).1] at front
          have none_left := ih (number / 10) (by omega) front
          omega

theorem value_of_digit_chars :
    valueOf 10 ((digitChars number).map fun char => char.toNat - 48) = number := by
  have read := Nat.ofDigitChars_ten_toDigits (n := number)
  rw [Nat.ofDigitChars_eq_foldl] at read
  simp only [valueOf, digitChars, List.foldl_map]
  exact read

theorem whole_digits_number :
    wholeDigits? (digitChars number ++ '\n' :: rest) =
      some ((digitChars number).map fun char => char.toNat - 48, '\n' :: rest) := by
  have digits := digit_chars_digits number
  rcases shape : digitChars number with _ | ⟨lead, others⟩
  · exact absurd shape Nat.toDigits_ne_nil
  · by_cases zero : lead = '0'
    · rw [zero] at shape
      have none_left := digit_chars_zero shape
      subst none_left
      have alone : '0' :: others = ['0'] := shape.symm.trans (Nat.toDigits_zero 10)
      rw [zero, alone]
      rfl
    · rw [shape, List.forall_mem_cons] at digits
      simp [wholeDigits?, zero, digits?, digit_value_digit digits.1, digit_run_digits digits.2]

theorem decimal_number (negative : Bool) {value : Value}
    (fits : integerValue? (if negative then -(number : Int) else number) = some value) :
    decimal? negative (digitChars number ++ '\n' :: rest) = some (value, '\n' :: rest) := by
  simp [decimal?, whole_digits_number, fraction?, exponent?, value_of_digit_chars, fits]

theorem number_digits {value : Value} (fits : integerValue? number = some value) :
    number? (digitChars number ++ '\n' :: rest) = some (value, '\n' :: rest) := by
  have digits := digit_chars_digits number
  unfold number?
  split
  · rename_i shape
    exact absurd shape (digits_second digits rfl (by decide) _)
  · rename_i shape
    exact absurd shape (digits_second digits rfl (by decide) _)
  · rename_i shape
    exact absurd shape (digits_second digits rfl (by decide) _)
  · rw [sign_digits digits]
    simp only [special_digits digits]
    exact decimal_number number rest false fits

theorem number_minus {value : Value} (fits : integerValue? (-number) = some value) :
    number? ('-' :: (digitChars number ++ '\n' :: rest)) = some (value, '\n' :: rest) := by
  unfold number?
  split
  · rename_i shape
    exact absurd (List.cons.inj shape).1 (by decide)
  · rename_i shape
    exact absurd (List.cons.inj shape).1 (by decide)
  · rename_i shape
    exact absurd (List.cons.inj shape).1 (by decide)
  · simp only [signAndRest, special_digits (digit_chars_digits number)]
    exact decimal_number number rest true fits

end Numerals

theorem value_within_scalar {lead : Char} (bracket : lead ≠ '[') (brace : lead ≠ '\x7b')
    (depth : Nat) (text : List Char) :
    valueWithin? depth (lead :: text) = scalar? (lead :: text) := by
  cases depth <;> simp [valueWithin?, bracket, brace]

theorem value_quote {quote : Char} (usual : quote = '"' ∨ quote = '\'') (text : List Char) :
    value? (quote :: text) =
      (string? (quote :: text)).map fun (value, rest) => (.text value, rest) := by
  rcases usual with rfl | rfl
  · exact value_within_scalar (by decide) (by decide) _ _
  · exact value_within_scalar (by decide) (by decide) _ _

theorem value_numeral {lead : Char} (usual : lead.isDigit = true ∨ lead = '-')
    (text : List Char) : value? (lead :: text) = numeral? (lead :: text) := by
  have other (mark : Char) (odd : mark.isDigit = false) (minus : mark ≠ '-') : lead ≠ mark := by
    rcases usual with digit | rfl
    · exact digit_ne odd digit
    · exact minus.symm
  rw [value?, value_within_scalar (other _ rfl (by decide)) (other _ rfl (by decide))]
  simp [scalar?, other '"' rfl (by decide), other '\'' rfl (by decide),
    other 't' rfl (by decide), other 'f' rfl (by decide)]

theorem numeral_rendered {number : Int}
    (fits : -9223372036854775808 ≤ number ∧ number ≤ 9223372036854775807) (rest : List Char) :
    value? ((intText number).toList ++ '\n' :: rest) = some (.integer number, '\n' :: rest) := by
  have within : integerValue? number = some (.integer number) := if_pos fits
  simp only [intText]
  split
  · rename_i negative
    have size : -(number.natAbs : Int) = number := by omega
    rw [← size] at within
    have shape : ("-" ++ String.ofList (digitChars number.natAbs)).toList ++ '\n' :: rest =
        '-' :: (digitChars number.natAbs ++ '\n' :: rest) := by simp
    rw [shape, value_numeral (.inr rfl), numeral?, moment_none rfl]
    simp only
    rw [number_minus _ _ within, size]
  · have size : (number.toNat : Int) = number := by omega
    rw [← size] at within
    have digits := digit_chars_digits number.toNat
    rw [String.toList_ofList]
    rcases shape : digitChars number.toNat with _ | ⟨lead, others⟩
    · exact absurd shape Nat.toDigits_ne_nil
    · have lead_digit := digits lead (by simp [shape])
      rw [List.cons_append, value_numeral (.inl lead_digit), ← List.cons_append, ← shape, numeral?,
        moment_digits digits]
      simp only
      rw [number_digits _ _ within, size]

/-- Reading the text of a scalar at the end of a line gives the scalar back. -/
theorem value_rendered {scalar : Scalar} (fits : scalar.Fits) (rest : List Char) :
    value? (scalar.render.toList ++ '\n' :: rest) = some (scalar.value, '\n' :: rest) := by
  cases scalar with
  | text value =>
      have read : string? (quotedChars value.toList ++ '\n' :: rest) =
          some (String.ofList value.toList, '\n' :: rest) :=
        string_quoted value.toList (by simp) (by simp)
      obtain ⟨quote, body, shape, usual⟩ := quoted_chars_head value.toList
      simp only [Scalar.render, Scalar.value, String.toList_ofList]
      rw [shape, List.cons_append] at read ⊢
      rw [value_quote usual, read, String.ofList_toList]
      rfl
  | integer value => exact numeral_rendered fits rest
  | boolean value =>
      cases value with
      | true => rfl
      | false => rfl

theorem rendered_lead (scalar : Scalar) :
    ∃ lead body, scalar.render.toList = lead :: body ∧ isBlank lead = false := by
  cases scalar with
  | text value =>
      obtain ⟨quote, body, shape, usual⟩ := quoted_chars_head value.toList
      refine ⟨quote, body, by simp [Scalar.render, shape], ?_⟩
      rcases usual with rfl | rfl <;> rfl
  | integer value =>
      simp only [Scalar.render, intText]
      split
      · exact ⟨'-', digitChars value.natAbs, by simp, rfl⟩
      · have digits := digit_chars_digits value.toNat
        rcases shape : digitChars value.toNat with _ | ⟨lead, others⟩
        · exact absurd shape Nat.toDigits_ne_nil
        · rw [shape, List.forall_mem_cons] at digits
          have space : lead ≠ ' ' := digit_ne rfl digits.1
          have tab : lead ≠ '\t' := digit_ne rfl digits.1
          exact ⟨lead, others, by simp, by simp [isBlank, space, tab]⟩
  | boolean value =>
      cases value with
      | true => exact ⟨_, _, rfl, rfl⟩
      | false => exact ⟨_, _, rfl, rfl⟩

end Footage.Toml
