import Footage.Number.Scaled
import Mathlib.Algebra.Order.Field.Power
import Mathlib.Data.Rat.Cast.Order
import Mathlib.Tactic.Positivity
import Mathlib.Tactic.Ring

/-!
# How large a rounded number is

Rounding to a double does not pass a power of two: a ratio up to `2 ^ k` becomes a double whose
pattern is at most that of `2 ^ k`, and so no infinity. The powers of two are taken among the
rationals, where their exponents may be negative. So an integer of sixty-four bits is finite, and so
is what scaling makes of decimal digits unless it refuses them.
-/

namespace Footage.Number

set_option autoImplicit false

namespace Double

section Order

variable {top bottom : Nat}

theorem two_to_cast (exponent : Nat) : ((twoTo exponent : Nat) : ℚ) = 2 ^ (exponent : Int) := by
  simp [twoTo]

theorem log_bounds {number : Nat} (positive : 0 < number) :
    (2 : ℚ) ^ (Nat.log2 number : Int) ≤ number ∧
      (number : ℚ) < 2 ^ ((Nat.log2 number : Int) + 1) := by
  have low : 2 ^ Nat.log2 number ≤ number := Nat.log2_self_le (by omega)
  have high : number < 2 ^ (Nat.log2 number + 1) := Nat.lt_log2_self
  constructor
  · exact_mod_cast low
  · exact_mod_cast high

theorem fits_iff (guess : Int) :
    (if guess < 0 then bottom ≤ top * twoTo (-guess).toNat else bottom * twoTo guess.toNat ≤ top) ↔
      (2 : ℚ) ^ guess * bottom ≤ top := by
  split
  · have scale : (0 : ℚ) < 2 ^ (-guess) := by positivity
    have scaled : (2 : ℚ) ^ (-guess) * (2 ^ guess * bottom) = bottom := by
      rw [← mul_assoc, ← zpow_add₀ two_ne_zero, neg_add_cancel, zpow_zero, one_mul]
    rw [← Nat.cast_le (α := ℚ), Nat.cast_mul, two_to_cast, Int.toNat_of_nonneg (by omega),
      mul_comm (top : ℚ), ← mul_le_mul_iff_right₀ scale (b := 2 ^ guess * _), scaled]
  · rw [← Nat.cast_le (α := ℚ), Nat.cast_mul, two_to_cast, Int.toNat_of_nonneg (by omega), mul_comm]

theorem binary_order_guessed {guess : Int}
    (guessed : (Nat.log2 top : Int) - (Nat.log2 bottom : Int) = guess) :
    binaryOrder top bottom = if (2 : ℚ) ^ guess * bottom ≤ top then guess else guess - 1 := by
  have taken := @fits_iff top bottom guess
  simp only [binaryOrder, guessed]
  by_cases down : guess < 0
  · simp only [down, if_true] at taken ⊢
    simp only [taken]
  · simp only [down, if_false] at taken ⊢
    simp only [taken]

/-- The ratio lies between the power of two of its order and the next one. -/
theorem binary_order_bounds (top_positive : 0 < top) (bottom_positive : 0 < bottom) :
    (2 : ℚ) ^ binaryOrder top bottom * bottom ≤ top ∧
      (top : ℚ) < 2 ^ (binaryOrder top bottom + 1) * bottom := by
  obtain ⟨top_low, top_high⟩ := log_bounds top_positive
  obtain ⟨bottom_low, bottom_high⟩ := log_bounds bottom_positive
  generalize guessed : (Nat.log2 top : Int) - (Nat.log2 bottom : Int) = guess
  have above : (top : ℚ) < 2 ^ (guess + 1) * bottom := by
    have split : (2 : ℚ) ^ ((Nat.log2 top : Int) + 1) =
        2 ^ (guess + 1) * 2 ^ (Nat.log2 bottom : Int) := by
      rw [← zpow_add₀ two_ne_zero]
      congr 1
      omega
    calc (top : ℚ) < 2 ^ (guess + 1) * 2 ^ (Nat.log2 bottom : Int) := split ▸ top_high
      _ ≤ 2 ^ (guess + 1) * bottom := by gcongr
  have below : (2 : ℚ) ^ (guess - 1) * bottom ≤ top := by
    have split : (2 : ℚ) ^ (Nat.log2 top : Int) =
        2 ^ (guess - 1) * 2 ^ ((Nat.log2 bottom : Int) + 1) := by
      rw [← zpow_add₀ two_ne_zero]
      congr 1
      omega
    calc (2 : ℚ) ^ (guess - 1) * bottom ≤ 2 ^ (guess - 1) * 2 ^ ((Nat.log2 bottom : Int) + 1) := by
          gcongr
      _ ≤ top := split ▸ top_low
  rw [binary_order_guessed guessed]
  split
  · rename_i fits
    exact ⟨fits, above⟩
  · rename_i exceeds
    rw [sub_add_cancel]
    exact ⟨below, not_le.mp exceeds⟩

end Order

section Rounding

variable {top bottom : Nat}

theorem round_le {bound : Nat} (positive : 0 < bottom) (within : top ≤ bottom * bound) :
    roundHalfEven top bottom ≤ bound := by
  have quotient : top / bottom ≤ bound := Nat.div_le_of_le_mul within
  have parts := Nat.div_add_mod top bottom
  simp only [roundHalfEven]
  split
  · exact quotient
  · rename_i up
    rcases Nat.lt_or_eq_of_le quotient with less | same
    · exact less
    · -- A quotient that is the bound itself leaves no rest to round up for.
      have none_left : top % bottom = 0 := by
        rw [same] at parts
        omega
      simp [none_left, positive] at up

theorem le_round {bound : Nat} (positive : 0 < bottom) (within : bottom * bound ≤ top) :
    bound ≤ roundHalfEven top bottom := by
  have quotient : bound ≤ top / bottom :=
    (Nat.le_div_iff_mul_le positive).mpr (Nat.mul_comm bottom bound ▸ within)
  simp only [roundHalfEven]
  split
  · exact quotient
  · exact Nat.le_succ_of_le quotient

def mantissaAt (place : Int) (top bottom : Nat) : Nat :=
  if place < 0 then roundHalfEven (top * twoTo (-place).toNat) bottom
  else roundHalfEven top (bottom * twoTo place.toNat)

theorem two_to_positive (exponent : Nat) : 0 < twoTo exponent := Nat.two_pow_pos exponent

/-- The scaling clears the power of two, whichever part of the ratio it goes to. -/
theorem mantissa_scaled (place : Int) (positive : 0 < bottom) :
    ∃ above below : Nat, mantissaAt place top bottom = roundHalfEven above below ∧ 0 < below ∧
      (above : ℚ) * (2 ^ place * bottom) = top * below := by
  unfold mantissaAt
  split
  · refine ⟨_, _, rfl, positive, ?_⟩
    rw [Nat.cast_mul, two_to_cast, Int.toNat_of_nonneg (by omega), mul_assoc, ← mul_assoc (2 ^ _),
      ← zpow_add₀ two_ne_zero, neg_add_cancel, zpow_zero, one_mul]
  · refine ⟨_, _, rfl, Nat.mul_pos positive (two_to_positive _), ?_⟩
    rw [Nat.cast_mul, two_to_cast, Int.toNat_of_nonneg (by omega), mul_comm (bottom : ℚ)]

theorem mantissa_le {place : Int} {bound : Nat} (positive : 0 < bottom)
    (within : (top : ℚ) ≤ bound * (2 ^ place * bottom)) : mantissaAt place top bottom ≤ bound := by
  obtain ⟨above, below, same, below_positive, scaled⟩ := @mantissa_scaled top bottom place positive
  have bottom_positive : (0 : ℚ) < bottom := by exact_mod_cast positive
  have unit : (0 : ℚ) < 2 ^ place * bottom := by positivity
  rw [same]
  apply round_le below_positive
  rw [← Nat.cast_le (α := ℚ), Nat.cast_mul]
  apply le_of_mul_le_mul_right _ unit
  calc (above : ℚ) * (2 ^ place * bottom) = top * below := scaled
    _ ≤ bound * (2 ^ place * bottom) * below := by gcongr
    _ = below * bound * (2 ^ place * bottom) := by ring

theorem le_mantissa {place : Int} {bound : Nat} (positive : 0 < bottom)
    (within : bound * ((2 : ℚ) ^ place * bottom) ≤ top) : bound ≤ mantissaAt place top bottom := by
  obtain ⟨above, below, same, below_positive, scaled⟩ := @mantissa_scaled top bottom place positive
  have bottom_positive : (0 : ℚ) < bottom := by exact_mod_cast positive
  have unit : (0 : ℚ) < 2 ^ place * bottom := by positivity
  rw [same]
  apply le_round below_positive
  rw [← Nat.cast_le (α := ℚ), Nat.cast_mul]
  apply le_of_mul_le_mul_right _ unit
  calc (below : ℚ) * bound * (2 ^ place * bottom) = bound * (2 ^ place * bottom) * below := by ring
    _ ≤ top * below := by gcongr
    _ = above * (2 ^ place * bottom) := scaled.symm

end Rounding

section Pattern

variable {top bottom : Nat} (negative : Bool)

theorem magnitude_of_pattern {pattern : Nat} (small : pattern ≤ infinityPattern) :
    (ofPattern negative pattern).magnitude = pattern := by
  simp only [infinityPattern] at small
  cases negative <;> simp [ofPattern, magnitude, signWeight, twoTo] <;> omega

def powerPattern (exponent : Nat) : Nat := (exponent + 1023) * twoTo mantissaBits

theorem power_pattern_finite {exponent : Nat} (small : exponent ≤ 1023) :
    powerPattern exponent < infinityPattern := by
  have weight : twoTo mantissaBits = 4503599627370496 := rfl
  simp only [powerPattern, infinityPattern, weight]
  omega

def placeOf (top bottom : Nat) : Int := max (binaryOrder top bottom - mantissaBits) (-lastPlace)

/-- The pattern that a ratio is rounded to, unless it is too large. -/
def patternAt (place : Int) (top bottom : Nat) : Nat :=
  (place + lastPlace).toNat * twoTo mantissaBits + mantissaAt place top bottom

theorem of_ratio_magnitude (positive : 0 < top) :
    (ofRatio ⟨negative, top, bottom⟩).magnitude =
      min (patternAt (placeOf top bottom) top bottom) infinityPattern := by
  have nonzero : top ≠ 0 := by omega
  simp only [ofRatio, nonzero, if_false]
  rw [magnitude_of_pattern negative (Nat.min_le_right _ _)]
  rfl

theorem mantissa_weight : ((twoTo mantissaBits : Nat) : ℚ) = 2 ^ (52 : Int) := two_to_cast 52

theorem pattern_le {place : Int} {exponent : Nat} (positive : 0 < bottom)
    (least : -lastPlace ≤ place) (most : place ≤ exponent - 52)
    (near : (top : ℚ) ≤ 2 ^ (place + 53) * bottom)
    (within : (top : ℚ) ≤ 2 ^ (exponent : Int) * bottom) :
    patternAt place top bottom ≤ powerPattern exponent := by
  -- The mantissa fills what the place leaves of the pattern.
  obtain ⟨room, left⟩ : ∃ room : Nat, (room : Int) + place = exponent - 51 :=
    ⟨(exponent - 51 - place).toNat, by omega⟩
  have fills : mantissaAt place top bottom ≤ room * twoTo mantissaBits := by
    apply mantissa_le positive
    rw [Nat.cast_mul, mantissa_weight]
    rcases Nat.lt_or_ge 1 room with wide | narrow
    · have two : (2 : ℚ) ≤ room := by exact_mod_cast wide
      calc (top : ℚ) ≤ 2 ^ (place + 53) * bottom := near
        _ = 2 * 2 ^ (52 : Int) * (2 ^ place * bottom) := by
            rw [zpow_add₀ two_ne_zero]
            ring
        _ ≤ room * 2 ^ (52 : Int) * (2 ^ place * bottom) := by gcongr
    · have last : place = exponent - 52 := by omega
      have one : room = 1 := by omega
      calc (top : ℚ) ≤ 2 ^ (exponent : Int) * bottom := within
        _ = room * 2 ^ (52 : Int) * (2 ^ place * bottom) := by
            rw [last, one, Nat.cast_one, one_mul, ← mul_assoc, ← zpow_add₀ two_ne_zero,
              add_sub_cancel]
  simp only [lastPlace] at least
  have sum : (place + lastPlace).toNat + room = exponent + 1023 := by
    simp only [lastPlace]
    omega
  rw [patternAt, powerPattern, ← sum, Nat.add_mul]
  exact Nat.add_le_add_left fills _

theorem of_ratio_le {exponent : Nat} (positive : 0 < bottom)
    (within : (top : ℚ) ≤ 2 ^ (exponent : Int) * bottom) :
    (ofRatio ⟨negative, top, bottom⟩).magnitude ≤ powerPattern exponent := by
  rcases Nat.eq_zero_or_pos top with rfl | top_positive
  · simp only [ofRatio, if_true]
    rw [magnitude_of_pattern negative (Nat.zero_le _)]
    exact Nat.zero_le _
  · rw [of_ratio_magnitude negative top_positive]
    apply Nat.le_trans (Nat.min_le_left _ _)
    obtain ⟨low, high⟩ := binary_order_bounds top_positive positive
    have order : binaryOrder top bottom ≤ exponent := by
      have scale : (0 : ℚ) < bottom := by exact_mod_cast positive
      have powers := le_of_mul_le_mul_right (low.trans within) scale
      exact (zpow_le_zpow_iff_right₀ one_lt_two).mp powers
    have most : placeOf top bottom ≤ exponent - 52 := by
      simp only [placeOf, mantissaBits, lastPlace]
      omega
    have reaches : binaryOrder top bottom + 1 ≤ placeOf top bottom + 53 := by
      simp only [placeOf, mantissaBits]
      omega
    have near : (top : ℚ) ≤ 2 ^ (placeOf top bottom + 53) * bottom := by
      apply high.le.trans
      gcongr
      exact one_le_two
    exact pattern_le positive (le_max_right _ _) most near within

theorem le_of_ratio (positive : 0 < bottom) (above : bottom ≤ top) :
    powerPattern 0 ≤ (ofRatio ⟨negative, top, bottom⟩).magnitude := by
  rw [of_ratio_magnitude negative (Nat.lt_of_lt_of_le positive above)]
  apply Nat.le_min.mpr ⟨?_, (power_pattern_finite (Nat.zero_le _)).le⟩
  obtain ⟨low, high⟩ := binary_order_bounds (Nat.lt_of_lt_of_le positive above) positive
  have order : 0 ≤ binaryOrder top bottom := by
    have scale : (0 : ℚ) < bottom := by exact_mod_cast positive
    have whole : (bottom : ℚ) ≤ top := by exact_mod_cast above
    have powers : (2 : ℚ) ^ (0 : Int) < 2 ^ (binaryOrder top bottom + 1) := by
      apply lt_of_mul_lt_mul_right _ scale.le
      rw [zpow_zero, one_mul]
      exact whole.trans_lt high
    have exponents := (zpow_lt_zpow_iff_right₀ one_lt_two).mp powers
    omega
  have place : placeOf top bottom + 52 = binaryOrder top bottom := by
    simp only [placeOf, mantissaBits, lastPlace]
    omega
  have full : twoTo mantissaBits ≤ mantissaAt (placeOf top bottom) top bottom := by
    apply le_mantissa positive
    rw [mantissa_weight, ← mul_assoc, ← zpow_add₀ two_ne_zero, add_comm, place]
    exact low
  have front : 1022 ≤ (placeOf top bottom + lastPlace).toNat := by
    simp only [lastPlace]
    omega
  calc powerPattern 0 = 1022 * twoTo mantissaBits + twoTo mantissaBits := by
        rw [powerPattern, Nat.zero_add, ← Nat.succ_mul]
    _ ≤ patternAt (placeOf top bottom) top bottom :=
        Nat.add_le_add (Nat.mul_le_mul_right _ front) full

end Pattern

section Exact

variable (x : Double)

theorem ratio_bottom_positive : 0 < x.toRatio.bottom := by
  unfold toRatio
  split
  · exact two_to_positive _
  · exact Nat.one_pos

/-- A double is its mantissa times the power of two that it counts by. -/
theorem ratio_value :
    (x.toRatio.top : ℚ) = x.mantissa * 2 ^ x.power * x.toRatio.bottom := by
  unfold toRatio
  split
  · rw [two_to_cast, Int.toNat_of_nonneg (by omega), mul_assoc, ← zpow_add₀ two_ne_zero,
      add_neg_cancel, zpow_zero, mul_one]
  · rw [Nat.cast_mul, two_to_cast, Int.toNat_of_nonneg (by omega), Nat.cast_one, mul_one]

theorem mantissa_lt : x.mantissa < 2 * twoTo mantissaBits := by
  have stored := Nat.mod_lt x.magnitude (two_to_positive mantissaBits)
  simp only [mantissa]
  split <;> omega

theorem power_le {exponent : Int} (small : x.exponentField ≤ exponent + 1075)
    (least : -1074 ≤ exponent) : x.power ≤ exponent := by
  simp only [power, lastPlace]
  split <;> omega

theorem ratio_le {exponent : Nat} (small : x.magnitude ≤ powerPattern exponent) :
    (x.toRatio.top : ℚ) ≤ 2 ^ (exponent : Int) * x.toRatio.bottom := by
  rw [ratio_value]
  gcongr
  have weight := two_to_positive mantissaBits
  have field : x.exponentField ≤ exponent + 1023 := Nat.div_le_of_le_mul (Nat.mul_comm _ _ ▸ small)
  rcases Nat.lt_or_eq_of_le field with below | last
  · have most : x.power ≤ exponent - 53 := power_le x (by omega) (by omega)
    have mantissa : (x.mantissa : ℚ) ≤ 2 * 2 ^ (52 : Int) := by
      rw [← mantissa_weight]
      exact_mod_cast (mantissa_lt x).le
    calc (x.mantissa : ℚ) * 2 ^ x.power ≤ 2 * 2 ^ (52 : Int) * 2 ^ ((exponent : Int) - 53) := by
          gcongr
          exact one_le_two
      _ = 2 ^ (exponent : Int) := by
          rw [← zpow_one_add₀ two_ne_zero, ← zpow_add₀ two_ne_zero]
          congr 1
          omega
  · have most : x.power ≤ exponent - 52 := power_le x (by omega) (by omega)
    have parts := Nat.div_add_mod x.magnitude (twoTo mantissaBits)
    have none_stored : x.magnitude % twoTo mantissaBits = 0 := by
      have same : x.magnitude / twoTo mantissaBits = exponent + 1023 := last
      rw [same, Nat.mul_comm] at parts
      simp only [powerPattern] at small
      omega
    have mantissa : (x.mantissa : ℚ) ≤ 2 ^ (52 : Int) := by
      rw [← mantissa_weight]
      simp only [Double.mantissa, none_stored, Nat.add_zero]
      split <;> simp
    calc (x.mantissa : ℚ) * 2 ^ x.power ≤ 2 ^ (52 : Int) * 2 ^ ((exponent : Int) - 52) := by
          gcongr
          exact one_le_two
      _ = 2 ^ (exponent : Int) := by
          rw [← zpow_add₀ two_ne_zero, add_sub_cancel]

theorem le_ratio (large : powerPattern 0 ≤ x.magnitude) :
    x.toRatio.bottom ≤ x.toRatio.top := by
  have field : 1023 ≤ x.exponentField := by
    apply (Nat.le_div_iff_mul_le (two_to_positive _)).mpr
    exact large
  have nonzero : x.exponentField ≠ 0 := by omega
  have mantissa : (2 : ℚ) ^ (52 : Int) ≤ x.mantissa := by
    rw [← mantissa_weight]
    simp only [Double.mantissa, nonzero, if_false]
    exact_mod_cast Nat.le_add_right _ _
  have least : -52 ≤ x.power := by
    simp only [power, nonzero, if_false, lastPlace]
    omega
  rw [← Nat.cast_le (α := ℚ), ratio_value]
  apply le_mul_of_one_le_left (Nat.cast_nonneg _)
  calc (1 : ℚ) = 2 ^ (52 : Int) * 2 ^ (-52 : Int) := by
        rw [← zpow_add₀ two_ne_zero, add_neg_cancel, zpow_zero]
    _ ≤ x.mantissa * 2 ^ x.power := by
        gcongr
        exact one_le_two

end Exact

theorem finite_of_le {x : Double} {exponent : Nat} (small : x.magnitude ≤ powerPattern exponent)
    (most : exponent ≤ 1023) : x.isFinite = true :=
  decide_eq_true (Nat.lt_of_le_of_lt small (power_pattern_finite most))

theorem of_nat_le {number exponent : Nat} (small : number ≤ 2 ^ exponent) :
    (ofNat number).magnitude ≤ powerPattern exponent := by
  apply of_ratio_le false Nat.one_pos
  rw [Nat.cast_one, mul_one, zpow_natCast]
  exact_mod_cast small

/-- An integer of sixty-four bits, with a sign or without, is a finite double. -/
theorem of_int_finite {number : Int} (small : number.natAbs ≤ 2 ^ 64) :
    (ofInt number).isFinite = true := by
  have within : (number.natAbs : ℚ) ≤ 2 ^ ((64 : Nat) : Int) * (1 : Nat) := by
    rw [Nat.cast_one, mul_one, zpow_natCast]
    exact_mod_cast small
  exact finite_of_le (of_ratio_le (decide (number < 0)) Nat.one_pos within) (by decide)

section Scaling

theorem of_ratio_most (ratio : Ratio) : (ofRatio ratio).magnitude ≤ infinityPattern := by
  unfold ofRatio
  split
  · rw [magnitude_of_pattern _ (Nat.zero_le _)]
    exact Nat.zero_le _
  · rw [magnitude_of_pattern _ (Nat.min_le_right _ _)]
    exact Nat.min_le_right _ _

theorem div_le {x y : Double} {exponent : Nat} (small : x.magnitude ≤ powerPattern exponent)
    (large : powerPattern 0 ≤ y.magnitude) : (x.div y).magnitude ≤ powerPattern exponent := by
  have whole := le_ratio y large
  have divisor : 0 < y.toRatio.top := Nat.lt_of_lt_of_le (ratio_bottom_positive y) whole
  apply of_ratio_le _ (Nat.mul_pos (ratio_bottom_positive x) divisor)
  push_cast
  calc (x.toRatio.top : ℚ) * y.toRatio.bottom
      ≤ 2 ^ (exponent : Int) * x.toRatio.bottom * y.toRatio.top :=
        mul_le_mul (ratio_le x small) (by exact_mod_cast whole) (Nat.cast_nonneg _) (by positivity)
    _ = 2 ^ (exponent : Int) * (x.toRatio.bottom * y.toRatio.top) := mul_assoc _ _ _

theorem le_ten (power : Nat) : powerPattern 0 ≤ (ofNat (tenTo power)).magnitude :=
  le_of_ratio false Nat.one_pos (Nat.pow_pos (by decide))

theorem divide_by_ten_le {x : Double} {exponent : Nat} (power : Nat)
    (small : x.magnitude ≤ powerPattern exponent) :
    (x.divideByTen power).magnitude ≤ powerPattern exponent := by
  fun_induction divideByTen x power with
  | case1 x power short => exact div_le small (le_ten power)
  | case2 x power long zero => exact small
  | case3 x power long nonzero ih => exact ih (div_le small (le_ten greatestTen))

theorem leading_digits_le {read : Nat} (fits : read ≤ greatestLead) (digits : List Nat) :
    (leadingDigits read digits).1 ≤ greatestLead := by
  induction digits generalizing read with
  | nil => exact fits
  | cons digit rest ih =>
      simp only [leadingDigits]
      split
      · rename_i further
        exact ih further
      · exact fits

theorem lead_of_le (whole part : List Nat) : (leadOf whole part).1 ≤ greatestLead :=
  leading_digits_le (leading_digits_le (Nat.zero_le _) whole) part

theorem times_ten_finite {x product : Double} {power : Nat} (finite : x.isFinite = true)
    (taken : x.timesTen? power = some product) : product.isFinite = true := by
  unfold timesTen? at taken
  split at taken
  · simp only [Option.ite_none_left_eq_some, isInfinite, beq_iff_eq] at taken
    obtain ⟨bounded, same⟩ := taken
    rw [← Option.some.inj same]
    exact decide_eq_true (Nat.lt_of_le_of_ne (of_ratio_most _) bounded)
  · split at taken
    · exact Option.some.inj taken ▸ finite
    · cases taken

theorem scaled_finite {negative : Bool} {whole part : List Nat} {power : Int} {x : Double}
    (scaled : scaled? negative whole part power = some x) : x.isFinite = true := by
  have lead : (ofNat (leadOf whole part).1).magnitude ≤ powerPattern 64 :=
    of_nat_le (Nat.le_trans (lead_of_le whole part) (by decide))
  have signed {size : Double} (finite : size.isFinite = true) :
      (ofPattern negative size.magnitude).isFinite = true := by
    have small : size.magnitude < infinityPattern := of_decide_eq_true finite
    apply decide_eq_true
    rw [magnitude_of_pattern negative small.le]
    exact small
  simp only [scaled?, Option.bind_eq_bind] at scaled
  split at scaled
  · cases scaled
    exact signed (finite_of_le (divide_by_ten_le _ lead) (by decide))
  · obtain ⟨size, found, same⟩ := Option.bind_eq_some_iff.mp scaled
    cases same
    exact signed (times_ten_finite (finite_of_le lead (by decide)) found)

end Scaling

end Double

end Footage.Number
