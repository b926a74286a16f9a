import CertApproval.Floating.Ratio
import Mathlib.Algebra.Order.Field.Power
import Mathlib.Data.Rat.Cast.Order
import Mathlib.Tactic.FieldSimp
import Mathlib.Tactic.Linarith
import Mathlib.Tactic.NormNum
import Mathlib.Tactic.Ring

/-!
The range of doubles. Main statement: a ratio is rounded to a finite double exactly if it lies
below the middle between the greatest double and the next power of two.
-/

namespace CertApproval.Floating

/-! ## Quotients -/

theorem roundQuotient_le {numerator denominator bound : Nat}
    (below : 2 * numerator < (2 * bound + 1) * denominator) :
    roundQuotient numerator denominator ≤ bound := by
  obtain ⟨quotient, isQuotient⟩ : ∃ quotient, numerator / denominator = quotient := ⟨_, rfl⟩
  obtain ⟨remainder, isRemainder⟩ : ∃ remainder, numerator % denominator = remainder := ⟨_, rfl⟩
  have parts := Nat.div_add_mod numerator denominator
  rw [isQuotient, isRemainder, Nat.mul_comm] at parts
  rw [Nat.add_mul, Nat.mul_assoc, Nat.one_mul] at below
  rw [roundQuotient, isQuotient, isRemainder]
  by_contra more
  have atLeast (least : bound ≤ quotient) : bound * denominator ≤ quotient * denominator :=
    Nat.mul_le_mul_right denominator least
  have beyond (least : bound + 1 ≤ quotient) :
      bound * denominator + denominator ≤ quotient * denominator := by
    simpa [Nat.add_mul] using Nat.mul_le_mul_right denominator least
  split_ifs at more with small large
  · have := beyond (by omega)
    omega
  · have := atLeast (by omega)
    omega
  · have := atLeast (by omega)
    omega

/-- A quotient in the middle is rounded up to an even number. -/
theorem le_roundQuotient {numerator denominator bound : Nat} (positive : 0 < denominator)
    (even : bound % 2 = 0) (above : 2 * (bound * denominator) ≤ 2 * numerator + denominator) :
    bound ≤ roundQuotient numerator denominator := by
  obtain ⟨quotient, isQuotient⟩ : ∃ quotient, numerator / denominator = quotient := ⟨_, rfl⟩
  obtain ⟨remainder, isRemainder⟩ : ∃ remainder, numerator % denominator = remainder := ⟨_, rfl⟩
  have parts := Nat.div_add_mod numerator denominator
  have small := Nat.mod_lt numerator positive
  rw [isQuotient, isRemainder, Nat.mul_comm] at parts
  rw [isRemainder] at small
  rw [roundQuotient, isQuotient, isRemainder]
  by_contra less
  have beyond (more : Nat) (least : quotient + more ≤ bound) :
      quotient * denominator + more * denominator ≤ bound * denominator := by
    simpa [Nat.add_mul] using Nat.mul_le_mul_right denominator least
  split_ifs at less
  · have := beyond 1 (by omega)
    omega
  · have := beyond 2 (by omega)
    omega
  · by_cases two : quotient + 2 ≤ bound
    · have := beyond 2 two
      omega
    · omega

/-! ## Ratios -/

theorem scale_ratio (numerator denominator : Nat) (exponent : Int) :
    ((scale numerator denominator exponent).1 : ℚ) / (scale numerator denominator exponent).2 =
      numerator / denominator * 2 ^ exponent := by
  unfold scale
  split
  · next nonneg =>
      obtain ⟨power, rfl⟩ := Int.eq_ofNat_of_zero_le nonneg
      simp [mul_div_right_comm]
  · next negative =>
      obtain ⟨power, same⟩ := Int.eq_ofNat_of_zero_le (a := -exponent) (by omega)
      obtain rfl : exponent = -power := by omega
      simp
      field_simp

theorem scale_pos {numerator denominator : Nat} (positive : 0 < denominator) (exponent : Int) :
    0 < (scale numerator denominator exponent).2 := by
  unfold scale
  split
  · exact positive
  · exact Nat.mul_pos positive (Nat.pos_of_ne_zero (by simp))

theorem lt_two_zpow_log2 (value : Nat) : (value : ℚ) < 2 ^ ((value.log2 : Int) + 1) := by
  have bound : value < 2 ^ (value.log2 + 1) := Nat.lt_log2_self
  exact_mod_cast bound

theorem two_zpow_log2_le {value : Nat} (positive : 0 < value) :
    (2 : ℚ) ^ (value.log2 : Int) ≤ value := by
  have bound : 2 ^ value.log2 ≤ value := Nat.log2_self_le positive.ne'
  exact_mod_cast bound

/-- A ratio lies between the powers of two that the lengths of its parts tell. -/
theorem ratio_window {numerator denominator : Nat} (positive : 0 < numerator)
    (positiveBelow : 0 < denominator) :
    (2 : ℚ) ^ ((numerator.log2 : Int) - denominator.log2 - 1) < numerator / denominator ∧
      (numerator / denominator : ℚ) < 2 ^ ((numerator.log2 : Int) - denominator.log2 + 1) := by
  have below : (0 : ℚ) < denominator := by exact_mod_cast positiveBelow
  rw [lt_div_iff₀ below, div_lt_iff₀ below]
  constructor
  · calc (2 : ℚ) ^ ((numerator.log2 : Int) - denominator.log2 - 1) * denominator
      _ < 2 ^ ((numerator.log2 : Int) - denominator.log2 - 1) *
          2 ^ ((denominator.log2 : Int) + 1) :=
        mul_lt_mul_of_pos_left (lt_two_zpow_log2 denominator) (by positivity)
      _ = 2 ^ (numerator.log2 : Int) := by
        rw [← zpow_add₀ two_ne_zero]
        congr 1
        ring
      _ ≤ numerator := two_zpow_log2_le positive
  · calc (numerator : ℚ)
      _ < 2 ^ ((numerator.log2 : Int) + 1) := lt_two_zpow_log2 numerator
      _ = 2 ^ ((numerator.log2 : Int) - denominator.log2 + 1) * 2 ^ (denominator.log2 : Int) := by
        rw [← zpow_add₀ two_ne_zero]
        congr 1
        ring
      _ ≤ 2 ^ ((numerator.log2 : Int) - denominator.log2 + 1) * denominator :=
        mul_le_mul_of_nonneg_left (two_zpow_log2_le positiveBelow) (by positivity)

/-- A ratio in units of a power of two compares with a number as it does with that number of
units. -/
theorem scale_lt_iff {numerator denominator : Nat} (positiveBelow : 0 < denominator)
    (exponent : Int) (bound : ℚ) :
    ((scale numerator denominator (-exponent)).1 : ℚ) <
        bound * (scale numerator denominator (-exponent)).2 ↔
      (numerator / denominator : ℚ) < bound * 2 ^ exponent := by
  have below : (0 : ℚ) < (scale numerator denominator (-exponent)).2 := by
    exact_mod_cast scale_pos positiveBelow _
  have unit : (0 : ℚ) < 2 ^ exponent := by positivity
  rw [← div_lt_iff₀ below, scale_ratio, zpow_neg, ← div_eq_mul_inv, div_lt_iff₀ unit]

theorem exponentFor_eq (numerator denominator : Nat) {guess : Int}
    (isGuess : guess = (numerator.log2 : Int) - denominator.log2 - 52) :
    exponentFor numerator denominator =
      max (-1074)
        (if (scale numerator denominator (-guess)).1 <
            (scale numerator denominator (-guess)).2 * Nat.pow 2 52 then guess - 1
          else guess) := by
  have clamp (exponent : Int) :
      (if exponent < -1074 then -1074 else exponent) = max (-1074) exponent := by
    split_ifs <;> omega
  subst isGuess
  exact clamp _

/-- The exponent of a ratio leaves a significand of 53 bits, or of fewer where the exponent is the
least of all. -/
theorem exponentFor_spec {numerator denominator : Nat} (positive : 0 < numerator)
    (positiveBelow : 0 < denominator) :
    -1074 ≤ exponentFor numerator denominator ∧
      (numerator / denominator : ℚ) < 2 ^ (exponentFor numerator denominator + 53) ∧
      (exponentFor numerator denominator = -1074 ∨
        2 ^ (exponentFor numerator denominator + 52) ≤ (numerator / denominator : ℚ)) := by
  obtain ⟨above, below⟩ := ratio_window positive positiveBelow
  obtain ⟨guess, isGuess⟩ :
      ∃ guess : Int, guess = (numerator.log2 : Int) - denominator.log2 - 52 := ⟨_, rfl⟩
  have lower : (numerator.log2 : Int) - denominator.log2 - 1 = guess + 51 := by omega
  have upper : (numerator.log2 : Int) - denominator.log2 + 1 = guess + 53 := by omega
  rw [lower] at above
  rw [upper] at below
  have isSmall : (scale numerator denominator (-guess)).1 <
        (scale numerator denominator (-guess)).2 * Nat.pow 2 52 ↔
      (numerator / denominator : ℚ) < 2 ^ (guess + 52) := by
    rw [zpow_add₀ two_ne_zero, mul_comm ((2 : ℚ) ^ guess), ← scale_lt_iff positiveBelow, mul_comm]
    norm_cast
  obtain ⟨exponent, chosen, low, high⟩ : ∃ exponent : Int,
      exponentFor numerator denominator = max (-1074) exponent ∧
        (2 : ℚ) ^ (exponent + 52) ≤ numerator / denominator ∧
        (numerator / denominator : ℚ) < 2 ^ (exponent + 53) := by
    refine ⟨_, exponentFor_eq numerator denominator isGuess, ?_⟩
    simp only [isSmall]
    split_ifs with small
    · have sameLow : guess - 1 + 52 = guess + 51 := by omega
      have sameHigh : guess - 1 + 53 = guess + 52 := by omega
      rw [sameLow, sameHigh]
      exact ⟨above.le, small⟩
    · exact ⟨not_lt.mp small, below⟩
  rw [chosen]
  refine ⟨le_max_left _ _, high.trans_le ?_, ?_⟩
  · exact zpow_le_zpow_right₀ one_le_two (by omega)
  · rcases le_total (-1074) exponent with more | less
    · exact Or.inr ((max_eq_right more).symm ▸ low)
    · exact Or.inl (max_eq_left less)

/-! ## What is too large -/

/-- The middle between the greatest double and the next power of two. -/
def roundingLimit : ℚ := 2 ^ (1024 : Int) - 2 ^ (970 : Int)

theorem roundingLimit_eq : roundingLimit = (2 ^ 53 - 1 / 2) * 2 ^ (971 : Int) := by
  have next : (2 : ℚ) ^ (971 : Int) = 2 ^ (970 : Int) * 2 := zpow_add_one₀ two_ne_zero 970
  have last : (2 : ℚ) ^ (1024 : Int) = 2 ^ (970 : Int) * 2 ^ (54 : Int) :=
    zpow_add₀ two_ne_zero 970 54
  have bits : (2 : ℚ) ^ (54 : Int) = 2 * 2 ^ 53 := by norm_num
  rw [roundingLimit, next, last, bits]
  ring

theorem two_zpow_lt_roundingLimit {exponent : Int} (low : exponent ≤ 1023) :
    (2 : ℚ) ^ exponent < roundingLimit := by
  have unit : (0 : ℚ) < 2 ^ (971 : Int) := by positivity
  calc (2 : ℚ) ^ exponent
    _ ≤ 2 ^ (52 + 971 : Int) := zpow_le_zpow_right₀ one_le_two low
    _ = 2 ^ 52 * 2 ^ (971 : Int) := zpow_add₀ two_ne_zero 52 971
    _ < (2 ^ 53 - 1 / 2) * 2 ^ (971 : Int) := mul_lt_mul_of_pos_right (by norm_num) unit
    _ = roundingLimit := roundingLimit_eq.symm

theorem roundingLimit_pos : 0 < roundingLimit :=
  (zpow_pos two_pos 0).trans (two_zpow_lt_roundingLimit (by omega))

theorem roundingLimit_lt_two_zpow {exponent : Int} (high : 1024 ≤ exponent) :
    roundingLimit < (2 : ℚ) ^ exponent := by
  have unit : (0 : ℚ) < 2 ^ (971 : Int) := by positivity
  calc roundingLimit
    _ = (2 ^ 53 - 1 / 2) * 2 ^ (971 : Int) := roundingLimit_eq
    _ < 2 ^ 53 * 2 ^ (971 : Int) := mul_lt_mul_of_pos_right (by norm_num) unit
    _ = 2 ^ (53 + 971 : Int) := (zpow_add₀ two_ne_zero 53 971).symm
    _ ≤ 2 ^ exponent := zpow_le_zpow_right₀ one_le_two high

theorem bitsOfRatio_eq {numerator denominator above below : Nat} (positive : 0 < numerator)
    (positiveBelow : 0 < denominator) {exponent : Int}
    (isExponent : exponentFor numerator denominator = exponent)
    (scaled : scale numerator denominator (-exponent) = (above, below)) :
    bitsOfRatio numerator denominator =
      min (2047 * Nat.pow 2 52)
        ((exponent + 1074).toNat * Nat.pow 2 52 + roundQuotient above below) := by
  unfold bitsOfRatio
  rw [if_neg (by omega), isExponent]
  simp only
  rw [scaled]
  exact (Nat.min_def ..).symm

theorem bitsOfRatio_zero (denominator : Nat) : bitsOfRatio 0 denominator = 0 := by
  simp [bitsOfRatio]

/-- A ratio is rounded to a finite double exactly if it lies below the middle between the greatest
one and the next power of two. -/
theorem bitsOfRatio_lt_iff {numerator denominator : Nat} (positive : 0 < numerator)
    (positiveBelow : 0 < denominator) :
    bitsOfRatio numerator denominator < 2047 * Nat.pow 2 52 ↔
      (numerator / denominator : ℚ) < roundingLimit := by
  obtain ⟨exponent, isExponent⟩ :
      ∃ exponent, exponentFor numerator denominator = exponent := ⟨_, rfl⟩
  obtain ⟨above, below, scaled⟩ :
      ∃ above below, scale numerator denominator (-exponent) = (above, below) := ⟨_, _, rfl⟩
  obtain ⟨least, high, low⟩ := isExponent ▸ exponentFor_spec positive positiveBelow
  have inUnits := @scale_lt_iff numerator denominator positiveBelow exponent
  have belowPos := @scale_pos numerator denominator positiveBelow (-exponent)
  rw [scaled] at inUnits belowPos
  rw [bitsOfRatio_eq positive positiveBelow isExponent scaled, min_lt_iff,
    or_iff_right (Nat.lt_irrefl _)]
  have significandHigh : above < 2 ^ 53 * below := by
    have bound := (inUnits (2 ^ 53)).mpr (by rwa [zpow_add₀ two_ne_zero, mul_comm] at high)
    exact_mod_cast bound
  rw [Nat.pow_eq]
  rcases lt_trichotomy exponent 971 with small | rfl | large
  · have rounded : roundQuotient above below ≤ 2 ^ 53 := roundQuotient_le (by omega)
    exact iff_of_true (by omega) (high.trans (two_zpow_lt_roundingLimit (by omega)))
  · have isBelow : (numerator / denominator : ℚ) < roundingLimit ↔
        2 * above + below < 2 ^ 54 * below := by
      rw [roundingLimit_eq, ← inUnits]
      have cast : (above : ℚ) < (2 ^ 53 - 1 / 2) * below ↔
          2 * (above : ℚ) + below < 2 ^ 54 * below := by
        constructor <;> intro bound <;> linarith
      rw [cast]
      norm_cast
    rw [isBelow]
    constructor
    · intro fits
      by_contra middle
      have rounded : 2 ^ 53 ≤ roundQuotient above below :=
        le_roundQuotient belowPos (by norm_num) (by omega)
      omega
    · intro lower
      have rounded : roundQuotient above below ≤ 2 ^ 53 - 1 := roundQuotient_le (by omega)
      omega
  · have normal := low.resolve_left (by omega)
    have significandLow : 2 ^ 52 * below ≤ above := by
      have bound := (not_congr (inUnits (2 ^ 52))).mpr
        (by rwa [not_lt, mul_comm, ← zpow_natCast, ← zpow_add₀ two_ne_zero])
      exact_mod_cast not_lt.mp bound
    have rounded : 2 ^ 52 ≤ roundQuotient above below :=
      le_roundQuotient belowPos (by norm_num) (by omega)
    refine iff_of_false (by omega) (not_lt.mpr ?_)
    exact (roundingLimit_lt_two_zpow (by omega)).le.trans normal

/-! ## What is finite -/

theorem toNat_withSign (negative : Bool) {bits : Nat} (small : bits < 2 ^ 63) :
    (withSign negative bits).bits.toNat = (if negative then 2 ^ 63 else 0) + bits := by
  cases negative with
  | false =>
      simp only [withSign, Bool.false_eq_true, if_false, BitVec.toNat_ofNat]
      omega
  | true =>
      simp only [withSign, if_true, BitVec.toNat_ofNat, Nat.pow_eq]
      omega

/-- Bits below those of infinity are taken apart as a finite double with its sign. -/
theorem parts_withSign (negative : Bool) {bits : Nat} (small : bits < 2047 * Nat.pow 2 52) :
    ∃ significand exponent, parts (withSign negative bits) = .finite negative significand exponent ∧
      (bits = 0 → significand = 0) := by
  rw [Nat.pow_eq] at small
  have value := toNat_withSign negative (Nat.lt_trans small (by norm_num))
  have sign : decide ((withSign negative bits).bits.toNat / Nat.pow 2 63 = 1) = negative := by
    rw [value, Nat.pow_eq]
    cases negative <;> simp <;> omega
  have field : (withSign negative bits).bits.toNat / Nat.pow 2 52 % Nat.pow 2 11 =
      bits / 2 ^ 52 := by
    rw [value, Nat.pow_eq, Nat.pow_eq]
    split_ifs <;> omega
  have fraction : (withSign negative bits).bits.toNat % Nat.pow 2 52 = bits % 2 ^ 52 := by
    rw [value, Nat.pow_eq]
    split_ifs <;> omega
  unfold parts
  simp only [sign, field, fraction]
  rw [if_neg (by omega)]
  split
  · exact ⟨_, _, rfl, by omega⟩
  · next normal =>
      exact ⟨_, _, rfl, by rintro rfl; simp at normal⟩

theorem parts_infinity (negative : Bool) : parts (infinity negative) = .infinite negative := by
  cases negative <;> decide +kernel

theorem bitsOfRatio_le {numerator denominator : Nat} (positive : 0 < numerator)
    (positiveBelow : 0 < denominator) :
    bitsOfRatio numerator denominator ≤ 2047 * Nat.pow 2 52 := by
  obtain ⟨exponent, isExponent⟩ :
      ∃ exponent, exponentFor numerator denominator = exponent := ⟨_, rfl⟩
  obtain ⟨above, below, scaled⟩ :
      ∃ above below, scale numerator denominator (-exponent) = (above, below) := ⟨_, _, rfl⟩
  rw [bitsOfRatio_eq positive positiveBelow isExponent scaled]
  exact Nat.min_le_left _ _

/-- A ratio is rounded to a finite double with its sign, or it is too large for that. -/
theorem parts_ofRatio (negative : Bool) (numerator : Nat) {denominator : Nat}
    (positiveBelow : 0 < denominator) :
    (numerator / denominator < roundingLimit ∧
      ∃ significand exponent,
        parts (ofRatio negative numerator denominator) = .finite negative significand exponent ∧
          (numerator = 0 → significand = 0)) ∨
    (roundingLimit ≤ numerator / denominator ∧
      ofRatio negative numerator denominator = infinity negative) := by
  rcases Nat.eq_zero_or_pos numerator with rfl | positive
  · have small : bitsOfRatio 0 denominator < 2047 * Nat.pow 2 52 := by
      rw [bitsOfRatio_zero]
      exact Nat.mul_pos (by decide) (Nat.pow_pos (by decide))
    obtain ⟨significand, exponent, isParts, isZero⟩ := parts_withSign negative small
    refine Or.inl ⟨?_, significand, exponent, isParts, fun _ => isZero (bitsOfRatio_zero _)⟩
    rw [Nat.cast_zero, zero_div]
    exact roundingLimit_pos
  · by_cases fits : (numerator / denominator : ℚ) < roundingLimit
    · obtain ⟨significand, exponent, isParts, _⟩ :=
        parts_withSign negative ((bitsOfRatio_lt_iff positive positiveBelow).mpr fits)
      exact Or.inl ⟨fits, significand, exponent, isParts, by omega⟩
    · have most : bitsOfRatio numerator denominator = 2047 * Nat.pow 2 52 :=
        Nat.le_antisymm (bitsOfRatio_le positive positiveBelow)
          (not_lt.mp (mt (bitsOfRatio_lt_iff positive positiveBelow).mp fits))
      refine Or.inr ⟨not_lt.mp fits, ?_⟩
      rw [ofRatio, most]
      rfl

end CertApproval.Floating
