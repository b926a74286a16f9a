import CertApproval.Floating.Arithmetic
import CertApproval.Proofs.Floating.Range

/-!
The order of doubles. Main statements: finite doubles are in the order of the numbers that they
denote; and the product of two doubles that are not negative is not negative, though it may be
infinite.
-/

namespace CertApproval.Floating

/-- The number that a finite double denotes. -/
def Double.toRat (x : Double) : ℚ :=
  match parts x with
  | .finite negative significand exponent =>
      (if negative then -1 else 1) * (significand * 2 ^ exponent)
  | .infinite _ | .undefined => 0

theorem isFinite_iff {x : Double} :
    isFinite x = true ↔
      ∃ negative significand exponent, parts x = .finite negative significand exponent := by
  unfold isFinite
  cases parts x <;> simp

variable {x y : Double}

/-! ## Comparing -/

theorem units_mul {exponent unit : Int} (fine : unit ≤ exponent) (negative : Bool)
    (significand : Nat) :
    (units negative significand exponent unit : ℚ) * 2 ^ unit =
      (if negative then -1 else 1) * (significand * 2 ^ exponent) := by
  obtain ⟨power, isPower⟩ := Int.eq_ofNat_of_zero_le (Int.sub_nonneg.mpr fine)
  obtain rfl : exponent = unit + power := by omega
  have size : (units negative significand (unit + power) unit : ℚ) =
      (if negative then -1 else 1) * (significand * 2 ^ power) := by
    rw [units, isPower]
    cases negative <;> simp
  rw [size, zpow_add₀ two_ne_zero, zpow_natCast]
  ring

/-- Finite doubles are compared as whole numbers of one unit. -/
theorem compare?_of_finite (finite : isFinite x = true) (finiteOther : isFinite y = true) :
    ∃ (size other : Int) (unit : ℚ), 0 < unit ∧ x.toRat = size * unit ∧ y.toRat = other * unit ∧
      Double.compare? x y = some (compare size other) := by
  obtain ⟨negative, significand, exponent, isParts⟩ := isFinite_iff.mp finite
  obtain ⟨negativeOther, significandOther, exponentOther, isPartsOther⟩ :=
    isFinite_iff.mp finiteOther
  refine ⟨units negative significand exponent (min exponent exponentOther),
    units negativeOther significandOther exponentOther (min exponent exponentOther),
    2 ^ min exponent exponentOther, by positivity, ?_, ?_, ?_⟩
  · rw [units_mul (min_le_left _ _), Double.toRat, isParts]
  · rw [units_mul (min_le_right _ _), Double.toRat, isPartsOther]
  · simp only [Double.compare?, isParts, isPartsOther]

theorem lt_iff_toRat (finite : isFinite x = true) (finiteOther : isFinite y = true) :
    x < y ↔ x.toRat < y.toRat := by
  obtain ⟨size, other, unit, positive, value, valueOther, compared⟩ :=
    compare?_of_finite finite finiteOther
  rw [value, valueOther, mul_lt_mul_iff_of_pos_right positive, Int.cast_lt]
  change decide (Double.compare? x y = some .lt) = true ↔ _
  rw [compared, decide_eq_true_iff, Option.some.injEq, compare_lt_iff_lt]

theorem le_iff_toRat (finite : isFinite x = true) (finiteOther : isFinite y = true) :
    x ≤ y ↔ x.toRat ≤ y.toRat := by
  obtain ⟨size, other, unit, positive, value, valueOther, compared⟩ :=
    compare?_of_finite finite finiteOther
  rw [value, valueOther, mul_le_mul_iff_of_pos_right positive, Int.cast_le, le_iff_lt_or_eq]
  change (decide (Double.compare? x y = some .lt) || decide (Double.compare? x y = some .eq)) =
    true ↔ _
  rw [compared, Bool.or_eq_true, decide_eq_true_iff, decide_eq_true_iff, Option.some.injEq,
    Option.some.injEq, compare_lt_iff_lt, compare_eq_iff_eq]

theorem not_lt_iff_le (finite : isFinite x = true) (finiteOther : isFinite y = true) :
    ¬x < y ↔ y ≤ x := by
  rw [lt_iff_toRat finite finiteOther, le_iff_toRat finiteOther finite, not_lt]

theorem lt_infinity (finite : isFinite x = true) : x < infinity false := by
  obtain ⟨negative, significand, exponent, isParts⟩ := isFinite_iff.mp finite
  change decide (Double.compare? x (infinity false) = some .lt) = true
  rw [Double.compare?, isParts, parts_infinity]
  rfl

theorem isFinite_zero : isFinite 0 = true := by
  decide +kernel

theorem isFinite_one : isFinite 1 = true := by
  decide +kernel

theorem toRat_zero : (0 : Double).toRat = 0 := by
  have isParts : parts 0 = .finite false 0 (-1074) := by decide +kernel
  rw [Double.toRat, isParts]
  simp

theorem nonneg_iff (finite : isFinite x = true) : 0 ≤ x ↔ 0 ≤ x.toRat := by
  rw [le_iff_toRat isFinite_zero finite, toRat_zero]

theorem toRat_one : (1 : Double).toRat = 1 := by
  have isParts : parts 1 = .finite false (2 ^ 52) (-52) := by decide +kernel
  rw [Double.toRat, isParts]
  norm_num

/-! ## Multiplying -/

theorem toRat_of_parts {negative : Bool} {significand : Nat} {exponent : Int}
    (isParts : parts x = .finite negative significand exponent) :
    x.toRat = (if negative then -1 else 1) * (significand * 2 ^ exponent) := by
  rw [Double.toRat, isParts]

/-- A finite double that is not negative has no sign, unless it is zero. -/
theorem significand_eq_zero (nonneg : 0 ≤ x.toRat) {significand : Nat} {exponent : Int}
    (isParts : parts x = .finite true significand exponent) : significand = 0 := by
  rw [toRat_of_parts isParts, if_pos rfl] at nonneg
  have unit : (0 : ℚ) < 2 ^ exponent := by positivity
  have atMost : (significand : ℚ) ≤ 0 := nonpos_of_mul_nonpos_left (by linarith) unit
  exact Nat.le_zero.mp (by exact_mod_cast atMost)

/-- The product of a finite double that is not negative with one that has no sign is not negative,
though it may be infinite. -/
theorem mul_of_nonneg (finite : isFinite x = true) (nonneg : 0 ≤ x)
    {significandOther : Nat} {exponentOther : Int}
    (isPartsOther : parts y = .finite false significandOther exponentOther) :
    isFinite (x * y) = true ∧ 0 ≤ x * y ∨ x * y = infinity false := by
  obtain ⟨negative, significand, exponent, isParts⟩ := isFinite_iff.mp finite
  obtain ⟨numerator, denominator, scaled⟩ : ∃ numerator denominator,
      scale (significand * significandOther) 1 (exponent + exponentOther) =
        (numerator, denominator) := ⟨_, _, rfl⟩
  have product : x * y = ofRatio negative numerator denominator := by
    change Double.mul x y = _
    rw [Double.mul, isParts, isPartsOther]
    simp only [scaled, Bool.bne_false]
  have positiveBelow := @scale_pos (significand * significandOther) 1 Nat.one_pos
    (exponent + exponentOther)
  rw [scaled] at positiveBelow
  have unsigned (isNegative : negative = true) : numerator = 0 := by
    subst isNegative
    rw [significand_eq_zero ((nonneg_iff finite).mp nonneg) isParts, Nat.zero_mul] at scaled
    unfold scale at scaled
    split_ifs at scaled <;> simp only [Nat.zero_mul, Prod.mk.injEq] at scaled <;> omega
  rw [product]
  rcases parts_ofRatio negative numerator positiveBelow with finiteProduct | infinite
  · obtain ⟨_, size, binaryExponent, isProduct, isZero⟩ := finiteProduct
    have isFiniteProduct := isFinite_iff.mpr ⟨_, _, _, isProduct⟩
    refine Or.inl ⟨isFiniteProduct, ?_⟩
    rw [nonneg_iff isFiniteProduct, toRat_of_parts isProduct]
    cases negative with
    | false =>
        simp only [Bool.false_eq_true, if_false, one_mul]
        positivity
    | true =>
        simp [isZero (unsigned rfl)]
  · obtain ⟨large, isInfinite⟩ := infinite
    cases negative with
    | false =>
        exact Or.inr isInfinite
    | true =>
        rw [unsigned rfl, Nat.cast_zero, zero_div] at large
        exact absurd large (not_le.mpr roundingLimit_pos)

end CertApproval.Floating
