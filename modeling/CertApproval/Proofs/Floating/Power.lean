import CertApproval.Floating.Power
import CertApproval.Proofs.Floating.Order
import Mathlib.Algebra.Order.Ring.Pow

/-!
Powers of doubles. A power is carried on a significand that drops what it cannot hold, so it is
never above the exact one, and below it by a part that does not reach the digits of a double. Main
statement: a power of a double that is not below one exists if the exact power is rounded to a
finite double, and it does not if the exact one lies beyond all of them.
-/

namespace CertApproval.Floating

/-! ## Wide numbers -/

namespace Wide

/-- The number that a wide one denotes. -/
def toRat (x : Wide) : ℚ := x.significand * 2 ^ x.exponent

/-- What a wide significand keeps of a number at least. -/
def keptPart : ℚ := 1 - 1 / 2 ^ 255

theorem keptPart_pos : 0 < keptPart := by
  norm_num [keptPart]

theorem keptPart_le_one : keptPart ≤ 1 := by
  norm_num [keptPart]

theorem toRat_nonneg (x : Wide) : 0 ≤ x.toRat := by
  unfold toRat
  positivity

/-- A significand that is cut down to its width loses less than the last unit that it keeps, and so
a small part of itself. -/
theorem mul_keptPart_le {significand excess : Nat}
    (isExcess : Nat.log2 significand + 1 - wideBits = excess) :
    (significand : ℚ) * keptPart ≤ (significand / 2 ^ excess : Nat) * 2 ^ excess := by
  rcases Nat.eq_zero_or_pos excess with rfl | positive
  · simp only [pow_zero, Nat.div_one, mul_one]
    exact mul_le_of_le_one_right (Nat.cast_nonneg _) keptPart_le_one
  · have dropped : significand < significand / 2 ^ excess * 2 ^ excess + 2 ^ excess :=
      Nat.lt_div_mul_add (Nat.two_pow_pos excess)
    have long : 2 ^ 255 * 2 ^ excess ≤ significand := by
      rw [← Nat.pow_add]
      have length : 255 + excess = significand.log2 := by
        rw [wideBits] at isExcess
        omega
      rw [length]
      refine Nat.log2_self_le fun isZero => ?_
      rw [isZero, Nat.log2_zero] at length
      omega
    have droppedRat : (significand : ℚ) <
        (significand / 2 ^ excess : Nat) * 2 ^ excess + 2 ^ excess := by
      exact_mod_cast dropped
    have longRat : (2 : ℚ) ^ 255 * 2 ^ excess ≤ significand := by
      exact_mod_cast long
    have share : (2 : ℚ) ^ excess ≤ significand / 2 ^ 255 := by
      rw [le_div_iff₀ (by positivity), mul_comm]
      exact longRat
    have split : (significand : ℚ) * keptPart = significand - significand / 2 ^ 255 := by
      rw [keptPart]
      ring
    linarith

theorem narrow_bounds (x : Wide) :
    x.toRat * keptPart ≤ x.narrow.toRat ∧ x.narrow.toRat ≤ x.toRat := by
  obtain ⟨significand, exponent⟩ := x
  obtain ⟨excess, isExcess⟩ :
      ∃ excess, Nat.log2 significand + 1 - wideBits = excess := ⟨_, rfl⟩
  have narrowed : (narrow ⟨significand, exponent⟩).toRat =
      ((significand / 2 ^ excess : Nat) : ℚ) * 2 ^ excess * 2 ^ exponent := by
    simp only [narrow, toRat, isExcess, Nat.pow_eq]
    rw [zpow_add₀ two_ne_zero, Int.ofNat_eq_natCast, zpow_natCast]
    ring
  have unit : (0 : ℚ) ≤ 2 ^ exponent := by positivity
  have upper : ((significand / 2 ^ excess : Nat) : ℚ) * 2 ^ excess ≤ significand := by
    exact_mod_cast Nat.div_mul_le_self significand (2 ^ excess)
  rw [narrowed]
  refine ⟨?_, mul_le_mul_of_nonneg_right upper unit⟩
  calc toRat ⟨significand, exponent⟩ * keptPart
    _ = significand * keptPart * 2 ^ exponent := by
      rw [toRat]
      ring
    _ ≤ (significand / 2 ^ excess : Nat) * 2 ^ excess * 2 ^ exponent :=
      mul_le_mul_of_nonneg_right (mul_keptPart_le isExcess) unit

theorem mul_bounds (x y : Wide) :
    x.toRat * y.toRat * keptPart ≤ (x.mul y).toRat ∧ (x.mul y).toRat ≤ x.toRat * y.toRat := by
  have exact : (⟨x.significand * y.significand, x.exponent + y.exponent⟩ : Wide).toRat =
      x.toRat * y.toRat := by
    simp only [toRat, Nat.cast_mul, zpow_add₀ (two_ne_zero' ℚ)]
    ring
  rw [← exact]
  exact narrow_bounds _

/-- The square of a number keeps so much of it that a power of it is between powers of the
number. -/
theorem square_bounds (base : Wide) (half : Nat) :
    (base.toRat * keptPart ^ 2) ^ (2 * half) ≤ ((base.mul base).toRat * keptPart ^ 2) ^ half ∧
      (base.mul base).toRat ^ half ≤ base.toRat ^ (2 * half) := by
  obtain ⟨lower, upper⟩ := base.mul_bounds base
  have square := mul_nonneg base.toRat_nonneg base.toRat_nonneg
  have kept := keptPart_pos.le
  rw [pow_mul, pow_mul, pow_two base.toRat]
  refine ⟨pow_le_pow_left₀ (by positivity) ?_ half,
    pow_le_pow_left₀ (base.mul base).toRat_nonneg upper half⟩
  calc (base.toRat * keptPart ^ 2) ^ 2
    _ = base.toRat * base.toRat * keptPart * keptPart ^ 2 * keptPart := by ring
    _ ≤ base.toRat * base.toRat * keptPart * keptPart ^ 2 :=
      mul_le_of_le_one_right (by positivity) keptPart_le_one
    _ ≤ (base.mul base).toRat * keptPart ^ 2 :=
      mul_le_mul_of_nonneg_right lower (by positivity)

/-- A power is not above the exact one, and of every factor it keeps all but a small part. The
recursion squares the base and halves the exponent, so the bounds are for every base. -/
theorem power_bounds (base : Wide) {fuel exponent : Nat} (enough : exponent < 2 ^ fuel) :
    (base.toRat * keptPart ^ 2) ^ exponent ≤ (base.power fuel exponent).toRat ∧
      (base.power fuel exponent).toRat ≤ base.toRat ^ exponent := by
  induction fuel generalizing base exponent with
  | zero =>
      obtain rfl : exponent = 0 := by omega
      simp [power, toRat]
  | succ fuel inductionHypothesis =>
      obtain ⟨half, isHalf⟩ : ∃ half, exponent / 2 = half := ⟨_, rfl⟩
      have inRange : half < 2 ^ fuel := by omega
      obtain ⟨powerLower, powerUpper⟩ := inductionHypothesis (base.mul base) inRange
      obtain ⟨squareLower, squareUpper⟩ := base.square_bounds half
      have lower := squareLower.trans powerLower
      have upper := powerUpper.trans squareUpper
      rw [power, isHalf]
      split_ifs with none odd
      · simp [none, toRat]
      · obtain ⟨oddLower, oddUpper⟩ := base.mul_bounds ((base.mul base).power fuel half)
        obtain rfl : exponent = 2 * half + 1 := by omega
        have kept := keptPart_pos.le
        have nonneg := base.toRat_nonneg
        constructor
        · calc (base.toRat * keptPart ^ 2) ^ (2 * half + 1)
            _ = base.toRat * (base.toRat * keptPart ^ 2) ^ (2 * half) * keptPart * keptPart := by
              ring
            _ ≤ base.toRat * (base.toRat * keptPart ^ 2) ^ (2 * half) * keptPart :=
              mul_le_of_le_one_right (by positivity) keptPart_le_one
            _ ≤ base.toRat * ((base.mul base).power fuel half).toRat * keptPart := by
              gcongr
            _ ≤ (base.mul ((base.mul base).power fuel half)).toRat := oddLower
        · calc (base.mul ((base.mul base).power fuel half)).toRat
            _ ≤ base.toRat * ((base.mul base).power fuel half).toRat := oddUpper
            _ ≤ base.toRat * base.toRat ^ (2 * half) := mul_le_mul_of_nonneg_left upper nonneg
            _ = base.toRat ^ (2 * half + 1) := by ring
      · obtain rfl : exponent = 2 * half := by omega
        exact ⟨lower, upper⟩

/-- A wide number lies between the powers of two that its length tells. -/
theorem toRat_window {x : Wide} (positive : 0 < x.significand) :
    (2 : ℚ) ^ (x.exponent + Int.ofNat x.significand.log2) ≤ x.toRat ∧
      x.toRat < 2 ^ (x.exponent + Int.ofNat x.significand.log2 + 1) := by
  have unit : (0 : ℚ) < 2 ^ x.exponent := by positivity
  rw [add_comm x.exponent, add_right_comm, zpow_add₀ two_ne_zero, zpow_add₀ two_ne_zero, toRat]
  exact ⟨mul_le_mul_of_nonneg_right (two_zpow_log2_le positive) unit.le,
    mul_lt_mul_of_pos_right (lt_two_zpow_log2 _) unit⟩

/-- A wide number is turned into a finite double exactly if it is not too large. -/
theorem parts_toDouble {x : Wide} (positive : 0 < x.significand) (negative : Bool) :
    (x.toRat < roundingLimit ∧
      ∃ significand exponent,
        parts (x.toDouble negative false) = .finite negative significand exponent) ∨
    (roundingLimit ≤ x.toRat ∧ x.toDouble negative false = infinity negative) := by
  obtain ⟨low, high⟩ := toRat_window positive
  unfold toDouble
  simp only [Bool.false_eq_true, if_false]
  split_ifs with large small
  · rw [exponentLimit] at large
    exact Or.inr ⟨(roundingLimit_lt_two_zpow (by omega)).le.trans low, rfl⟩
  · rw [exponentLimit] at small
    refine Or.inl ⟨high.trans (two_zpow_lt_roundingLimit (by omega)), ?_⟩
    exact ⟨0, -1074, by cases negative <;> decide +kernel⟩
  · obtain ⟨numerator, denominator, scaled⟩ :
        ∃ numerator denominator, scale x.significand 1 x.exponent = (numerator, denominator) :=
      ⟨_, _, rfl⟩
    have ratio := scale_ratio x.significand 1 x.exponent
    have positiveBelow := @scale_pos x.significand 1 Nat.one_pos x.exponent
    rw [scaled, Nat.cast_one, div_one] at ratio
    rw [scaled] at positiveBelow ⊢
    rw [toRat, ← ratio]
    rcases parts_ofRatio negative numerator positiveBelow with finite | infinite
    · obtain ⟨fits, significand, exponent, isParts, _⟩ := finite
      exact Or.inl ⟨fits, significand, exponent, isParts⟩
    · exact Or.inr infinite

end Wide

/-! ## What a long power loses -/

/-- A number that is above one by a part comes to any power of two in as many steps as the part
takes to double it. -/
theorem two_pow_le_pow {part : ℚ} (nonneg : 0 ≤ part) {steps count exponent : Nat}
    (doubles : 1 ≤ steps * part) (enough : steps * count ≤ exponent) :
    (2 : ℚ) ^ count ≤ (1 + part) ^ exponent := by
  have doubled : 2 ≤ (1 + part) ^ steps := by
    have bernoulli := one_add_mul_le_pow (a := part) (by linarith) steps
    linarith
  calc (2 : ℚ) ^ count
    _ ≤ ((1 + part) ^ steps) ^ count := pow_le_pow_left₀ two_pos.le doubled count
    _ = (1 + part) ^ (steps * count) := (pow_mul _ _ _).symm
    _ ≤ (1 + part) ^ exponent := pow_le_pow_right₀ (by linarith) enough

/-- A power beyond all doubles is still too large after what a wide significand drops. If the
exponent is small then less is dropped than what lies between the limit and the power of two; if
it is large then the base still grows by half of its last place after each loss. -/
theorem roundingLimit_le_kept {base : ℚ} (apart : base = 1 ∨ 1 + 1 / 2 ^ 52 ≤ base)
    {exponent : Nat} (large : (2 : ℚ) ^ (1024 : Int) ≤ base ^ exponent) :
    roundingLimit ≤ (base * Wide.keptPart ^ 2) ^ exponent := by
  have above : 1 < (2 : ℚ) ^ (1024 : Int) := one_lt_zpow₀ one_lt_two (by norm_num)
  have positive : 0 < base := by
    rcases apart with rfl | more
    · exact one_pos
    · linarith [show (0 : ℚ) < 1 / 2 ^ 52 by positivity]
  by_cases short : exponent ≤ 2 ^ 199
  · have shortRat : (exponent : ℚ) ≤ 2 ^ 199 := by
      exact_mod_cast short
    have kept : 1 - 1 / 2 ^ 54 ≤ (Wide.keptPart ^ 2) ^ exponent := by
      have bernoulli := one_add_mul_le_pow (a := -(1 / 2 ^ 255 : ℚ)) (by norm_num) (2 * exponent)
      rw [← pow_mul, Wide.keptPart, sub_eq_add_neg 1 (1 / 2 ^ 255 : ℚ)]
      refine le_trans ?_ bernoulli
      push_cast
      linarith
    have limit : roundingLimit = 2 ^ (1024 : Int) * (1 - 1 / 2 ^ 54) := by
      have unit : (2 : ℚ) ^ (1024 : Int) = 2 ^ (53 : Int) * 2 ^ (971 : Int) :=
        zpow_add₀ two_ne_zero 53 971
      have bits : (2 : ℚ) ^ (53 : Int) = 2 ^ 53 := by norm_num
      rw [roundingLimit_eq, unit, bits]
      ring
    rw [limit, mul_pow]
    exact mul_le_mul large kept (by norm_num) (pow_nonneg positive.le _)
  · have more : 1 + 1 / 2 ^ 52 ≤ base := by
      refine apart.resolve_left fun isOne => ?_
      rw [isOne, one_pow] at large
      exact absurd large (not_le.mpr above)
    have grows : 1 + 1 / 2 ^ 53 ≤ base * Wide.keptPart ^ 2 :=
      calc (1 : ℚ) + 1 / 2 ^ 53
        _ ≤ (1 + 1 / 2 ^ 52) * Wide.keptPart ^ 2 := by norm_num [Wide.keptPart]
        _ ≤ base * Wide.keptPart ^ 2 := mul_le_mul_of_nonneg_right more (sq_nonneg _)
    have doubles : (1 : ℚ) ≤ (2 ^ 53 : Nat) * (1 / 2 ^ 53) := by norm_num
    calc roundingLimit
      _ ≤ 2 ^ (1024 : Int) := (roundingLimit_lt_two_zpow le_rfl).le
      _ = 2 ^ 1024 := zpow_ofNat 2 1024
      _ ≤ (1 + 1 / 2 ^ 53) ^ exponent := two_pow_le_pow (by positivity) doubles (by omega)
      _ ≤ (base * Wide.keptPart ^ 2) ^ exponent := pow_le_pow_left₀ (by positivity) grows exponent

/-! ## Powers of doubles -/

theorem significand_lt {x : Double} {negative : Bool} {significand : Nat} {exponent : Int}
    (isParts : parts x = .finite negative significand exponent) : significand < 2 ^ 53 := by
  have fraction := Nat.mod_lt x.bits.toNat (Nat.two_pow_pos 52)
  unfold parts at isParts
  simp only [Nat.pow_eq] at isParts
  split_ifs at isParts <;> simp only [Parts.finite.injEq] at isParts <;> omega

/-- A double that denotes a positive number is taken apart as it. -/
theorem parts_of_pos {x : Double} (positive : 0 < x.toRat) :
    ∃ significand exponent, parts x = .finite false significand exponent ∧ 0 < significand ∧
      significand < 2 ^ 53 ∧ x.toRat = significand * 2 ^ exponent := by
  unfold Double.toRat at positive ⊢
  cases isParts : parts x with
  | finite negative significand exponent =>
      have nonneg : (0 : ℚ) ≤ significand * 2 ^ exponent := by positivity
      cases negative with
      | true =>
          simp only [isParts, if_true] at positive
          linarith
      | false =>
          have nonzero : significand ≠ 0 := by
            rintro rfl
            simp [isParts] at positive
          exact ⟨significand, exponent, rfl, Nat.pos_of_ne_zero nonzero, significand_lt isParts,
            by simp⟩
  | infinite negative | undefined =>
      simp [isParts] at positive

/-- A double above one is above it by a part that is not small. -/
theorem toRat_apart {x : Double} (atLeast : 1 ≤ x.toRat) :
    x.toRat = 1 ∨ 1 + 1 / 2 ^ 52 ≤ x.toRat := by
  obtain ⟨significand, exponent, _, _, short, value⟩ := parts_of_pos (one_pos.trans_le atLeast)
  rw [value] at atLeast ⊢
  rcases eq_or_lt_of_le atLeast with isOne | more
  · exact Or.inl isOne.symm
  · refine Or.inr ?_
    rcases Int.le_total 0 exponent with nonneg | nonpos
    · obtain ⟨power, rfl⟩ := Int.eq_ofNat_of_zero_le nonneg
      have two : 2 ≤ significand * 2 ^ power := by
        rw [zpow_natCast] at more
        exact_mod_cast more
      have twoRat : (2 : ℚ) ≤ significand * 2 ^ (power : Int) := by
        rw [zpow_natCast]
        exact_mod_cast two
      exact le_trans (by norm_num) twoRat
    · obtain ⟨places, isPlaces⟩ := Int.eq_ofNat_of_zero_le (Int.neg_nonneg.mpr nonpos)
      obtain rfl : exponent = -(places : Int) := by omega
      have unit : (0 : ℚ) < 2 ^ places := by positivity
      rw [zpow_neg, zpow_natCast, ← div_eq_mul_inv] at more ⊢
      rw [lt_div_iff₀ unit, one_mul] at more
      have whole : 2 ^ places + 1 ≤ significand := by
        exact_mod_cast more
      have few : places ≤ 52 := by
        have fewer := (Nat.pow_lt_pow_iff_right Nat.one_lt_two).mp (Nat.lt_trans whole short)
        omega
      have wholeRat : (2 : ℚ) ^ places + 1 ≤ significand := by
        exact_mod_cast whole
      calc (1 : ℚ) + 1 / 2 ^ 52
        _ ≤ 1 + 1 / 2 ^ places := by
          gcongr
          exact one_le_two
        _ = (2 ^ places + 1) / 2 ^ places := by
          field_simp
        _ ≤ significand / 2 ^ places := div_le_div_of_nonneg_right wholeRat unit.le

/-- A power of a positive double is rounded from a wide one, which is close to the exact power. -/
theorem power?_wide {base : Double} (positive : 0 < base.toRat) {exponent : Nat}
    (nonzero : exponent ≠ 0) :
    ∃ wide : Wide, 0 < wide.significand ∧
      (base.toRat * Wide.keptPart ^ 2) ^ exponent ≤ wide.toRat ∧
      wide.toRat ≤ base.toRat ^ exponent ∧
      power? base exponent =
        if isFinite (wide.toDouble false false) then some (wide.toDouble false false)
        else none := by
  obtain ⟨significand, binaryExponent, isParts, significandPos, _, value⟩ := parts_of_pos positive
  have notZero : ¬(exponent : Int) = 0 := by omega
  have notNegative : decide ((exponent : Int) < 0) = false := by
    simp
  obtain ⟨lower, upper⟩ :=
    (⟨significand, binaryExponent⟩ : Wide).power_bounds (Nat.lt_log2_self (n := exponent))
  have base_eq : (⟨significand, binaryExponent⟩ : Wide).toRat = base.toRat := value.symm
  rw [base_eq] at lower upper
  refine ⟨_, ?_, lower, upper, ?_⟩
  · have kept : 0 < base.toRat * Wide.keptPart ^ 2 :=
      mul_pos positive (pow_pos Wide.keptPart_pos 2)
    have widePos := (pow_pos kept exponent).trans_le lower
    refine Nat.pos_of_ne_zero fun isZero => ?_
    rw [Wide.toRat, isZero, Nat.cast_zero, zero_mul] at widePos
    exact lt_irrefl _ widePos
  · unfold power?
    rw [if_neg notZero]
    simp only [isParts]
    rw [if_neg significandPos.ne', notNegative]
    rfl

/-- A power of a double that is not below one exists, and is not negative, if the exact power is
not too large to be rounded. -/
theorem power?_of_lt {base : Double} (atLeast : 1 ≤ base.toRat) {exponent : Nat}
    (fits : base.toRat ^ exponent < roundingLimit) :
    ∃ growth significand binaryExponent, power? base exponent = some growth ∧
      parts growth = .finite false significand binaryExponent := by
  rcases Nat.eq_zero_or_pos exponent with rfl | nonzero
  · exact ⟨ofRatio false 1 1, 2 ^ 52, -52, rfl, by decide +kernel⟩
  · obtain ⟨wide, positive, _, upper, isPower⟩ :=
      power?_wide (one_pos.trans_le atLeast) nonzero.ne'
    rcases Wide.parts_toDouble positive false with finite | infinite
    · obtain ⟨_, significand, binaryExponent, isParts⟩ := finite
      refine ⟨wide.toDouble false false, significand, binaryExponent, ?_, isParts⟩
      rw [isPower, if_pos]
      rw [isFinite, isParts]
    · exact absurd (upper.trans_lt fits) (not_lt.mpr infinite.1)

/-- A power of a double has no double if the exact power lies beyond all of them. -/
theorem power?_eq_none {base : Double} (atLeast : 1 ≤ base.toRat) {exponent : Nat}
    (large : (2 : ℚ) ^ (1024 : Int) ≤ base.toRat ^ exponent) : power? base exponent = none := by
  have nonzero : exponent ≠ 0 := by
    rintro rfl
    rw [pow_zero] at large
    exact absurd large (not_le.mpr (one_lt_zpow₀ one_lt_two (by norm_num)))
  obtain ⟨wide, positive, lower, _, isPower⟩ := power?_wide (one_pos.trans_le atLeast) nonzero
  have beyond := (roundingLimit_le_kept (toRat_apart atLeast) large).trans lower
  rcases Wide.parts_toDouble positive false with finite | infinite
  · exact absurd finite.1 (not_lt.mpr beyond)
  · rw [isPower, infinite.2, if_neg]
    rw [isFinite, parts_infinity]
    exact Bool.false_ne_true

end CertApproval.Floating
