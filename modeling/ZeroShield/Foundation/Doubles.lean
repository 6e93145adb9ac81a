import Mathlib.Algebra.Order.Field.Power
import Mathlib.Data.Int.Log
import Mathlib.Tactic.Positivity
import ZeroShield.Foundation.Rounding

/-!
# Doubles

A number with a fraction is held with fifty-three binary digits.  What is read or computed is
rounded to the nearest of these numbers, a midpoint to the one whose last digit is even.
-/

namespace ZeroShield.Foundation

/-- The weight of the last binary digit with which a value is held. -/
def lastPlace (value : ℚ) : ℚ :=
  2 ^ (max (Int.log 2 |value|) (-1022) - 52)

/-- The double nearest to a value whose magnitude is in range. -/
def nearestDouble (value : ℚ) : ℚ :=
  roundHalfEven (value / lastPlace value) * lastPlace value

/-- A value in range which is held as it is. -/
def IsDouble (value : ℚ) : Prop :=
  ∃ (digits : ℕ) (exponent : ℤ), digits ≤ 2 ^ 53 ∧ -1074 ≤ exponent ∧
    |value| = digits * 2 ^ exponent

variable {value lower higher : ℚ}

theorem roundHalfEven_intCast (number : ℤ) : roundHalfEven number = number :=
  le_antisymm (roundHalfEven_le.mpr (Or.inl (by linarith)))
    (le_roundHalfEven.mpr (Or.inl (by linarith)))

theorem lastPlace_pos (value : ℚ) : 0 < lastPlace value :=
  zpow_pos (by norm_num) _

/-- Rounding keeps the order to every number of last places. -/
theorem le_nearestDouble {number : ℤ} (reached : number * lastPlace value ≤ value) :
    number * lastPlace value ≤ nearestDouble value := by
  have positive := lastPlace_pos value
  have rounded := roundHalfEven_mono ((le_div_iff₀ positive).mpr reached)
  rw [roundHalfEven_intCast] at rounded
  exact mul_le_mul_of_nonneg_right (by exact_mod_cast rounded) positive.le

theorem nearestDouble_le {number : ℤ} (reached : value ≤ number * lastPlace value) :
    nearestDouble value ≤ number * lastPlace value := by
  have positive := lastPlace_pos value
  have rounded := roundHalfEven_mono ((div_le_iff₀ positive).mpr reached)
  rw [roundHalfEven_intCast] at rounded
  exact mul_le_mul_of_nonneg_right (by exact_mod_cast rounded) positive.le

theorem nearestDouble_eq_self {number : ℤ} (held : value = number * lastPlace value) :
    nearestDouble value = value := by
  have above := nearestDouble_le held.le
  have below := le_nearestDouble held.ge
  rw [← held] at above below
  exact le_antisymm above below

/-- A power of two which is not smaller than a last place is a number of last places. -/
theorem exists_mul_lastPlace {exponent : ℤ}
    (large : max (Int.log 2 |value|) (-1022) - 52 ≤ exponent) :
    ∃ number : ℕ, (2 : ℚ) ^ exponent = number * lastPlace value := by
  obtain ⟨places, rest⟩ := Int.eq_ofNat_of_zero_le (sub_nonneg.mpr large)
  refine ⟨2 ^ places, ?_⟩
  rw [lastPlace, Nat.cast_pow, Nat.cast_ofNat, ← zpow_natCast, ← zpow_add₀ (by norm_num)]
  congr 1
  omega

theorem nearestDouble_of_isDouble (held : IsDouble value) : nearestDouble value = value := by
  obtain ⟨digits, exponent, few, small, written⟩ := held
  suffices ∃ number : ℕ, |value| = number * lastPlace value by
    obtain ⟨number, counted⟩ := this
    rcases abs_choice value with same | negated
    · exact @nearestDouble_eq_self _ number (by rw [Int.cast_natCast, ← counted, same])
    · refine @nearestDouble_eq_self _ (-number) ?_
      rw [Int.cast_neg, Int.cast_natCast, neg_mul, ← counted, negated, neg_neg]
  rcases Nat.eq_zero_or_pos digits with rfl | positive
  · exact ⟨0, by rw [written]; simp⟩
  have magnitude : 0 < |value| := by
    rw [written]
    positivity
  rcases le_or_gt (max (Int.log 2 |value|) (-1022) - 52) exponent with large | beyond
  · obtain ⟨number, counted⟩ := exists_mul_lastPlace large
    exact ⟨digits * number, by rw [written, counted, Nat.cast_mul, mul_assoc]⟩
  · -- A last place above the exponent leaves room for the next power of two alone.
    have bound : |value| ≤ (2 : ℚ) ^ (exponent + 53) := by
      rw [written, zpow_add₀ (by norm_num), mul_comm]
      exact mul_le_mul_of_nonneg_left (by exact_mod_cast few) (by positivity)
    have order : exponent + 53 ≤ Int.log 2 |value| := by omega
    obtain ⟨number, counted⟩ := @exists_mul_lastPlace value (exponent + 53) (by
      have upper : Int.log 2 |value| ≤ Int.log 2 ((2 : ℚ) ^ (exponent + 53)) :=
        Int.log_mono_right magnitude bound
      have same := Int.log_zpow (R := ℚ) (b := 2) (by decide) (exponent + 53)
      rw [Nat.cast_ofNat] at same
      omega)
    refine ⟨number, counted ▸ le_antisymm bound ?_⟩
    exact_mod_cast (Int.zpow_le_iff_le_log (b := 2) (by decide) magnitude).mpr order

theorem isDouble_natCast {number : ℕ} (few : number ≤ 2 ^ 53) : IsDouble number :=
  ⟨number, 0, few, by decide, by simp⟩

theorem IsDouble.mul_two_pow (held : IsDouble value) (places : ℕ) :
    IsDouble (value * 2 ^ places) := by
  obtain ⟨digits, exponent, few, small, written⟩ := held
  refine ⟨digits, exponent + places, few, by omega, ?_⟩
  rw [abs_mul, written, abs_of_pos (by positivity : (0 : ℚ) < 2 ^ places), mul_assoc,
    zpow_add₀ (by norm_num), zpow_natCast]

theorem nearestDouble_zero : nearestDouble 0 = 0 := by
  exact_mod_cast nearestDouble_of_isDouble (isDouble_natCast (Nat.zero_le _))

/-- Rounding keeps the order of values which are not negative. -/
theorem nearestDouble_mono (nonneg : 0 ≤ lower) (ordered : lower ≤ higher) :
    nearestDouble lower ≤ nearestDouble higher := by
  rcases nonneg.eq_or_lt with rfl | positive
  · rw [nearestDouble_zero]
    simpa using @le_nearestDouble higher 0 (by simpa using ordered)
  have larger : 0 < higher := positive.trans_le ordered
  have orders := Int.log_mono_right (b := 2) positive ordered
  by_cases same : max (Int.log 2 lower) (-1022) = max (Int.log 2 higher) (-1022)
  · have places : lastPlace lower = lastPlace higher := by
      rw [lastPlace, lastPlace, abs_of_pos positive, abs_of_pos larger, same]
    have scaled : lower / lastPlace higher ≤ higher / lastPlace higher :=
      div_le_div_of_nonneg_right ordered (lastPlace_pos higher).le
    rw [nearestDouble, nearestDouble, places]
    exact mul_le_mul_of_nonneg_right (by exact_mod_cast roundHalfEven_mono scaled)
      (lastPlace_pos higher).le
  · -- The values are on two sides of a power of two, which is a double.
    have less : Int.log 2 lower < Int.log 2 higher := by omega
    have below : lower ≤ (2 : ℚ) ^ Int.log 2 higher := by
      exact_mod_cast ((Int.lt_zpow_iff_log_lt (b := 2) (by decide) positive).mpr less).le
    have above : (2 : ℚ) ^ Int.log 2 higher ≤ higher := by
      exact_mod_cast Int.zpow_log_le_self (by decide) larger
    obtain ⟨few, lowerPlaces⟩ := @exists_mul_lastPlace lower (Int.log 2 higher) (by
      rw [abs_of_pos positive]
      omega)
    obtain ⟨many, higherPlaces⟩ := @exists_mul_lastPlace higher (Int.log 2 higher) (by
      rw [abs_of_pos larger]
      omega)
    calc nearestDouble lower ≤ (few : ℤ) * lastPlace lower :=
          nearestDouble_le (by rw [Int.cast_natCast, ← lowerPlaces]; exact below)
      _ = (many : ℤ) * lastPlace higher := by
          rw [Int.cast_natCast, Int.cast_natCast, ← lowerPlaces, higherPlaces]
      _ ≤ nearestDouble higher :=
          le_nearestDouble (by rw [Int.cast_natCast, ← higherPlaces]; exact above)

/-- Values which are not negative are rounded up to at most twice themselves. -/
theorem nearestDouble_le_two_mul (nonneg : 0 ≤ value) : nearestDouble value ≤ 2 * value := by
  have positive := lastPlace_pos value
  have scaled : 0 ≤ value / lastPlace value := div_nonneg nonneg positive.le
  suffices (roundHalfEven (value / lastPlace value) : ℚ) ≤ 2 * (value / lastPlace value) by
    calc nearestDouble value ≤ 2 * (value / lastPlace value) * lastPlace value :=
          mul_le_mul_of_nonneg_right this positive.le
      _ = 2 * value := by rw [mul_assoc, div_mul_cancel₀ _ positive.ne']
  rcases le_or_gt (roundHalfEven (value / lastPlace value)) 0 with none | some
  · calc (roundHalfEven (value / lastPlace value) : ℚ) ≤ 0 := by exact_mod_cast none
      _ ≤ 2 * (value / lastPlace value) := by positivity
  · have above := le_roundHalfEven.mp (le_refl (roundHalfEven (value / lastPlace value)))
    have one : (1 : ℚ) ≤ roundHalfEven (value / lastPlace value) := by exact_mod_cast some
    rcases above with near | ⟨midpoint, -⟩ <;> linarith

/-- Values are rounded down by less than half of what they are rounded to. -/
theorem le_nearestDouble_mul (rounded : 0 < nearestDouble value) :
    value ≤ 3 / 2 * nearestDouble value := by
  have positive := lastPlace_pos value
  have some : 0 < roundHalfEven (value / lastPlace value) := by
    exact_mod_cast (mul_pos_iff_of_pos_right positive).mp rounded
  have one : (1 : ℚ) ≤ roundHalfEven (value / lastPlace value) := by exact_mod_cast some
  have below := roundHalfEven_le.mp (le_refl (roundHalfEven (value / lastPlace value)))
  have scaled : value / lastPlace value ≤ 3 / 2 * roundHalfEven (value / lastPlace value) := by
    rcases below with near | ⟨midpoint, -⟩ <;> linarith
  rw [nearestDouble, ← mul_assoc]
  exact (div_le_iff₀ positive).mp scaled

/-- A value which is not negative is rounded to zero or to more than its hundredth part is. -/
theorem nearestDouble_div_lt (nonneg : 0 ≤ value) (rounded : nearestDouble value ≠ 0) :
    nearestDouble (value / 100) < nearestDouble value := by
  have positive : 0 < nearestDouble value := by
    refine lt_of_le_of_ne ?_ rounded.symm
    simpa [nearestDouble_zero] using nearestDouble_mono le_rfl nonneg
  have below := nearestDouble_le_two_mul (div_nonneg nonneg (by norm_num : (0 : ℚ) ≤ 100))
  have above := le_nearestDouble_mul positive
  linarith

theorem pos_of_normal (normal : 2 ^ (-1022 : ℤ) ≤ value) : 0 < value :=
  lt_of_lt_of_le (by positivity) normal

theorem le_log_of_normal (normal : 2 ^ (-1022 : ℤ) ≤ value) : -1022 ≤ Int.log 2 value :=
  (Int.zpow_le_iff_le_log (b := 2) (by decide) (pos_of_normal normal)).mp (by exact_mod_cast normal)

/-- A value which is not too small has fifty-three binary digits. -/
theorem lastPlace_of_normal (normal : 2 ^ (-1022 : ℤ) ≤ value) :
    lastPlace value = 2 ^ (Int.log 2 value - 52) := by
  rw [lastPlace, abs_of_pos (pos_of_normal normal), max_eq_left (le_log_of_normal normal)]

theorem lastPlace_le (normal : 2 ^ (-1022 : ℤ) ≤ value) : 2 ^ 52 * lastPlace value ≤ value := by
  have own := Int.zpow_log_le_self (b := 2) (by decide) (pos_of_normal normal)
  rw [Nat.cast_ofNat] at own
  rw [lastPlace_of_normal normal, ← zpow_natCast, ← zpow_add₀ (by norm_num)]
  rwa [show ((52 : ℕ) : ℤ) + (Int.log 2 value - 52) = Int.log 2 value by omega]

theorem le_lastPlace (normal : 2 ^ (-1022 : ℤ) ≤ value) : value ≤ 2 ^ 53 * lastPlace value := by
  have own := Int.lt_zpow_succ_log_self (b := 2) (by decide) value
  rw [Nat.cast_ofNat] at own
  rw [lastPlace_of_normal normal, ← zpow_natCast, ← zpow_add₀ (by norm_num)]
  rw [show ((53 : ℕ) : ℤ) + (Int.log 2 value - 52) = Int.log 2 value + 1 by omega]
  exact own.le

/-- A value is rounded to a number of last places, which is at most half of one above it. -/
theorem exists_digits (normal : 2 ^ (-1022 : ℤ) ≤ value) : ∃ digits : ℕ, digits ≤ 2 ^ 53 ∧
    nearestDouble value = digits * lastPlace value ∧
      digits * lastPlace value ≤ value + lastPlace value / 2 := by
  have unit := lastPlace_pos value
  have scaled : 0 ≤ value / lastPlace value :=
    div_nonneg (pos_of_normal normal).le unit.le
  obtain ⟨digits, counted⟩ : ∃ digits : ℕ, roundHalfEven (value / lastPlace value) = digits := by
    refine Int.eq_ofNat_of_zero_le (le_roundHalfEven.mpr (Or.inl ?_))
    push_cast
    linarith
  refine ⟨digits, ?_, by rw [nearestDouble, counted, Int.cast_natCast], ?_⟩
  · have bound : roundHalfEven (value / lastPlace value) ≤ 2 ^ 53 := by
      refine roundHalfEven_le.mpr (Or.inl ?_)
      have within := (div_le_iff₀ unit).mpr (le_lastPlace normal)
      push_cast
      linarith
    rw [counted] at bound
    exact_mod_cast bound
  · have near : (digits : ℚ) ≤ value / lastPlace value + 1 / 2 := by
      have below := le_roundHalfEven.mp counted.ge
      push_cast at below
      rcases below with below | ⟨midpoint, -⟩ <;> linarith
    calc (digits : ℚ) * lastPlace value ≤ (value / lastPlace value + 1 / 2) * lastPlace value :=
          mul_le_mul_of_nonneg_right near unit.le
      _ = value + lastPlace value / 2 := by
          rw [add_mul, div_mul_cancel₀ _ unit.ne']
          ring

/-- The next even number of last places is a double. -/
theorem isDouble_nextEven {digits : ℕ} (normal : 2 ^ (-1022 : ℤ) ≤ value)
    (few : digits ≤ 2 ^ 53) : IsDouble ((digits / 2 + 1 : ℕ) * (2 * lastPlace value)) := by
  have large := le_log_of_normal normal
  have unit := lastPlace_pos value
  refine ⟨digits / 2 + 1, Int.log 2 value - 51, by omega, by omega, ?_⟩
  rw [abs_of_nonneg (by positivity), lastPlace_of_normal normal, ← zpow_one_add₀ (by norm_num)]
  congr 2
  omega

/-- Values which are far enough apart for fifty binary digits are told apart. -/
theorem nearestDouble_lt (normal : 2 ^ (-1022 : ℤ) ≤ lower)
    (apart : lower * (1 + 1 / 2 ^ 50) ≤ higher) : nearestDouble lower < nearestDouble higher := by
  have unit := lastPlace_pos lower
  have reached := lastPlace_le normal
  obtain ⟨digits, few, rounded, near⟩ := exists_digits normal
  -- Two last places above are still fewer than the values are apart.
  have halves : (digits : ℚ) < (digits / 2 + 1 : ℕ) * 2 ∧
      ((digits / 2 + 1 : ℕ) : ℚ) * 2 ≤ digits + 2 := by
    constructor <;> norm_cast <;> omega
  calc nearestDouble lower < (digits / 2 + 1 : ℕ) * (2 * lastPlace lower) := by
        rw [rounded, ← mul_assoc]
        exact mul_lt_mul_of_pos_right halves.1 unit
    _ = nearestDouble ((digits / 2 + 1 : ℕ) * (2 * lastPlace lower)) :=
        (nearestDouble_of_isDouble (isDouble_nextEven normal few)).symm
    _ ≤ nearestDouble higher := by
        refine nearestDouble_mono (by positivity) ?_
        calc ((digits / 2 + 1 : ℕ) : ℚ) * (2 * lastPlace lower) ≤
          (digits + 2) * lastPlace lower := by
              rw [← mul_assoc]
              exact mul_le_mul_of_nonneg_right halves.2 unit.le
          _ ≤ higher := by linarith

end ZeroShield.Foundation
