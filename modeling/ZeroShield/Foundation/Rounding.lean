import Mathlib.Algebra.Order.Floor.Semiring
import Mathlib.Data.Rat.Floor
import Mathlib.Tactic.Linarith
import ZeroShield.Foundation.Text

/-!
# Rounding half to even

An integer is reached by rounding exactly from half a unit below it, the midpoint included when the
integer is even.
-/

namespace ZeroShield.Foundation

variable {value lower higher : ℚ} {bound : ℤ}

/-- A value is rounded to at least an integer from half a unit below it. -/
theorem le_roundHalfEven :
    bound ≤ roundHalfEven value ↔
      (bound - 1 / 2 : ℚ) < value ∨ ((bound - 1 / 2 : ℚ) = value ∧ bound % 2 = 0) := by
  have below := Int.floor_le value
  have above := Int.lt_floor_add_one value
  unfold roundHalfEven
  dsimp only
  split
  case isTrue down =>
    constructor
    · intro reached
      have cast : (bound : ℚ) ≤ ⌊value⌋ := by exact_mod_cast reached
      exact Or.inl (by linarith)
    · intro near
      by_contra beyond
      -- The next integer is only as near as this one, so one of the two is odd.
      have next : ⌊value⌋ + 1 ≤ bound := by omega
      have cast : (⌊value⌋ + 1 : ℚ) ≤ bound := by exact_mod_cast next
      rcases near with near | ⟨midpoint, even⟩
      · rcases down with down | ⟨half, -⟩ <;> linarith
      · rcases down with down | ⟨half, lowEven⟩
        · linarith
        · have equal : (bound : ℚ) = ⌊value⌋ + 1 := by linarith
          have equal : bound = ⌊value⌋ + 1 := by exact_mod_cast equal
          omega
  case isFalse up =>
    have half : 1 / 2 ≤ value - ⌊value⌋ := not_lt.mp fun down => up (Or.inl down)
    constructor
    · intro reached
      have cast : (bound : ℚ) ≤ ⌊value⌋ + 1 := by exact_mod_cast reached
      rcases lt_or_eq_of_le (show (bound - 1 / 2 : ℚ) ≤ value by linarith) with near | midpoint
      · exact Or.inl near
      · refine Or.inr ⟨midpoint, ?_⟩
        have equal : (bound : ℚ) = ⌊value⌋ + 1 := by linarith
        have next : bound = ⌊value⌋ + 1 := by exact_mod_cast equal
        have odd : ¬⌊value⌋ % 2 = 0 := fun even => up (Or.inr ⟨by linarith, even⟩)
        omega
    · intro near
      have cast : (bound : ℚ) < ⌊value⌋ + 2 := by
        rcases near with near | ⟨midpoint, -⟩ <;> linarith
      have small : bound < ⌊value⌋ + 2 := by exact_mod_cast cast
      omega

/-- From half a unit below an even integer on, values are rounded to at least that integer. -/
theorem le_roundHalfEven_of_even (even : bound % 2 = 0) :
    bound ≤ roundHalfEven value ↔ (bound - 1 / 2 : ℚ) ≤ value := by
  rw [le_roundHalfEven, le_iff_lt_or_eq]
  constructor
  · rintro (near | ⟨midpoint, -⟩)
    · exact Or.inl near
    · exact Or.inr midpoint
  · rintro (near | midpoint)
    · exact Or.inl near
    · exact Or.inr ⟨midpoint, even⟩

/-- A value is rounded to at most an integer up to half a unit above it. -/
theorem roundHalfEven_le :
    roundHalfEven value ≤ bound ↔
      value < (bound + 1 / 2 : ℚ) ∨ (value = (bound + 1 / 2 : ℚ) ∧ bound % 2 = 0) := by
  have reached := @le_roundHalfEven value (bound + 1)
  push_cast at reached
  have shifted : (bound + 1 - 1 / 2 : ℚ) = bound + 1 / 2 := by ring
  rw [shifted] at reached
  rw [← not_lt, ← Int.add_one_le_iff, reached]
  constructor
  · intro missed
    rcases lt_trichotomy value (bound + 1 / 2 : ℚ) with small | midpoint | large
    · exact Or.inl small
    · refine Or.inr ⟨midpoint, ?_⟩
      have odd : ¬(bound + 1) % 2 = 0 := fun even => missed (Or.inr ⟨midpoint.symm, even⟩)
      omega
    · exact absurd (Or.inl large) missed
  · rintro (small | ⟨midpoint, even⟩) (large | ⟨equal, odd⟩)
    · linarith
    · linarith
    · linarith
    · omega

theorem roundHalfEven_mono (ordered : lower ≤ higher) :
    roundHalfEven lower ≤ roundHalfEven higher := by
  apply le_roundHalfEven.mpr
  rcases le_roundHalfEven.mp (le_refl (roundHalfEven lower)) with near | ⟨midpoint, even⟩
  · exact Or.inl (near.trans_le ordered)
  · rcases lt_or_eq_of_le ordered with below | equal
    · exact Or.inl (midpoint.trans_lt below)
    · exact Or.inr ⟨midpoint.trans equal, even⟩

end ZeroShield.Foundation
