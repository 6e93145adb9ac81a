import Mathlib.Tactic.Linarith
import ZeroShield.Assurance.Regression

/-!
# The order of regressions

How bad a validation is in a measure is a number which grows as the validation gets worse.  A
regression is a change of these numbers beyond what is tolerated, so it remains one when the later
validation gets worse or the earlier one better.
-/

namespace ZeroShield.Assurance

open Models

/-- The measures which are compared besides the verdict. -/
inductive Measure
  | blockRateImprovement
  | falsePositiveRate
  | falseNegativeRate
  | validAcceptanceRate
  | parserReachRate

namespace Measure

/-- How bad a validation is in a measure. -/
def badness (validation : ControlValidation) : Measure → ℚ
  | blockRateImprovement => -validation.blockRateImprovement
  | falsePositiveRate => validation.falsePositiveRate
  | falseNegativeRate => validation.falseNegativeRate
  | validAcceptanceRate => -validation.validAcceptanceRate
  | parserReachRate => validation.parserReachRate

/-- How much worse a validation may be than the one before it. -/
def allowed (thresholds : RegressionThresholds) : Measure → ℚ
  | blockRateImprovement => thresholds.maxBlockRateImprovementDrop
  | falsePositiveRate => thresholds.maxFalsePositiveRateIncrease
  | falseNegativeRate => thresholds.maxFalseNegativeRateIncrease
  | validAcceptanceRate => thresholds.maxValidAcceptanceRateDrop
  | parserReachRate => thresholds.maxParserReachRateIncrease

end Measure

/-- A validation which is no better than another one in any respect which is compared. -/
structure NoBetter (worse better : ControlValidation) : Prop where
  verdict : verdictSeverity worse.verdictLabel ≤ verdictSeverity better.verdictLabel
  blockRateImprovement : worse.blockRateImprovement ≤ better.blockRateImprovement
  falsePositiveRate : better.falsePositiveRate ≤ worse.falsePositiveRate
  falseNegativeRate : better.falseNegativeRate ≤ worse.falseNegativeRate
  validAcceptanceRate : worse.validAcceptanceRate ≤ better.validAcceptanceRate
  parserReachRate : better.parserReachRate ≤ worse.parserReachRate

/-- No measure tolerates a negative change only. -/
structure RegressionThresholds.Nonneg (thresholds : RegressionThresholds) : Prop where
  blockRateImprovement : 0 ≤ thresholds.maxBlockRateImprovementDrop
  falsePositiveRate : 0 ≤ thresholds.maxFalsePositiveRateIncrease
  falseNegativeRate : 0 ≤ thresholds.maxFalseNegativeRateIncrease
  validAcceptanceRate : 0 ≤ thresholds.maxValidAcceptanceRateDrop
  parserReachRate : 0 ≤ thresholds.maxParserReachRateIncrease

theorem NoBetter.badness {worse better : ControlValidation} (noBetter : NoBetter worse better)
    (measure : Measure) : measure.badness better ≤ measure.badness worse := by
  cases measure with
  | blockRateImprovement => exact neg_le_neg noBetter.blockRateImprovement
  | falsePositiveRate => exact noBetter.falsePositiveRate
  | falseNegativeRate => exact noBetter.falseNegativeRate
  | validAcceptanceRate => exact neg_le_neg noBetter.validAcceptanceRate
  | parserReachRate => exact noBetter.parserReachRate

theorem RegressionThresholds.Nonneg.allowed {thresholds : RegressionThresholds}
    (nonneg : thresholds.Nonneg) (measure : Measure) : 0 ≤ measure.allowed thresholds := by
  cases measure with
  | blockRateImprovement => exact nonneg.blockRateImprovement
  | falsePositiveRate => exact nonneg.falsePositiveRate
  | falseNegativeRate => exact nonneg.falseNegativeRate
  | validAcceptanceRate => exact nonneg.validAcceptanceRate
  | parserReachRate => exact nonneg.parserReachRate

/-- A reason is reported exactly for a change beyond what is allowed. -/
theorem measureReason_eq_nil {description : String} {change allowed previous latest : ℚ} :
    measureReason description change allowed previous latest = [] ↔ change ≤ allowed := by
  unfold measureReason
  split
  case isTrue beyond => exact iff_of_false (List.cons_ne_nil _ _) (not_le.mpr beyond)
  case isFalse within => exact iff_of_true rfl (not_lt.mp within)

section Regression

variable {previous latest : ControlValidation} {thresholds : RegressionThresholds}

/-- There is no regression exactly when the verdict and every measure stay within bounds. -/
theorem isRegression_eq_false :
    (detectRegressions previous latest thresholds).isRegression = false ↔
    verdictSeverity previous.verdictLabel ≤ verdictSeverity latest.verdictLabel ∧
      ∀ measure : Measure, measure.badness latest - measure.badness previous ≤
        measure.allowed thresholds := by
  have verdict (reason : String) : (if verdictSeverity latest.verdictLabel <
      verdictSeverity previous.verdictLabel then [reason] else []) = [] ↔
        verdictSeverity previous.verdictLabel ≤ verdictSeverity latest.verdictLabel := by
    split
    case isTrue worse => exact iff_of_false (List.cons_ne_nil _ _) (not_le.mpr worse)
    case isFalse kept => exact iff_of_true rfl (not_lt.mp kept)
  have drop (before after allowed : ℚ) : -after - -before ≤ allowed ↔ before - after ≤ allowed := by
    rw [neg_sub_neg]
  unfold detectRegressions
  dsimp only
  rw [decide_eq_false_iff_not, not_not]
  simp only [List.append_eq_nil_iff, verdict, measureReason_eq_nil]
  constructor
  · rintro ⟨⟨⟨⟨⟨kept, block⟩, positive⟩, negative⟩, acceptance⟩, reach⟩
    refine ⟨kept, fun measure => ?_⟩
    cases measure with
    | blockRateImprovement => exact (drop _ _ _).mpr block
    | falsePositiveRate => exact positive
    | falseNegativeRate => exact negative
    | validAcceptanceRate => exact (drop _ _ _).mpr acceptance
    | parserReachRate => exact reach
  · rintro ⟨kept, within⟩
    exact ⟨⟨⟨⟨⟨kept, (drop _ _ _).mp (within .blockRateImprovement)⟩,
      within .falsePositiveRate⟩, within .falseNegativeRate⟩,
      (drop _ _ _).mp (within .validAcceptanceRate)⟩, within .parserReachRate⟩

/-- Without a regression there is none either from a worse validation to a better one. -/
theorem isRegression_mono {previous' latest' : ControlValidation}
    (before : NoBetter previous' previous) (after : NoBetter latest latest')
    (unchanged : (detectRegressions previous latest thresholds).isRegression = false) :
    (detectRegressions previous' latest' thresholds).isRegression = false := by
  obtain ⟨verdict, within⟩ := isRegression_eq_false.mp unchanged
  apply isRegression_eq_false.mpr
  refine ⟨before.verdict.trans (verdict.trans after.verdict), fun measure => ?_⟩
  have earlier := before.badness measure
  have later := after.badness measure
  have bound := within measure
  linarith

theorem NoBetter.refl (validation : ControlValidation) : NoBetter validation validation :=
  ⟨le_rfl, le_rfl, le_rfl, le_rfl, le_rfl, le_rfl⟩

end Regression

/-- A regression remains one when the later validation is replaced by one which is no better, and
when the earlier one is replaced by one which is at least as good; a validation which equals or
improves on the earlier one is none. -/
theorem regression_monotone (thresholds : RegressionThresholds)
    (previous latest : ControlValidation) :
    (∀ latest', NoBetter latest' latest →
      (detectRegressions previous latest thresholds).isRegression = true →
        (detectRegressions previous latest' thresholds).isRegression = true) ∧
    (∀ previous', NoBetter previous previous' →
      (detectRegressions previous latest thresholds).isRegression = true →
        (detectRegressions previous' latest thresholds).isRegression = true) ∧
    (thresholds.Nonneg → NoBetter previous latest →
      (detectRegressions previous latest thresholds).isRegression = false) := by
  refine ⟨fun latest' noBetter regressed => ?_, fun previous' noBetter regressed => ?_,
    fun nonneg noBetter => ?_⟩
  · by_contra kept
    rw [isRegression_mono (.refl previous) noBetter
      (Bool.eq_false_of_not_eq_true kept)] at regressed
    cases regressed
  · by_contra kept
    rw [isRegression_mono noBetter (.refl latest) (Bool.eq_false_of_not_eq_true kept)] at regressed
    cases regressed
  · apply isRegression_eq_false.mpr
    refine ⟨noBetter.verdict, fun measure => ?_⟩
    have change := noBetter.badness measure
    have tolerance := nonneg.allowed measure
    linarith

/-- A validation with a rate of false positives. -/
def RegressionSample.validation (falsePositiveRate : ℚ) : ControlValidation where
  validationId := "VAL-001"
  controlId := "CTRL-VPN-strict"
  versionId := "CTRL-VPN-strict@v1"
  experimentId := "ZC-VPN-EXP-001"
  baselineRunId := "RUN-001"
  mitigationRunId := "RUN-002"
  totalCases := 8
  blockRateImprovement := 1 / 2
  falsePositiveRate
  falseNegativeRate := 0
  validAcceptanceRate := 1
  parserReachRate := 0
  latencyOverheadMs := 0
  verdictLabel := "EFFECTIVE"
  validatedAt := 0

/-- More false positives than those of a regression are one as well. -/
theorem regression_monotone_of_sample :
    (detectRegressions (RegressionSample.validation 0)
      (RegressionSample.validation (1 / 2))).isRegression = true := by
  have noBetter : NoBetter (RegressionSample.validation (1 / 2))
      (RegressionSample.validation (1 / 4)) :=
    { NoBetter.refl _ with falsePositiveRate := by norm_num [RegressionSample.validation] }
  exact (regression_monotone {} (RegressionSample.validation 0)
    (RegressionSample.validation (1 / 4))).1 _ noBetter (by decide +kernel)

end ZeroShield.Assurance
