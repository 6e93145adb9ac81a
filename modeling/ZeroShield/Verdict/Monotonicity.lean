import ZeroShield.Verdict.Engine

/-!
# How the verdict follows the measured values

Every failed criterion names a threshold which the comparison violates.  Between two comparisons
judged by the same thresholds, better values never lead to a less effective verdict, in whatever
order the thresholds stand.
-/

namespace ZeroShield.Verdict

open Models

/-! ## What a failed criterion says -/

/-- A criterion under its name, where the comparison violates its threshold. -/
inductive Violation (comparison : ComparisonReport) (previousComparison : Option ComparisonReport)
    (thresholds : VerdictThresholds) : String → Prop
  | totalCases (few : comparison.totalCases < thresholds.minTotalCases) :
      Violation comparison previousComparison thresholds "min_total_cases"
  | regression (previous : ComparisonReport) (earlier : previousComparison = some previous)
      (drop : thresholds.regressionBlockRateDrop <
        previous.mitigationMetrics.blockRate - comparison.mitigationMetrics.blockRate) :
      Violation comparison previousComparison thresholds "regression_block_rate_drop"
  | falsePositives
      (high : thresholds.maxFalsePositiveRate < comparison.mitigationMetrics.falsePositiveRate) :
      Violation comparison previousComparison thresholds "max_false_positive_rate"
  | falseNegatives
      (high : thresholds.maxFalseNegativeRate < comparison.mitigationMetrics.falseNegativeRate) :
      Violation comparison previousComparison thresholds "max_false_negative_rate"
  | validAcceptance
      (low : comparison.mitigationMetrics.validAcceptanceRate < thresholds.minValidAcceptanceRate) :
      Violation comparison previousComparison thresholds "min_valid_acceptance_rate"
  | latency (high : thresholds.maxLatencyOverheadMs < comparison.latencyOverheadMs) :
      Violation comparison previousComparison thresholds "max_latency_overhead_ms"
  | effectiveImprovement
      (low : comparison.blockRateImprovement < thresholds.minBlockRateImprovementEffective) :
      Violation comparison previousComparison thresholds "min_block_rate_improvement_effective"
  | partialImprovement
      (low : comparison.blockRateImprovement < thresholds.minBlockRateImprovementPartial) :
      Violation comparison previousComparison thresholds "min_block_rate_improvement_partial"

section Explained

variable {comparison : ComparisonReport} {previousComparison : Option ComparisonReport}
  {thresholds : VerdictThresholds} {criterion : String}

/-- A violated criterion is one of the thresholds. -/
theorem Violation.mem_thresholdsDict
    (violation : Violation comparison previousComparison thresholds criterion) :
    criterion ∈ (thresholdsDict thresholds).map Prod.fst := by
  cases violation <;> simp [thresholdsDict]

theorem violation_of_failedMeasures (listed : criterion ∈ failedMeasures comparison thresholds) :
    Violation comparison previousComparison thresholds criterion := by
  have measured {met : Prop} [Decidable met] {name : String}
      (member : criterion ∈ if met then [] else [name]) : ¬met ∧ criterion = name := by
    split at member
    case isTrue => cases member
    case isFalse missed => exact ⟨missed, List.mem_singleton.mp member⟩
  unfold failedMeasures at listed
  dsimp only at listed
  rcases List.mem_append.mp listed with listed | latency
  · rcases List.mem_append.mp listed with listed | acceptance
    · rcases List.mem_append.mp listed with positives | negatives
      · obtain ⟨missed, rfl⟩ := measured positives
        exact .falsePositives (not_le.mp missed)
      · obtain ⟨missed, rfl⟩ := measured negatives
        exact .falseNegatives (not_le.mp missed)
    · obtain ⟨missed, rfl⟩ := measured acceptance
      exact .validAcceptance (not_le.mp missed)
  · obtain ⟨missed, rfl⟩ := measured latency
    exact .latency (not_le.mp missed)

theorem violation_of_judge (listed : criterion ∈ (judge comparison thresholds).2.2) :
    Violation comparison previousComparison thresholds criterion := by
  unfold judge at listed
  dsimp only at listed
  split at listed
  case isTrue met => exact violation_of_failedMeasures listed
  case isFalse missed =>
    split at listed
    case isTrue partly =>
      rcases List.mem_append.mp listed with measures | improvement
      · exact violation_of_failedMeasures measures
      · split at improvement
        case isTrue short =>
          obtain rfl := List.mem_singleton.mp improvement
          exact .effectiveImprovement short
        case isFalse enough => cases improvement
    case isFalse neither =>
      rcases List.mem_append.mp listed with measures | improvement
      · exact violation_of_failedMeasures measures
      · split at improvement
        case isTrue short =>
          obtain rfl := List.mem_singleton.mp improvement
          exact .partialImprovement short
        case isFalse enough => cases improvement

theorem drop_of_regressedFrom {previousBlockRate : ℚ}
    (regressed : regressedFrom comparison thresholds previousComparison = some previousBlockRate) :
    ∃ previous, previousComparison = some previous ∧
      thresholds.regressionBlockRateDrop <
        previous.mitigationMetrics.blockRate - comparison.mitigationMetrics.blockRate := by
  cases previousComparison with
  | none => cases regressed
  | some previous =>
      unfold regressedFrom at regressed
      dsimp only at regressed
      split at regressed
      case isTrue drop => exact ⟨previous, rfl, drop⟩
      case isFalse => cases regressed

/-- Every criterion which a verdict lists as failed is violated. -/
theorem violation_of_failedCriteria {now : DateTime}
    (listed : criterion ∈
      (computeVerdict comparison previousComparison thresholds now).failedCriteria) :
    Violation comparison previousComparison thresholds criterion := by
  unfold computeVerdict at listed
  dsimp only at listed
  split at listed
  case isTrue few =>
    obtain rfl := List.mem_singleton.mp listed
    exact .totalCases few
  case isFalse enough =>
    split at listed
    next previousBlockRate regressed =>
      obtain rfl := List.mem_singleton.mp listed
      obtain ⟨previous, earlier, drop⟩ := drop_of_regressedFrom regressed
      exact .regression previous earlier drop
    next => exact violation_of_judge listed

end Explained

/-! ## Better values -/

/-- The place of a label in the order of effectiveness; a regression and an inconclusive comparison
have none. -/
def effectiveness : VerdictLabel → Option ℕ
  | .ineffective => some 0
  | .partiallyEffective => some 1
  | .effective => some 2
  | .regression | .inconclusive => none

/-- One comparison is at least as good as another in every value which a criterion bounds. -/
structure AtLeastAsGood (better worse : ComparisonReport) : Prop where
  improvement : worse.blockRateImprovement ≤ better.blockRateImprovement
  validAcceptance :
    worse.mitigationMetrics.validAcceptanceRate ≤ better.mitigationMetrics.validAcceptanceRate
  falsePositives :
    better.mitigationMetrics.falsePositiveRate ≤ worse.mitigationMetrics.falsePositiveRate
  falseNegatives :
    better.mitigationMetrics.falseNegativeRate ≤ worse.mitigationMetrics.falseNegativeRate
  latency : better.latencyOverheadMs ≤ worse.latencyOverheadMs

/-- The criteria of a verdict which is at least partially effective, when the others fail. -/
structure MeetsPartialCriteria (comparison : ComparisonReport) (thresholds : VerdictThresholds) :
    Prop where
  improvement : thresholds.minBlockRateImprovementPartial ≤ comparison.blockRateImprovement
  validAcceptance :
    thresholds.minValidAcceptanceRate ≤ comparison.mitigationMetrics.validAcceptanceRate

section Monotone

variable {better worse comparison : ComparisonReport} {thresholds : VerdictThresholds}

theorem MeetsCriteria.mono (met : MeetsCriteria worse thresholds)
    (good : AtLeastAsGood better worse) : MeetsCriteria better thresholds where
  improvement := met.improvement.trans good.improvement
  falsePositives := good.falsePositives.trans met.falsePositives
  falseNegatives := good.falseNegatives.trans met.falseNegatives
  validAcceptance := met.validAcceptance.trans good.validAcceptance
  latency := good.latency.trans met.latency

theorem MeetsPartialCriteria.mono (met : MeetsPartialCriteria worse thresholds)
    (good : AtLeastAsGood better worse) : MeetsPartialCriteria better thresholds where
  improvement := met.improvement.trans good.improvement
  validAcceptance := met.validAcceptance.trans good.validAcceptance

/-- The three labels which a judgement gives, by the criteria met. -/
theorem judge_cases (comparison : ComparisonReport) (thresholds : VerdictThresholds) :
    ((judge comparison thresholds).1 = .effective ∧ MeetsCriteria comparison thresholds) ∨
    ((judge comparison thresholds).1 = .partiallyEffective ∧
      ¬MeetsCriteria comparison thresholds ∧ MeetsPartialCriteria comparison thresholds) ∨
    ((judge comparison thresholds).1 = .ineffective ∧
      ¬MeetsCriteria comparison thresholds ∧ ¬MeetsPartialCriteria comparison thresholds) := by
  by_cases met : MeetsCriteria comparison thresholds
  · exact Or.inl ⟨judge_effective.mpr met, met⟩
  · have missed := mt judge_effective.mp met
    unfold judge at missed ⊢
    dsimp only at missed ⊢
    split at missed
    case isTrue => exact absurd rfl missed
    case isFalse all =>
      rw [if_neg all]
      split
      case isTrue partly => exact Or.inr (Or.inl ⟨rfl, met, ⟨partly.1, partly.2⟩⟩)
      case isFalse neither =>
        exact Or.inr (Or.inr ⟨rfl, met, fun partly =>
          neither ⟨partly.improvement, partly.validAcceptance⟩⟩)

/-- Better values are judged at least as effective. -/
theorem judge_mono (good : AtLeastAsGood better worse) :
    ∃ low high, effectiveness (judge worse thresholds).1 = some low ∧
      effectiveness (judge better thresholds).1 = some high ∧ low ≤ high := by
  rcases judge_cases worse thresholds with ⟨low, met⟩ | ⟨low, -, partly⟩ | ⟨low, -, -⟩
  · have high := judge_effective.mpr (met.mono good)
    exact ⟨2, 2, by rw [low]; rfl, by rw [high]; rfl, le_rfl⟩
  · rcases judge_cases better thresholds with ⟨high, -⟩ | ⟨high, -, -⟩ | ⟨-, -, short⟩
    · exact ⟨1, 2, by rw [low]; rfl, by rw [high]; rfl, by omega⟩
    · exact ⟨1, 1, by rw [low]; rfl, by rw [high]; rfl, le_rfl⟩
    · exact absurd (partly.mono good) short
  · rcases judge_cases better thresholds with ⟨high, -⟩ | ⟨high, -, -⟩ | ⟨high, -, -⟩
    · exact ⟨0, 2, by rw [low]; rfl, by rw [high]; rfl, by omega⟩
    · exact ⟨0, 1, by rw [low]; rfl, by rw [high]; rfl, by omega⟩
    · exact ⟨0, 0, by rw [low]; rfl, by rw [high]; rfl, le_rfl⟩

theorem computeVerdict_label {now : DateTime}
    (enough : thresholds.minTotalCases ≤ comparison.totalCases) :
    (computeVerdict comparison none thresholds now).label = (judge comparison thresholds).1 := by
  unfold computeVerdict
  dsimp only
  rw [if_neg (Nat.not_lt.mpr enough)]
  rfl

end Monotone

/-- A verdict lists no failed criterion exactly when it is effective, and lists only thresholds
which the comparison violates.  Without an earlier comparison and with enough cases, better values
never make it less effective. -/
theorem computeVerdict_explained (comparison : ComparisonReport)
    (previousComparison : Option ComparisonReport) (thresholds : VerdictThresholds)
    (now : DateTime) :
    ((computeVerdict comparison previousComparison thresholds now).failedCriteria = [] ↔
      (computeVerdict comparison previousComparison thresholds now).label = .effective) ∧
    (∀ criterion ∈ (computeVerdict comparison previousComparison thresholds now).failedCriteria,
      criterion ∈ (thresholdsDict thresholds).map Prod.fst ∧
      Violation comparison previousComparison thresholds criterion) ∧
    ∀ (better : ComparisonReport) (later : DateTime),
      thresholds.minTotalCases ≤ comparison.totalCases →
      thresholds.minTotalCases ≤ better.totalCases →
      AtLeastAsGood better comparison →
      ∃ low high,
        effectiveness (computeVerdict comparison none thresholds now).label = some low ∧
        effectiveness (computeVerdict better none thresholds later).label = some high ∧
        low ≤ high := by
  refine ⟨failedCriteria_eq_nil, fun criterion listed => ?_, ?_⟩
  · have violation := violation_of_failedCriteria listed
    exact ⟨violation.mem_thresholdsDict, violation⟩
  intro better later enough alsoEnough good
  rw [computeVerdict_label enough, computeVerdict_label alsoEnough]
  exact judge_mono good

/-! ## Two sample comparisons -/

namespace Sample

def metrics (runId : String) (blockRate : ℚ) : ExperimentMetrics where
  runId := runId
  processingSuccessRate := 1
  blockRate := blockRate
  validAcceptanceRate := 1
  falsePositiveRate := 0
  falseNegativeRate := 1 - blockRate
  parserReachRate := 1
  meanLatencyMs := 2
  logCompletenessRate := 1
  calculatedAt := 0
  calculationVersion := "1"

/-- A comparison of ten cases in which the baseline blocked nothing. -/
def comparison (blockRate : ℚ) : ComparisonReport where
  experimentId := "EXP-VPN-001"
  baselineRunId := "RUN-001"
  mitigationRunId := "RUN-002"
  totalCases := 10
  baselineMetrics := metrics "RUN-001" 0
  mitigationMetrics := metrics "RUN-002" blockRate
  blockRateImprovement := blockRate
  latencyOverheadMs := 0
  limitations := []
  generatedAt := 0

end Sample

/-- With the default thresholds half of the cases blocked is partly effective, all of them
effective. -/
theorem computeVerdict_explained_of_sample : ∃ low high,
    effectiveness (computeVerdict (Sample.comparison (1 / 2)) none defaultThresholds 0).label =
      some low ∧
    effectiveness (computeVerdict (Sample.comparison 1) none defaultThresholds 0).label =
      some high ∧ low ≤ high := by
  have explained := computeVerdict_explained (Sample.comparison (1 / 2)) none defaultThresholds 0
  refine explained.2.2 (Sample.comparison 1) 0 (by decide) (by decide) ?_
  constructor <;> norm_num [Sample.comparison, Sample.metrics]

end ZeroShield.Verdict
