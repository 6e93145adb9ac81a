import ZeroShield.Models.Run

/-!
# The verdict engine

A verdict compares the measured metrics of a comparison with configurable thresholds.  The sample
size is checked first, then a regression against an earlier comparison, then the criteria.
-/

namespace ZeroShield.Verdict

open Foundation Models

/-- The bounds a verdict is measured against. -/
structure VerdictThresholds where
  minTotalCases : ℕ := 5
  minBlockRateImprovementEffective : ℚ := 1 / 2
  minBlockRateImprovementPartial : ℚ := 1 / 10
  maxFalsePositiveRate : ℚ := 1 / 20
  maxFalseNegativeRate : ℚ := 1 / 10
  minValidAcceptanceRate : ℚ := 19 / 20
  maxLatencyOverheadMs : ℚ := 100
  regressionBlockRateDrop : ℚ := 0
  deriving DecidableEq

/-- The default thresholds. -/
def defaultThresholds : VerdictThresholds := {}

/-- The thresholds under their names. -/
def thresholdsDict (thresholds : VerdictThresholds) : List (String × ℚ) :=
  [("min_total_cases", thresholds.minTotalCases),
    ("min_block_rate_improvement_effective", thresholds.minBlockRateImprovementEffective),
    ("min_block_rate_improvement_partial", thresholds.minBlockRateImprovementPartial),
    ("max_false_positive_rate", thresholds.maxFalsePositiveRate),
    ("max_false_negative_rate", thresholds.maxFalseNegativeRate),
    ("min_valid_acceptance_rate", thresholds.minValidAcceptanceRate),
    ("max_latency_overhead_ms", thresholds.maxLatencyOverheadMs),
    ("regression_block_rate_drop", thresholds.regressionBlockRateDrop)]

/-- A verdict with its reasons and the criteria which failed. -/
structure VerdictResult where
  label : VerdictLabel
  reasons : List String
  thresholdsUsed : List (String × ℚ)
  failedCriteria : List String
  limitations : List String
  generatedAt : DateTime
  deriving DecidableEq

/-- The limitations stated with every verdict. -/
def standardLimitations : List String :=
  ["Verdict reflects only the cases included in this comparison's dataset version, not " ++
      "general real-world attack traffic.",
    "Verdict is deterministic and threshold-based; it is not a certification of production " ++
      "readiness and does not replace manual security review."]

section Criteria

variable (comparison : ComparisonReport) (thresholds : VerdictThresholds)

/-- The measured values, one reason each. -/
def measuredReasons : List String :=
  let metrics := comparison.mitigationMetrics
  [s!"block_rate_improvement={fixed 3 comparison.blockRateImprovement}",
    s!"mitigation false_positive_rate={fixed 3 metrics.falsePositiveRate}",
    s!"mitigation false_negative_rate={fixed 3 metrics.falseNegativeRate}",
    s!"mitigation valid_acceptance_rate={fixed 3 metrics.validAcceptanceRate}",
    s!"latency_overhead_ms={fixed 2 comparison.latencyOverheadMs}"]

/-- The criteria on the mitigation's own metrics which failed. -/
def failedMeasures : List String :=
  let metrics := comparison.mitigationMetrics
  (if metrics.falsePositiveRate ≤ thresholds.maxFalsePositiveRate then []
    else ["max_false_positive_rate"]) ++
  (if metrics.falseNegativeRate ≤ thresholds.maxFalseNegativeRate then []
    else ["max_false_negative_rate"]) ++
  (if thresholds.minValidAcceptanceRate ≤ metrics.validAcceptanceRate then []
    else ["min_valid_acceptance_rate"]) ++
  (if comparison.latencyOverheadMs ≤ thresholds.maxLatencyOverheadMs then []
    else ["max_latency_overhead_ms"])

/-- The label, its leading reason and the failed criteria, once the sample is large enough and no
regression was found. -/
def judge : VerdictLabel × String × List String :=
  let metrics := comparison.mitigationMetrics
  let improvement := comparison.blockRateImprovement
  let failed := failedMeasures comparison thresholds
  if thresholds.minBlockRateImprovementEffective ≤ improvement ∧
      metrics.falsePositiveRate ≤ thresholds.maxFalsePositiveRate ∧
      metrics.falseNegativeRate ≤ thresholds.maxFalseNegativeRate ∧
      thresholds.minValidAcceptanceRate ≤ metrics.validAcceptanceRate ∧
      comparison.latencyOverheadMs ≤ thresholds.maxLatencyOverheadMs then
    (.effective, "All effectiveness criteria met at the EFFECTIVE thresholds.", failed)
  else if thresholds.minBlockRateImprovementPartial ≤ improvement ∧
      thresholds.minValidAcceptanceRate ≤ metrics.validAcceptanceRate then
    (.partiallyEffective,
      "Meaningful improvement observed but one or more EFFECTIVE-level criteria were not met.",
      failed ++ if improvement < thresholds.minBlockRateImprovementEffective then
        ["min_block_rate_improvement_effective"] else [])
  else
    (.ineffective, "Improvement did not meet even the PARTIALLY_EFFECTIVE threshold.",
      failed ++ if improvement < thresholds.minBlockRateImprovementPartial then
        ["min_block_rate_improvement_partial"] else [])

/-- The reason given when the block rate fell below that of an earlier comparison. -/
def regressionReason (previousBlockRate : ℚ) : String :=
  let blockRate := comparison.mitigationMetrics.blockRate
  s!"Mitigation block_rate regressed from {fixed 3 previousBlockRate} (previous " ++
    s!"comparable run) to {fixed 3 blockRate}, a drop of " ++
    s!"{fixed 3 (previousBlockRate - blockRate)}, exceeding the " ++
    s!"allowed {fixed 3 thresholds.regressionBlockRateDrop}."

/-- The earlier block rate, if the measured one fell too far below it. -/
def regressedFrom (previousComparison : Option ComparisonReport) : Option ℚ :=
  match previousComparison with
  | none => none
  | some previous =>
      let previousBlockRate := previous.mitigationMetrics.blockRate
      if thresholds.regressionBlockRateDrop <
          previousBlockRate - comparison.mitigationMetrics.blockRate then
        some previousBlockRate
      else none

end Criteria

/-- Compute the verdict on a comparison. -/
def computeVerdict (comparison : ComparisonReport) (previousComparison : Option ComparisonReport)
    (thresholds : VerdictThresholds) (now : DateTime) : VerdictResult :=
  let thresholdsUsed := thresholdsDict thresholds
  let limitations := standardLimitations
  if comparison.totalCases < thresholds.minTotalCases then
    { label := .inconclusive
      reasons :=
        [s!"Only {comparison.totalCases} case(s) in this comparison, below the required " ++
          s!"minimum of {thresholds.minTotalCases} for a trustworthy verdict."]
      thresholdsUsed
      failedCriteria := ["min_total_cases"]
      limitations
      generatedAt := now }
  else
    match regressedFrom comparison thresholds previousComparison with
    | some previousBlockRate =>
        { label := .regression
          reasons := [regressionReason comparison thresholds previousBlockRate]
          thresholdsUsed
          failedCriteria := ["regression_block_rate_drop"]
          limitations
          generatedAt := now }
    | none =>
        let (label, leading, failed) := judge comparison thresholds
        { label
          reasons := leading :: measuredReasons comparison
          thresholdsUsed
          failedCriteria := failed
          limitations
          generatedAt := now }

/-! ## What an effective verdict says -/

section Effective

variable {comparison : ComparisonReport} {thresholds : VerdictThresholds}

/-- The criteria of an effective verdict. -/
structure MeetsCriteria (comparison : ComparisonReport)
    (thresholds : VerdictThresholds) : Prop where
  improvement : thresholds.minBlockRateImprovementEffective ≤ comparison.blockRateImprovement
  falsePositives :
    comparison.mitigationMetrics.falsePositiveRate ≤ thresholds.maxFalsePositiveRate
  falseNegatives :
    comparison.mitigationMetrics.falseNegativeRate ≤ thresholds.maxFalseNegativeRate
  validAcceptance :
    thresholds.minValidAcceptanceRate ≤ comparison.mitigationMetrics.validAcceptanceRate
  latency : comparison.latencyOverheadMs ≤ thresholds.maxLatencyOverheadMs

theorem judge_effective :
    (judge comparison thresholds).1 = .effective ↔ MeetsCriteria comparison thresholds := by
  unfold judge
  dsimp only
  split
  case isTrue met =>
    obtain ⟨improvement, falsePositives, falseNegatives, validAcceptance, latency⟩ := met
    exact ⟨fun _ => ⟨improvement, falsePositives, falseNegatives, validAcceptance, latency⟩,
      fun _ => rfl⟩
  case isFalse missed =>
    refine ⟨fun effective => ?_, fun met => absurd ?_ missed⟩
    · split at effective <;> cases effective
    · exact ⟨met.improvement, met.falsePositives, met.falseNegatives, met.validAcceptance,
        met.latency⟩

/-- A verdict is effective exactly for a large enough sample which shows no regression and meets
every criterion. -/
theorem computeVerdict_effective {previousComparison : Option ComparisonReport} {now : DateTime} :
    (computeVerdict comparison previousComparison thresholds now).label = .effective ↔
      thresholds.minTotalCases ≤ comparison.totalCases ∧
      regressedFrom comparison thresholds previousComparison = none ∧
      MeetsCriteria comparison thresholds := by
  unfold computeVerdict
  dsimp only
  split
  case isTrue small =>
    refine ⟨fun effective => ?_, fun ⟨enough, _⟩ => absurd small (Nat.not_lt.mpr enough)⟩
    cases effective
  case isFalse enough =>
    cases regressed : regressedFrom comparison thresholds previousComparison with
    | some previousBlockRate => simp
    | none => simp [judge_effective, Nat.not_lt.mp enough]

/-- No criterion is reported as failed exactly when every criterion is met. -/
theorem failedMeasures_eq_nil :
    failedMeasures comparison thresholds = [] ↔
      comparison.mitigationMetrics.falsePositiveRate ≤ thresholds.maxFalsePositiveRate ∧
      comparison.mitigationMetrics.falseNegativeRate ≤ thresholds.maxFalseNegativeRate ∧
      thresholds.minValidAcceptanceRate ≤ comparison.mitigationMetrics.validAcceptanceRate ∧
      comparison.latencyOverheadMs ≤ thresholds.maxLatencyOverheadMs := by
  simp [failedMeasures]

theorem judge_failed_eq_nil :
    (judge comparison thresholds).2.2 = [] ↔ MeetsCriteria comparison thresholds := by
  unfold judge
  dsimp only
  split
  case isTrue met =>
    have measures := failedMeasures_eq_nil.mpr met.2
    obtain ⟨improvement, falsePositives, falseNegatives, validAcceptance, latency⟩ := met
    exact ⟨fun _ => ⟨improvement, falsePositives, falseNegatives, validAcceptance, latency⟩,
      fun _ => measures⟩
  case isFalse missed =>
    refine ⟨fun clean => ?_, fun met => absurd ?_ missed⟩
    · -- Without a failed measure only the improvement is left to fall short.
      split at clean
      case isTrue partly =>
        obtain ⟨measures, short⟩ := List.append_eq_nil_iff.mp clean
        have enough : thresholds.minBlockRateImprovementEffective ≤
          comparison.blockRateImprovement := by
          simpa using short
        exact absurd ⟨enough, failedMeasures_eq_nil.mp measures⟩ missed
      case isFalse neither =>
        obtain ⟨measures, short⟩ := List.append_eq_nil_iff.mp clean
        have enough : thresholds.minBlockRateImprovementPartial ≤
          comparison.blockRateImprovement := by
          simpa using short
        exact absurd ⟨enough, (failedMeasures_eq_nil.mp measures).2.2.1⟩ neither
    · exact ⟨met.improvement, met.falsePositives, met.falseNegatives, met.validAcceptance,
        met.latency⟩

/-- A verdict reports no failed criterion exactly when it is effective. -/
theorem failedCriteria_eq_nil {previousComparison : Option ComparisonReport} {now : DateTime} :
    (computeVerdict comparison previousComparison thresholds now).failedCriteria = [] ↔
      (computeVerdict comparison previousComparison thresholds now).label = .effective := by
  unfold computeVerdict
  dsimp only
  split
  case isTrue small => simp
  case isFalse enough =>
    cases regressed : regressedFrom comparison thresholds previousComparison with
    | some previousBlockRate => simp
    | none => exact judge_failed_eq_nil.trans judge_effective.symm

end Effective

end ZeroShield.Verdict
