import ZeroShield.Models.Run

/-!
# Comparison of two runs
-/

namespace ZeroShield.Metrics

open Models

/-- The limitations stated with every comparison. -/
def standardLimitations : List String :=
  ["Results reflect a synthetic, abstracted model of the failure pattern and do not " ++
      "prove mitigation effectiveness for the original vendor product.",
    "Metrics are computed only over the cases included in this dataset version and are " ++
      "not a general claim about real-world attack traffic distributions."]

/-- Compare the metrics of a baseline run with those of a mitigated run. -/
def compare (experimentId : String) (totalCases : ℕ)
    (baselineMetrics mitigationMetrics : ExperimentMetrics) (now : DateTime) :
    Except ValidationError ComparisonReport :=
  ComparisonReport.validate
    { experimentId
      baselineRunId := baselineMetrics.runId
      mitigationRunId := mitigationMetrics.runId
      totalCases
      baselineMetrics
      mitigationMetrics
      blockRateImprovement := mitigationMetrics.blockRate - baselineMetrics.blockRate
      latencyOverheadMs := mitigationMetrics.meanLatencyMs - baselineMetrics.meanLatencyMs
      limitations := standardLimitations
      generatedAt := now }

end ZeroShield.Metrics
