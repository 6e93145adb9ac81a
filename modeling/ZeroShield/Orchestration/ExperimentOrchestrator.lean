import ZeroShield.Metrics.Calculator
import ZeroShield.Metrics.Comparator
import ZeroShield.Runners.ExperimentRunner

/-!
# Analysing an executed experiment

Both runs are scored against the test set and compared.
-/

namespace ZeroShield.Orchestration

open Foundation Models Metrics Runners

/-- The metrics of both runs and their comparison. -/
structure Analysis where
  baselineMetrics : ExperimentMetrics
  mitigationMetrics : ExperimentMetrics
  report : ComparisonReport

/-- Score both runs against the test set and compare them. -/
def analyse (experiment : ExperimentDefinition) (testSet : TestSet) (request : RunRequest)
    (execution : ExperimentExecutionResult) (clock : ℕ → DateTime) :
    Except MetricsError Analysis := do
  let baselineMetrics ←
    calculateMetrics request.baselineRunId execution.baseline.caseResults testSet.cases (clock 5)
  let mitigationMetrics ←
    calculateMetrics request.mitigationRunId execution.mitigation.caseResults
      testSet.cases (clock 6)
  let report ← (compare experiment.experimentId testSet.cases.length baselineMetrics
    mitigationMetrics (clock 7)).mapError .validation
  return { baselineMetrics, mitigationMetrics, report }

theorem analyse_spec {experiment : ExperimentDefinition} {testSet : TestSet} {request : RunRequest}
    {execution : ExperimentExecutionResult} {clock : ℕ → DateTime} {analysis : Analysis}
    (analysed : analyse experiment testSet request execution clock = .ok analysis) :
    calculateMetrics request.baselineRunId execution.baseline.caseResults testSet.cases (clock 5) =
        .ok analysis.baselineMetrics ∧
      calculateMetrics request.mitigationRunId execution.mitigation.caseResults testSet.cases
        (clock 6) = .ok analysis.mitigationMetrics ∧
      analysis.report.totalCases = testSet.cases.length ∧
      analysis.report.mitigationMetrics = analysis.mitigationMetrics ∧
      analysis.report.blockRateImprovement =
        analysis.mitigationMetrics.blockRate - analysis.baselineMetrics.blockRate := by
  obtain ⟨baselineMetrics, baseline, analysed⟩ := bind_eq_ok.mp analysed
  obtain ⟨mitigationMetrics, mitigation, analysed⟩ := bind_eq_ok.mp analysed
  obtain ⟨report, compared, analysed⟩ := bind_eq_ok.mp analysed
  cases analysed
  obtain ⟨-, rfl⟩ := ComparisonReport.validate_eq_ok.mp (mapError_eq_ok.mp compared)
  exact ⟨baseline, mitigation, rfl, rfl, rfl⟩

end ZeroShield.Orchestration
