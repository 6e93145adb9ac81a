import ZeroShield.Foundation.Decimal
import ZeroShield.Foundation.Json
import ZeroShield.Models.Shared

/-!
# Test sets, case results, metrics and comparisons

The records made by running an experiment.  Rates and latencies are exact rationals.  As for
definitions, a record is raw and its validity is the emptiness of its list of errors.
-/

namespace ZeroShield.Models

open Foundation

/-- A number which is not negative. -/
def requireNonnegative {ν : Type} [Zero ν] [LE ν] [DecidableLE ν] (name : String) (value : ν) :
    List FieldError :=
  require (0 ≤ value) [name] .greaterThanEqual

/-- A run identifier. -/
def requireRunId (name runId : String) : List FieldError :=
  require (isRunId runId) [name] .stringPatternMismatch

/-- An input with the decision expected for it. -/
structure TestCase where
  caseId : String
  category : TestCaseCategory
  inputData : Json
  expectedOutcome : Decision
  provenance : String
  version : String
  deriving DecidableEq

/-- The errors reported for a test case, in the order of its fields. -/
def TestCase.errors (case : TestCase) : List FieldError :=
  requireText "case_id" case.caseId ++
    requireText "provenance" case.provenance ++
    requireText "version" case.version

/-- A versioned collection of test cases. -/
structure TestSet where
  testSetId : String
  version : String
  domain : Domain
  cases : List TestCase
  deriving DecidableEq

namespace TestSet

/-- The errors of the cases, each under its position. -/
def caseErrors (cases : List TestCase) : List FieldError :=
  cases.zipIdx.flatMap fun (case, index) =>
    case.errors.map fun error => { error with loc := "cases" :: toString index :: error.loc }

/-- No case identifier occurs twice. -/
def checkCaseIdsUnique (testSet : TestSet) : List FieldError :=
  require ((testSet.cases.map (·.caseId)).Nodup) []
    (.valueError "cases must not contain duplicate case_id values")

/-- All errors reported for a test set. -/
def errors (testSet : TestSet) : List FieldError :=
  fieldsThenModel
    (requireText "test_set_id" testSet.testSetId ++
      requireText "version" testSet.version ++
      require (testSet.cases ≠ []) ["cases"] .tooShort ++
      caseErrors testSet.cases)
    [testSet.checkCaseIdsUnique]

/-- The case identifiers of a valid test set are distinct. -/
theorem nodup_of_errors_eq_nil {testSet : TestSet} (valid : testSet.errors = []) :
    (testSet.cases.map (·.caseId)).Nodup := by
  have checks := (fieldsThenModel_eq_nil.mp valid).2
  simpa [checkCaseIdsUnique] using checks testSet.checkCaseIdsUnique (by simp)

end TestSet

/-- An error message is given exactly for an errored outcome, and is then not empty. -/
def checkErrorMessageConsistency (errored : Bool) (errorMessage : Option String) :
    List FieldError :=
  if errored = true ∧ errorMessage.getD "" = "" then
    [⟨[], .valueError "error_message is required when errored is True"⟩]
  else if errored = false ∧ errorMessage ≠ none then
    [⟨[], .valueError "error_message must be None when errored is False"⟩]
  else []

/-- What a strategy determines for one input. -/
structure StrategyOutcome where
  decision : Decision
  parserReached : Bool
  logged : Bool := false
  errored : Bool := false
  errorMessage : Option String := none
  deriving DecidableEq, Repr

/-- The errors reported for an outcome. -/
def StrategyOutcome.errors (outcome : StrategyOutcome) : List FieldError :=
  checkErrorMessageConsistency outcome.errored outcome.errorMessage

/-- The recorded outcome of one case of a run. -/
structure CaseResult where
  runId : String
  caseId : String
  decision : Decision
  parserReached : Bool
  errored : Bool
  errorMessage : Option String
  logged : Bool
  latencyMs : ℚ
  deriving DecidableEq

namespace CaseResult

/-- All errors reported for a case result. -/
def errors (result : CaseResult) : List FieldError :=
  fieldsThenModel
    (requireRunId "run_id" result.runId ++
      requireText "case_id" result.caseId ++
      requireNonnegative "latency_ms" result.latencyMs)
    [checkErrorMessageConsistency result.errored result.errorMessage]

/-- Validate a case result. -/
def validate (result : CaseResult) : Except ValidationError CaseResult :=
  if result.errors = [] then .ok result else .error ⟨"CaseResult", result.errors⟩

theorem validate_eq_ok {result validated : CaseResult} :
    result.validate = .ok validated ↔ result.errors = [] ∧ validated = result := by
  by_cases clean : result.errors = [] <;> simp [validate, clean, eq_comm]

end CaseResult

/-- One execution of a strategy over a dataset. -/
structure ExperimentRun where
  runId : String
  experimentId : String
  mode : RunMode
  datasetHash : String
  gitCommit : String
  environment : List (String × String)
  startedAt : DateTime
  completedAt : Option DateTime
  status : RunStatus
  deriving DecidableEq

namespace ExperimentRun

/-- A run is not completed before it started. -/
def checkCompletedAtAfterStartedAt (run : ExperimentRun) : List FieldError :=
  require (run.completedAt.all (run.startedAt ≤ ·)) []
    (.valueError "completed_at cannot be earlier than started_at")

/-- A time of completion is given exactly for the terminal statuses. -/
def checkStatusConsistency (run : ExperimentRun) : List FieldError :=
  match run.status, run.completedAt with
  | .completed, none | .failed, none =>
      [⟨[], .valueError s!"status '{StringEnum.value run.status}' requires completed_at to be set"⟩]
  | .pending, some _ | .running, some _ =>
      [⟨[], .valueError
        s!"status '{StringEnum.value run.status}' must not have completed_at set"⟩]
  | _, _ => []

/-- All errors reported for a run. -/
def errors (run : ExperimentRun) : List FieldError :=
  fieldsThenModel
    (requireRunId "run_id" run.runId ++
      require (isExperimentId run.experimentId) ["experiment_id"] .stringPatternMismatch ++
      require (isSha256Hex run.datasetHash) ["dataset_hash"] .stringPatternMismatch ++
      require (isGitCommitHex run.gitCommit) ["git_commit"] .stringPatternMismatch ++
      require (run.environment ≠ []) ["environment"] .tooShort)
    [run.checkCompletedAtAfterStartedAt, run.checkStatusConsistency]

/-- Validate a run. -/
def validate (run : ExperimentRun) : Except ValidationError ExperimentRun :=
  if run.errors = [] then .ok run else .error ⟨"ExperimentRun", run.errors⟩

end ExperimentRun

/-- The aggregate metrics of a run; a latency which was measured is finite, any other need not
be. -/
structure ExperimentMetrics (ν : Type := ℚ) where
  runId : String
  processingSuccessRate : ℚ
  blockRate : ℚ
  validAcceptanceRate : ℚ
  falsePositiveRate : ℚ
  falseNegativeRate : ℚ
  parserReachRate : ℚ
  meanLatencyMs : ν
  logCompletenessRate : ℚ
  calculatedAt : DateTime
  calculationVersion : String
  deriving DecidableEq

namespace ExperimentMetrics

/-- A rate, a number between zero and one. -/
def requireRate (name : String) (rate : ℚ) : List FieldError :=
  require (0 ≤ rate) [name] .greaterThanEqual ++ require (rate ≤ 1) [name] .lessThanEqual

section Validation

variable {ν : Type} [Zero ν] [LE ν] [DecidableLE ν]

/-- All errors reported for metrics, in the order of the fields. -/
def errors (metrics : ExperimentMetrics ν) : List FieldError :=
  requireRunId "run_id" metrics.runId ++
    requireRate "processing_success_rate" metrics.processingSuccessRate ++
    requireRate "block_rate" metrics.blockRate ++
    requireRate "valid_acceptance_rate" metrics.validAcceptanceRate ++
    requireRate "false_positive_rate" metrics.falsePositiveRate ++
    requireRate "false_negative_rate" metrics.falseNegativeRate ++
    requireRate "parser_reach_rate" metrics.parserReachRate ++
    requireNonnegative "mean_latency_ms" metrics.meanLatencyMs ++
    requireRate "log_completeness_rate" metrics.logCompletenessRate ++
    requireText "calculation_version" metrics.calculationVersion

/-- Validate metrics. -/
def validate (metrics : ExperimentMetrics ν) : Except ValidationError (ExperimentMetrics ν) :=
  if metrics.errors = [] then .ok metrics else .error ⟨"ExperimentMetrics", metrics.errors⟩

theorem validate_eq_ok {metrics validated : ExperimentMetrics ν} :
    metrics.validate = .ok validated ↔ metrics.errors = [] ∧ validated = metrics := by
  by_cases clean : metrics.errors = [] <;> simp [validate, clean, eq_comm]

end Validation

/-- Metrics with a measured latency. -/
def measured (metrics : ExperimentMetrics) : ExperimentMetrics Number where
  runId := metrics.runId
  processingSuccessRate := metrics.processingSuccessRate
  blockRate := metrics.blockRate
  validAcceptanceRate := metrics.validAcceptanceRate
  falsePositiveRate := metrics.falsePositiveRate
  falseNegativeRate := metrics.falseNegativeRate
  parserReachRate := metrics.parserReachRate
  meanLatencyMs := .finite metrics.meanLatencyMs
  logCompletenessRate := metrics.logCompletenessRate
  calculatedAt := metrics.calculatedAt
  calculationVersion := metrics.calculationVersion

instance : Coe ExperimentMetrics (ExperimentMetrics Number) := ⟨measured⟩

@[simp] theorem measured_runId (metrics : ExperimentMetrics) :
    metrics.measured.runId = metrics.runId := rfl

end ExperimentMetrics

/-- A comparison of a baseline run with a mitigated run. -/
structure ComparisonReport where
  experimentId : String
  baselineRunId : String
  mitigationRunId : String
  totalCases : ℕ
  baselineMetrics : ExperimentMetrics
  mitigationMetrics : ExperimentMetrics
  blockRateImprovement : ℚ
  latencyOverheadMs : ℚ
  limitations : List String
  generatedAt : DateTime
  deriving DecidableEq

namespace ComparisonReport

/-- The errors of single fields, in the order of the fields. -/
def fieldErrors (report : ComparisonReport) : List FieldError :=
  require (isExperimentId report.experimentId) ["experiment_id"] .stringPatternMismatch ++
    requireRunId "baseline_run_id" report.baselineRunId ++
    requireRunId "mitigation_run_id" report.mitigationRunId ++
    require (1 ≤ report.totalCases) ["total_cases"] .greaterThanEqual ++
    require (-1 ≤ report.blockRateImprovement) ["block_rate_improvement"] .greaterThanEqual ++
    require (report.blockRateImprovement ≤ 1) ["block_rate_improvement"] .lessThanEqual ++
    require (report.limitations ≠ []) ["limitations"] .tooShort

/-- The two runs differ. -/
def checkRunIdsDiffer (report : ComparisonReport) : List FieldError :=
  require (report.baselineRunId ≠ report.mitigationRunId) []
    (.valueError "baseline_run_id and mitigation_run_id must be different runs")

/-- The metrics are those of the two runs. -/
def checkMetricsRunIdsMatch (report : ComparisonReport) : List FieldError :=
  if report.baselineMetrics.runId ≠ report.baselineRunId then
    [⟨[], .valueError "baseline_metrics.run_id must match baseline_run_id"⟩]
  else
    require (report.mitigationMetrics.runId = report.mitigationRunId) []
      (.valueError "mitigation_metrics.run_id must match mitigation_run_id")

/-- All errors reported for a comparison. -/
def errors (report : ComparisonReport) : List FieldError :=
  fieldsThenModel report.fieldErrors [report.checkRunIdsDiffer, report.checkMetricsRunIdsMatch]

/-- Validate a comparison. -/
def validate (report : ComparisonReport) : Except ValidationError ComparisonReport :=
  if report.errors = [] then .ok report else .error ⟨"ComparisonReport", report.errors⟩

theorem validate_eq_ok {report validated : ComparisonReport} :
    report.validate = .ok validated ↔ report.errors = [] ∧ validated = report := by
  by_cases clean : report.errors = [] <;> simp [validate, clean, eq_comm]

end ComparisonReport

end ZeroShield.Models
