import ZeroShield.Orchestration.ExperimentOrchestrator
import ZeroShield.Verdict.Engine

/-!
# What an effective verdict covers

Errored cases are left out of every rate, while the sample size counts all cases of the test set.
An effective verdict therefore speaks about the cases which the mitigation processed, and about the
whole test set exactly as far as the mitigation processed it.
-/

namespace ZeroShield.Verdict

open Foundation Models Metrics Runners Orchestration

section Counts

variable (scored : List (TestCase × CaseResult)) (expected : Decision)

/-- How many cases have an expected outcome. -/
def expectedCount : ℕ :=
  scored.countP fun (case, _) => case.expectedOutcome = expected

/-- How many of them were processed without error. -/
def handledCount : ℕ :=
  scored.countP fun (case, result) => case.expectedOutcome = expected ∧ result.errored = false

/-- How many of them were processed without error and decided as expected. -/
def correctCount : ℕ :=
  scored.countP fun (case, result) =>
    case.expectedOutcome = expected ∧ result.errored = false ∧ result.decision = expected

/-- How many cases were processed without error. -/
def processedCount : ℕ :=
  scored.countP fun (_, result) => result.errored = false

end Counts

/-- The required rates hold over the whole test set, and enough cases were processed. -/
structure BackedByTestSet (thresholds : VerdictThresholds) (scored : List (TestCase × CaseResult)) :
    Prop where
  accepted : thresholds.minValidAcceptanceRate * expectedCount scored .accepted ≤
    correctCount scored .accepted
  blocked : (1 - thresholds.maxFalseNegativeRate) * expectedCount scored .blocked ≤
    correctCount scored .blocked
  processed : thresholds.minTotalCases ≤ processedCount scored

/-- The required rates hold over the cases processed without error, of which both groups have some,
and the test set has enough cases. -/
structure BackedByProcessed (thresholds : VerdictThresholds)
    (scored : List (TestCase × CaseResult)) : Prop where
  someAccepted : 0 < handledCount scored .accepted
  accepted : thresholds.minValidAcceptanceRate * handledCount scored .accepted ≤
    correctCount scored .accepted
  someBlocked : 0 < handledCount scored .blocked
  blocked : (1 - thresholds.maxFalseNegativeRate) * handledCount scored .blocked ≤
    correctCount scored .blocked
  total : thresholds.minTotalCases ≤ scored.length

section Counts

variable {scored : List (TestCase × CaseResult)}

/-- Without errors the processed cases are the whole test set. -/
theorem BackedByProcessed.whole {thresholds : VerdictThresholds}
    (backed : BackedByProcessed thresholds scored)
    (clean : ∀ entry ∈ scored, entry.2.errored = false) : BackedByTestSet thresholds scored := by
  have handled (expected : Decision) :
      handledCount scored expected = expectedCount scored expected := by
    refine List.countP_congr fun entry member => ?_
    simp [clean entry member]
  have processed : processedCount scored = scored.length := by
    refine List.countP_eq_length.mpr fun entry member => ?_
    simp [clean entry member]
  refine ⟨?_, ?_, ?_⟩
  · rw [← handled]
    exact backed.accepted
  · rw [← handled]
    exact backed.blocked
  · rw [processed]
    exact backed.total

end Counts

/-- The results of a run which are scored, as pairs of a result and its expected outcome. -/
def scoredResults (scored : List (TestCase × CaseResult)) : List (CaseResult × Decision) :=
  (scored.filter (!·.2.errored)).map fun entry => (entry.2, entry.1.expectedOutcome)

theorem length_expecting_scoredResults (scored : List (TestCase × CaseResult))
    (expected : Decision) :
    (expecting expected (scoredResults scored)).length = handledCount scored expected := by
  rw [scoredResults, length_expecting_map, List.countP_filter]
  refine List.countP_congr fun entry _ => ?_
  simp

theorem deciding_expecting_scoredResults (scored : List (TestCase × CaseResult))
    (expected : Decision) :
    deciding expected (expecting expected (scoredResults scored)) =
      correctCount scored expected := by
  rw [scoredResults, deciding_expecting_map, List.countP_filter]
  refine List.countP_congr fun entry _ => ?_
  simp [and_comm, and_assoc]

/-- The rates of a run over a valid test set, in counts of its cases. -/
theorem metrics_of_records {testSet : TestSet} (valid : testSet.errors = []) {runId : String}
    {results : List CaseResult}
    (recorded : List.Forall₂ (Records runId) testSet.cases results) {now : DateTime}
    {metrics : ExperimentMetrics}
    (calculated : calculateMetrics runId results testSet.cases now = .ok metrics) :
    let scored := testSet.cases.zip results
    metrics.blockRate = safeRate (correctCount scored .blocked) (handledCount scored .blocked) ∧
      metrics.validAcceptanceRate =
        safeRate (correctCount scored .accepted) (handledCount scored .accepted) ∧
      metrics.falseNegativeRate =
        safeRate (handledCount scored .blocked - correctCount scored .blocked)
          (handledCount scored .blocked) := by
  intro scored
  obtain ⟨successful, counted, blockRate, validAcceptanceRate, falseNegativeRate⟩ :=
    calculateMetrics_spec calculated
  have kept : successful = scoredResults scored := by
    have results_eq := successfulResults_of_records (TestSet.nodup_of_errors_eq_nil valid)
      (fun _ member => member) (recorded.imp fun _ _ record => record.caseId_eq)
    rw [results_eq] at counted
    exact (Except.ok.inj counted).symm
  have partition := deciding_accepted_add_blocked (expecting .blocked (scoredResults scored))
  rw [length_expecting_scoredResults, deciding_expecting_scoredResults] at partition
  have rest : deciding .accepted (expecting .blocked (scoredResults scored)) =
      handledCount scored .blocked - correctCount scored .blocked := by omega
  subst kept
  rw [deciding_expecting_scoredResults, length_expecting_scoredResults] at blockRate
  rw [deciding_expecting_scoredResults, length_expecting_scoredResults] at validAcceptanceRate
  rw [rest, length_expecting_scoredResults] at falseNegativeRate
  exact ⟨blockRate, validAcceptanceRate, falseNegativeRate⟩

theorem correctCount_le_handledCount (scored : List (TestCase × CaseResult))
    (expected : Decision) : correctCount scored expected ≤ handledCount scored expected := by
  refine List.countP_mono_left fun entry _ hit => ?_
  simp only [decide_eq_true_eq] at hit ⊢
  exact ⟨hit.1, hit.2.1⟩

/-- An effective verdict under the default thresholds is backed by the cases which the mitigation
processed without error; it is backed by the whole test set when there was no error. -/
theorem backed_of_effective {experiment : ExperimentDefinition} {testSet : TestSet}
    (valid : testSet.errors = []) {datasetHash : String}
    {baseline mitigation : ProcessingStrategy} {request : RunRequest} {clock : ℕ → DateTime}
    {execution : ExperimentExecutionResult}
    (executed : run experiment testSet datasetHash baseline mitigation request clock =
      .ok execution)
    {analysis : Analysis}
    (analysed : analyse experiment testSet request execution clock = .ok analysis)
    {previousComparison : Option ComparisonReport} {now : DateTime}
    (effective : (computeVerdict analysis.report previousComparison defaultThresholds now).label =
      .effective) :
    let scored := testSet.cases.zip execution.mitigation.caseResults
    BackedByProcessed defaultThresholds scored ∧
      ((∀ result ∈ execution.mitigation.caseResults, result.errored = false) →
        BackedByTestSet defaultThresholds scored) := by
  intro scored
  obtain ⟨-, -, recorded⟩ := run_spec executed
  obtain ⟨baselineCalculated, calculated, total, reported, improved⟩ := analyse_spec analysed
  obtain ⟨enough, -, criteria⟩ := computeVerdict_effective.mp effective
  obtain ⟨blockRate, validAcceptanceRate, falseNegativeRate⟩ :=
    metrics_of_records valid recorded calculated
  have length : scored.length = testSet.cases.length := by
    simp [scored, recorded.length_eq]
  -- The improvement over a baseline rate, which is not negative, needs a blocked case.
  have baselineRate : 0 ≤ analysis.baselineMetrics.blockRate := by
    obtain ⟨_, _, rate, -⟩ := calculateMetrics_spec baselineCalculated
    exact rate ▸ safeRate_nonneg _ _
  have blocking : (1 / 2 : ℚ) ≤ analysis.mitigationMetrics.blockRate := by
    have improvement := criteria.improvement
    rw [improved] at improvement
    have bound : (1 / 2 : ℚ) ≤
        analysis.mitigationMetrics.blockRate - analysis.baselineMetrics.blockRate := improvement
    linarith
  rw [blockRate, le_safeRate (by norm_num)] at blocking
  have accepting := criteria.validAcceptance
  rw [reported, validAcceptanceRate, le_safeRate (by norm_num [defaultThresholds])] at accepting
  have missing := criteria.falseNegatives
  rw [reported, falseNegativeRate, safeRate_le_of_partition blocking.1
    (Nat.sub_add_cancel (correctCount_le_handledCount _ _))] at missing
  have backed : BackedByProcessed defaultThresholds scored :=
    { someAccepted := accepting.1
      accepted := accepting.2
      someBlocked := blocking.1
      blocked := missing
      total := by rw [length, ← total]; exact enough }
  refine ⟨backed, fun clean => backed.whole fun entry member => ?_⟩
  exact clean entry.2 (List.of_mem_zip member).2

/-! ## Sample runs -/

namespace Sample

/-- An experiment on request validation. -/
def experiment : ExperimentDefinition where
  experimentId := "ZC-VPN-EXP-001"
  title := "Schema canonicalisation"
  domain := .vpn
  description := "Pre-authentication request validation"
  relatedCves := []
  failurePattern := "pre_auth_request_schema_validation"
  rootCause := .inputValidationFailure
  vendorMitigation := "upgrade"
  mitigationGap := "unpatched appliances"
  researchQuestion := "Does canonicalisation block malformed requests?"
  hypothesis := "It does"
  safetyLevel := .syntheticOnly
  baselineStrategy := "vpn_baseline"
  mitigationStrategy := "vpn_mitigation"
  datasetPath := ⟨"", ["datasets", "vpn.json"]⟩
  metricsToCollect := [.blockRate]

/-- A case with a numbered identifier. -/
def case (number : ℕ) (expected : Decision) : TestCase where
  caseId := numbered "TC" '-' number
  category := if expected = .blocked then .malformed else .valid
  inputData := .obj []
  expectedOutcome := expected
  provenance := "synthetic"
  version := "1.0.0"

/-- One case to be blocked, followed by five to be accepted. -/
def testSet : TestSet where
  testSetId := "TS-001"
  version := "1.0.0"
  domain := .vpn
  cases := case 0 .blocked :: (List.range 5).map fun number => case (number + 1) .accepted

/-- The baseline accepts everything. -/
def baseline : ProcessingStrategy where
  strategyId := "vpn_baseline"
  process := fun _ _ => ⟨.ok { decision := .accepted, parserReached := true }, 1⟩

/-- The mitigation blocks the first case, and raises on the cases after the given one. -/
def mitigation (last : ℕ) : ProcessingStrategy where
  strategyId := "vpn_mitigation"
  process := fun index _ =>
    if last < index then ⟨.error ⟨"", "TimeoutError"⟩, 2⟩
    else if index = 0 then
      ⟨.ok { decision := .blocked, parserReached := false, logged := true }, 2⟩
    else ⟨.ok { decision := .accepted, parserReached := true }, 2⟩

def datasetHash : String := "9f86d081884c7d659a2feaa0c55ad015a3bf4f1b2b0b822cd15d6c15b0f00a08"

def request : RunRequest where
  baselineRunId := "RUN-001"
  mitigationRunId := "RUN-002"
  gitCommit := "0123abc"
  environment := [("python_version", "3.12.0")]
  executionContext := .localUnitTest

def clock (reading : ℕ) : DateTime := reading

/-- Run the sample with a mitigation which raises after a case, analyse it, and check the verdict
and a property of the mitigation's results. -/
def check (last : ℕ) (property : List CaseResult → Bool) : Bool :=
  match run experiment testSet datasetHash baseline (mitigation last) request clock with
  | .error _ => false
  | .ok execution =>
      match analyse experiment testSet request execution clock with
      | .error _ => false
      | .ok analysis =>
          (computeVerdict analysis.report none defaultThresholds 8).label = .effective ∧
            property execution.mitigation.caseResults

theorem check_spec (last : ℕ) (property : List CaseResult → Bool)
    (checked : check last property = true) :
    ∃ execution analysis,
      run experiment testSet datasetHash baseline (mitigation last) request clock = .ok execution ∧
        analyse experiment testSet request execution clock = .ok analysis ∧
        (computeVerdict analysis.report none defaultThresholds 8).label = .effective ∧
        property execution.mitigation.caseResults = true := by
  unfold check at checked
  split at checked
  case h_1 => cases checked
  case h_2 execution executed =>
    split at checked
    case h_1 => cases checked
    case h_2 analysis analysed =>
      exact ⟨execution, analysis, executed, analysed, of_decide_eq_true checked⟩

theorem testSet_valid : testSet.errors = [] := by decide

end Sample

/-- A mitigation which raises on no case of the sample is effective, backed by the whole test
set. -/
theorem backed_of_sample :
    ∃ execution analysis,
      run Sample.experiment Sample.testSet Sample.datasetHash Sample.baseline (Sample.mitigation 5)
          Sample.request Sample.clock = .ok execution ∧
        analyse Sample.experiment Sample.testSet Sample.request execution Sample.clock =
          .ok analysis ∧
        (computeVerdict analysis.report none defaultThresholds 8).label = .effective ∧
        BackedByTestSet defaultThresholds
          (Sample.testSet.cases.zip execution.mitigation.caseResults) := by
  obtain ⟨execution, analysis, executed, analysed, effective, clean⟩ :=
    Sample.check_spec 5 (fun results => results.all (!·.errored)) (by decide +kernel)
  refine ⟨execution, analysis, executed, analysed, effective, ?_⟩
  refine (backed_of_effective Sample.testSet_valid executed analysed effective).2 ?_
  intro result member
  simpa using List.all_eq_true.mp clean result member

/-- A mitigation which accepts one of five valid cases and raises on the others is effective too. -/
theorem not_backed_of_errors :
    ¬ ∀ (experiment : ExperimentDefinition) (testSet : TestSet) (datasetHash : String)
      (baseline mitigation : ProcessingStrategy) (request : RunRequest) (clock : ℕ → DateTime)
      (execution : ExperimentExecutionResult) (analysis : Analysis) (now : DateTime),
      testSet.errors = [] →
      run experiment testSet datasetHash baseline mitigation request clock = .ok execution →
      analyse experiment testSet request execution clock = .ok analysis →
      (computeVerdict analysis.report none defaultThresholds now).label = .effective →
      BackedByTestSet defaultThresholds
        (testSet.cases.zip execution.mitigation.caseResults) := by
  intro claim
  obtain ⟨execution, analysis, executed, analysed, effective, short⟩ :=
    Sample.check_spec 1
      (fun results => decide (processedCount (Sample.testSet.cases.zip results) < 5))
      (by decide +kernel)
  have backed := claim _ _ _ _ _ _ _ execution analysis 8 Sample.testSet_valid executed analysed
    effective
  exact absurd (of_decide_eq_true short) (Nat.not_lt.mpr backed.processed)

end ZeroShield.Verdict
