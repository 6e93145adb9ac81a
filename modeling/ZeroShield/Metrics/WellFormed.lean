import Mathlib.Data.List.Perm.Basic
import Mathlib.Algebra.BigOperators.Group.List.Basic
import ZeroShield.Metrics.Calculator
import ZeroShield.Metrics.Comparator

/-!
# Well-formedness of metrics

Metrics of valid results over a test set always pass their own validation, and so does a comparison
of two of them.  They depend neither on the order of the results nor on that of the test cases.
-/

namespace ZeroShield.Metrics

open Foundation Models

/-! ## The scored results -/

section Scored

variable {testCases otherCases : List TestCase} {results others : List CaseResult}
  {caseId : String} {expected : Decision}

/-- With distinct identifiers an identifier has the expected outcome of the case it belongs to. -/
theorem expectedByCaseId_eq_some (distinct : (testCases.map (·.caseId)).Nodup) :
    expectedByCaseId testCases caseId = some expected ↔
      ∃ case ∈ testCases, case.caseId = caseId ∧ case.expectedOutcome = expected := by
  constructor
  · intro found
    obtain ⟨case, first, rfl⟩ := Option.map_eq_some_iff.mp found
    have same : case.caseId = caseId := by simpa using List.find?_some first
    exact ⟨case, List.mem_reverse.mp (List.mem_of_find?_eq_some first), same, rfl⟩
  · rintro ⟨case, member, rfl, rfl⟩
    exact expectedByCaseId_of_mem distinct member

/-- The order of the test cases does not matter. -/
theorem expectedByCaseId_perm (distinct : (testCases.map (·.caseId)).Nodup)
    (permuted : otherCases.Perm testCases) :
    expectedByCaseId otherCases = expectedByCaseId testCases := by
  have otherDistinct : (otherCases.map (·.caseId)).Nodup :=
    (permuted.map _).nodup_iff.mpr distinct
  funext caseId
  apply Option.ext
  intro expected
  rw [expectedByCaseId_eq_some otherDistinct, expectedByCaseId_eq_some distinct]
  simp only [permuted.mem_iff]

/-- Every result belongs to one of the test cases. -/
def Over (testCases : List TestCase) (results : List CaseResult) : Prop :=
  ∀ result ∈ results, ∃ case ∈ testCases, case.caseId = result.caseId

/-- The result with its expected outcome, if it was processed without error. -/
def scored (testCases : List TestCase) (result : CaseResult) : Option (CaseResult × Decision) :=
  if result.errored then none
  else (expectedByCaseId testCases result.caseId).map (result, ·)

/-- Results over the test cases are scored one by one. -/
theorem successfulResults_eq (distinct : (testCases.map (·.caseId)).Nodup)
    (covers : Over testCases results) :
    successfulResults testCases results = .ok (results.filterMap (scored testCases)) := by
  induction results with
  | nil => rfl
  | cons result results ih =>
      obtain ⟨case, member, same⟩ := covers result List.mem_cons_self
      have found : expectedByCaseId testCases result.caseId = some case.expectedOutcome :=
        same ▸ expectedByCaseId_of_mem distinct member
      have rest := ih fun other later => covers other (List.mem_cons_of_mem result later)
      rw [successfulResults, found, rest, List.filterMap_cons, scored, found]
      cases errored : result.errored <;> rfl

end Scored

/-! ## The metrics of scored results -/

/-- The metrics of a run from its results and those of them which were scored. -/
def metricsOf (runId : String) (caseResults : List CaseResult)
    (successful : List (CaseResult × Decision)) (now : DateTime) (calculationVersion : String) :
    ExperimentMetrics :=
  let total := caseResults.length
  let shouldBlock := expecting .blocked successful
  let shouldAccept := expecting .accepted successful
  let blockedResults := successful.filter (·.1.decision = .blocked)
  { runId
    processingSuccessRate := safeRate successful.length total
    blockRate := safeRate (deciding .blocked shouldBlock) shouldBlock.length
    validAcceptanceRate := safeRate (deciding .accepted shouldAccept) shouldAccept.length
    falsePositiveRate := safeRate (deciding .blocked shouldAccept) shouldAccept.length
    falseNegativeRate := safeRate (deciding .accepted shouldBlock) shouldBlock.length
    parserReachRate := safeRate (shouldBlock.countP (·.1.parserReached)) shouldBlock.length
    meanLatencyMs := if total = 0 then 0 else (caseResults.map (·.latencyMs)).sum / total
    logCompletenessRate := safeRate (blockedResults.countP (·.1.logged)) blockedResults.length
    calculatedAt := now
    calculationVersion }

section MetricsOf

variable {runId : String} {caseResults others : List CaseResult}
  {successful otherSuccessful : List (CaseResult × Decision)} {now : DateTime}
  {calculationVersion : String}

theorem calculateMetrics_of_scored {testCases : List TestCase}
    (scored : successfulResults testCases caseResults = .ok successful) :
    calculateMetrics runId caseResults testCases now calculationVersion =
      (metricsOf runId caseResults successful now calculationVersion).validate.mapError
        .validation := by
  unfold calculateMetrics metricsOf
  rw [scored]
  dsimp only [bind, Except.bind]

/-- The order of the results does not matter. -/
theorem metricsOf_perm (permuted : caseResults.Perm others)
    (alsoPermuted : successful.Perm otherSuccessful) :
    metricsOf runId caseResults successful now calculationVersion =
      metricsOf runId others otherSuccessful now calculationVersion := by
  have group (expected : Decision) :
      (expecting expected successful).Perm (expecting expected otherSuccessful) :=
    alsoPermuted.filter _
  have decided (decision expected : Decision) :
      deciding decision (expecting expected successful) =
        deciding decision (expecting expected otherSuccessful) :=
    (group expected).countP_eq _
  have blocked := alsoPermuted.filter (·.1.decision = .blocked)
  have latency := (permuted.map (·.latencyMs)).sum_eq
  unfold metricsOf
  dsimp only
  rw [permuted.length_eq, alsoPermuted.length_eq, decided, decided, decided, decided,
    (group _).length_eq, (group _).length_eq, (group _).countP_eq, blocked.length_eq,
    blocked.countP_eq, latency]

/-- The two decisions share a group out between them; an empty group scores zero for both. -/
theorem safeRate_blocked_add_accepted (group : List (CaseResult × Decision)) :
    (group ≠ [] → safeRate (deciding .blocked group) group.length +
      safeRate (deciding .accepted group) group.length = 1) ∧
    (group = [] → safeRate (deciding .blocked group) group.length = 0 ∧
      safeRate (deciding .accepted group) group.length = 0) := by
  constructor
  · intro some
    have positive : group.length ≠ 0 := mt List.length_eq_zero_iff.mp some
    have scale : (group.length : ℚ) ≠ 0 := by exact_mod_cast positive
    have total : ((deciding .accepted group : ℕ) : ℚ) + deciding .blocked group = group.length := by
      exact_mod_cast deciding_accepted_add_blocked group
    rw [safeRate, safeRate, if_neg positive, if_neg positive, ← add_div, add_comm, total,
      div_self scale]
  · rintro rfl
    exact ⟨rfl, rfl⟩

theorem requireRate_eq_nil {name : String} {rate : ℚ} :
    ExperimentMetrics.requireRate name rate = [] ↔ 0 ≤ rate ∧ rate ≤ 1 := by
  simp [ExperimentMetrics.requireRate]

theorem requireRate_safeRate {name : String} {numerator denominator : ℕ}
    (part : numerator ≤ denominator) :
    ExperimentMetrics.requireRate name (safeRate numerator denominator) = [] :=
  requireRate_eq_nil.mpr ⟨safeRate_nonneg _ _, safeRate_le_one part⟩

/-- Metrics of valid results pass their own validation. -/
theorem metricsOf_errors (identified : isRunId runId = true)
    (versioned : calculationVersion ≠ "") (valid : ∀ result ∈ caseResults, result.errors = [])
    (part : successful.length ≤ caseResults.length) :
    (metricsOf runId caseResults successful now calculationVersion).errors = [] := by
  have latencies : 0 ≤ (caseResults.map (·.latencyMs)).sum := by
    apply List.sum_nonneg
    intro latency member
    obtain ⟨result, present, rfl⟩ := List.mem_map.mp member
    obtain ⟨⟨-, -⟩, nonnegative⟩ := by
      simpa only [List.append_eq_nil_iff] using (fieldsThenModel_eq_nil.mp (valid result present)).1
    simpa [requireNonnegative] using nonnegative
  have mean : 0 ≤ if caseResults.length = 0 then (0 : ℚ)
      else (caseResults.map (·.latencyMs)).sum / caseResults.length := by
    split
    · exact le_rfl
    · positivity
  have decided (decision : Decision) (group : List (CaseResult × Decision)) :
      deciding decision group ≤ group.length :=
    List.countP_le_length
  unfold ExperimentMetrics.errors
  simp only [List.append_eq_nil_iff]
  refine ⟨⟨⟨⟨⟨⟨⟨⟨⟨?_, ?_⟩, ?_⟩, ?_⟩, ?_⟩, ?_⟩, ?_⟩, ?_⟩, ?_⟩, ?_⟩
  · exact require_eq_nil.mpr identified
  · exact requireRate_safeRate part
  · exact requireRate_safeRate (decided _ _)
  · exact requireRate_safeRate (decided _ _)
  · exact requireRate_safeRate (decided _ _)
  · exact requireRate_safeRate (decided _ _)
  · exact requireRate_safeRate List.countP_le_length
  · exact require_eq_nil.mpr (decide_eq_true mean)
  · exact requireRate_safeRate List.countP_le_length
  · exact requireText_eq_nil.mpr versioned

/-- The rates of a run. -/
def rates (metrics : ExperimentMetrics) : List ℚ :=
  [metrics.processingSuccessRate, metrics.blockRate, metrics.validAcceptanceRate,
    metrics.falsePositiveRate, metrics.falseNegativeRate, metrics.parserReachRate,
    metrics.logCompletenessRate]

theorem rates_mem {metrics : ExperimentMetrics} (valid : metrics.errors = []) :
    ∀ rate ∈ rates metrics, 0 ≤ rate ∧ rate ≤ 1 := by
  simp only [ExperimentMetrics.errors, List.append_eq_nil_iff, requireRate_eq_nil] at valid
  obtain ⟨⟨⟨⟨⟨⟨⟨⟨⟨-, processing⟩, block⟩, acceptance⟩, positives⟩, negatives⟩, parser⟩, -⟩,
    logging⟩, -⟩ := valid
  simp only [rates, List.forall_mem_cons]
  exact ⟨processing, block, acceptance, positives, negatives, parser, logging, by simp⟩

end MetricsOf

/-! ## Comparisons -/

/-- The metrics of two runs can always be compared. -/
theorem compare_ok {experimentId : String} {totalCases : ℕ}
    {baselineMetrics mitigationMetrics : ExperimentMetrics} {now : DateTime}
    (identified : isExperimentId experimentId = true) (some : 1 ≤ totalCases)
    (baseline : baselineMetrics.errors = []) (mitigation : mitigationMetrics.errors = [])
    (different : baselineMetrics.runId ≠ mitigationMetrics.runId) :
    ∃ report, compare experimentId totalCases baselineMetrics mitigationMetrics now = .ok report ∧
      -1 ≤ report.blockRateImprovement ∧ report.blockRateImprovement ≤ 1 := by
  have baselineRate := rates_mem baseline baselineMetrics.blockRate (by simp [rates])
  have mitigationRate := rates_mem mitigation mitigationMetrics.blockRate (by simp [rates])
  have low : -1 ≤ mitigationMetrics.blockRate - baselineMetrics.blockRate := by linarith
  have high : mitigationMetrics.blockRate - baselineMetrics.blockRate ≤ 1 := by linarith
  have baselineId : requireRunId "baseline_run_id" baselineMetrics.runId = [] := by
    simp only [ExperimentMetrics.errors, List.append_eq_nil_iff] at baseline
    exact require_eq_nil.mpr (require_eq_nil.mp baseline.1.1.1.1.1.1.1.1.1)
  have mitigationId : requireRunId "mitigation_run_id" mitigationMetrics.runId = [] := by
    simp only [ExperimentMetrics.errors, List.append_eq_nil_iff] at mitigation
    exact require_eq_nil.mpr (require_eq_nil.mp mitigation.1.1.1.1.1.1.1.1.1)
  refine ⟨_, ComparisonReport.validate_eq_ok.mpr ⟨?_, rfl⟩, low, high⟩
  apply fieldsThenModel_eq_nil.mpr
  constructor
  · simp [ComparisonReport.fieldErrors, identified, some, low, high, baselineId, mitigationId,
      standardLimitations]
  · simp [ComparisonReport.checkRunIdsDiffer, ComparisonReport.checkMetricsRunIdsMatch, different]

/-! ## Calculated metrics -/

section Calculated

variable {testCases : List TestCase} {results : List CaseResult} {expected : Decision}

/-- Some case with a given expected outcome was processed without error. -/
def Processed (expected : Decision) (testCases : List TestCase) (results : List CaseResult) :
    Prop :=
  ∃ result ∈ results, result.errored = false ∧
    ∃ case ∈ testCases, case.caseId = result.caseId ∧ case.expectedOutcome = expected

theorem expecting_ne_nil (distinct : (testCases.map (·.caseId)).Nodup) :
    expecting expected (results.filterMap (scored testCases)) ≠ [] ↔
      Processed expected testCases results := by
  constructor
  · intro some
    obtain ⟨entry, member⟩ := List.exists_mem_of_ne_nil _ some
    obtain ⟨listed, outcome⟩ := List.mem_filter.mp member
    obtain ⟨result, present, isScored⟩ := List.mem_filterMap.mp listed
    unfold scored at isScored
    split at isScored
    case isTrue => cases isScored
    case isFalse processed =>
      obtain ⟨decision, found, rfl⟩ := Option.map_eq_some_iff.mp isScored
      have same : decision = expected := by simpa using outcome
      exact ⟨result, present, by simpa using processed,
        (expectedByCaseId_eq_some distinct).mp (same ▸ found)⟩
  · intro ⟨result, present, processed, found⟩
    have outcome := (expectedByCaseId_eq_some distinct).mpr found
    have isScored : scored testCases result = some (result, expected) := by
      rw [scored, outcome, processed]
      rfl
    exact List.ne_nil_of_mem (List.mem_filter.mpr
      ⟨List.mem_filterMap.mpr ⟨result, present, isScored⟩, by simp⟩)

end Calculated

/-- Metrics over a test set are always calculated.  Their rates lie between zero and one, the rates
of a group which is not empty sum up to one, the order of results and of test cases does not matter,
and they can be compared with the metrics of any other run. -/
theorem calculateMetrics_wellFormed (testSet : TestSet) (sound : testSet.errors = [])
    (runId : String) (identified : isRunId runId = true) (results : List CaseResult)
    (valid : ∀ result ∈ results, result.errors = []) (covers : Over testSet.cases results)
    (now : DateTime) (calculationVersion : String) (versioned : calculationVersion ≠ "") :
    ∃ metrics, calculateMetrics runId results testSet.cases now calculationVersion = .ok metrics ∧
      metrics.runId = runId ∧
      (∀ rate ∈ rates metrics, 0 ≤ rate ∧ rate ≤ 1) ∧
      (Processed .blocked testSet.cases results →
        metrics.blockRate + metrics.falseNegativeRate = 1) ∧
      (¬Processed .blocked testSet.cases results →
        metrics.blockRate = 0 ∧ metrics.falseNegativeRate = 0) ∧
      (Processed .accepted testSet.cases results →
        metrics.validAcceptanceRate + metrics.falsePositiveRate = 1) ∧
      (¬Processed .accepted testSet.cases results →
        metrics.validAcceptanceRate = 0 ∧ metrics.falsePositiveRate = 0) ∧
      (∀ others cases, others.Perm results → cases.Perm testSet.cases →
        calculateMetrics runId others cases now calculationVersion = .ok metrics) ∧
      ∀ (otherSet : TestSet) (otherRunId : String) (otherResults : List CaseResult)
        (otherNow : DateTime) (otherVersion : String) (otherMetrics : ExperimentMetrics),
        calculateMetrics otherRunId otherResults otherSet.cases otherNow otherVersion =
          .ok otherMetrics →
        runId ≠ otherRunId →
        ∀ (experimentId : String) (totalCases : ℕ) (later : DateTime),
          isExperimentId experimentId = true → 1 ≤ totalCases →
          ∃ report, compare experimentId totalCases metrics otherMetrics later = .ok report ∧
            -1 ≤ report.blockRateImprovement ∧ report.blockRateImprovement ≤ 1 := by
  have distinct := TestSet.nodup_of_errors_eq_nil sound
  have isScored := successfulResults_eq distinct covers
  have clean : (metricsOf runId results (results.filterMap (scored testSet.cases)) now
      calculationVersion).errors = [] :=
    metricsOf_errors identified versioned valid (List.length_filterMap_le _ _)
  have blocked := safeRate_blocked_add_accepted
    (expecting .blocked (results.filterMap (scored testSet.cases)))
  have accepted := safeRate_blocked_add_accepted
    (expecting .accepted (results.filterMap (scored testSet.cases)))
  have calculated : calculateMetrics runId results testSet.cases now calculationVersion =
      .ok (metricsOf runId results (results.filterMap (scored testSet.cases)) now
        calculationVersion) := by
    rw [calculateMetrics_of_scored isScored, ExperimentMetrics.validate_eq_ok.mpr ⟨clean, rfl⟩]
    rfl
  refine ⟨_, calculated, rfl, rates_mem clean, ?_, ?_, ?_, ?_, ?_, ?_⟩
  · intro processed
    exact blocked.1 ((expecting_ne_nil distinct).mpr processed)
  · intro none
    exact blocked.2 (not_not.mp (mt (expecting_ne_nil distinct).mp none))
  · intro processed
    rw [add_comm]
    exact accepted.1 ((expecting_ne_nil distinct).mpr processed)
  · intro none
    exact (accepted.2 (not_not.mp (mt (expecting_ne_nil distinct).mp none))).symm
  · intro others cases permuted casesPermuted
    have casesDistinct : (cases.map (·.caseId)).Nodup :=
      (casesPermuted.map _).nodup_iff.mpr distinct
    have othersOver : Over cases others := by
      intro result member
      obtain ⟨case, present, same⟩ := covers result (permuted.mem_iff.mp member)
      exact ⟨case, casesPermuted.mem_iff.mpr present, same⟩
    have sameScore : scored cases = scored testSet.cases := by
      unfold scored
      rw [expectedByCaseId_perm distinct casesPermuted]
    rw [calculateMetrics_of_scored (successfulResults_eq casesDistinct othersOver), sameScore,
      metricsOf_perm permuted (permuted.filterMap _),
      ExperimentMetrics.validate_eq_ok.mpr ⟨clean, rfl⟩]
    rfl
  · intro otherSet otherRunId otherResults otherNow otherVersion otherMetrics calculatedOther
      different experimentId totalCases later experiment some
    obtain ⟨successful, -, validated⟩ := bind_eq_ok.mp calculatedOther
    obtain ⟨otherClean, rfl⟩ := ExperimentMetrics.validate_eq_ok.mp (mapError_eq_ok.mp validated)
    exact compare_ok experiment some clean otherClean different

/-! ## A run over two cases -/

namespace Sample

def case (caseId : String) (category : TestCaseCategory) (expectedOutcome : Decision) :
    TestCase where
  caseId := caseId
  category := category
  inputData := .null
  expectedOutcome := expectedOutcome
  provenance := "synthetic"
  version := "1.0.0"

def testSet : TestSet where
  testSetId := "TS-1"
  version := "1.0.0"
  domain := .vpn
  cases := [case "TC-1" .malformed .blocked, case "TC-2" .valid .accepted]

/-- A case which is blocked without error. -/
def result (caseId : String) : CaseResult where
  runId := "RUN-001"
  caseId := caseId
  decision := .blocked
  parserReached := true
  errored := false
  errorMessage := none
  logged := true
  latencyMs := 2

theorem covers : Over testSet.cases [result "TC-1"] := by
  unfold Over
  decide

end Sample

theorem calculateMetrics_wellFormed_of_sample :
    ∃ metrics, calculateMetrics "RUN-001" [Sample.result "TC-1"] Sample.testSet.cases 0 =
        .ok metrics ∧ metrics.blockRate + metrics.falseNegativeRate = 1 := by
  have wellFormed := calculateMetrics_wellFormed Sample.testSet (by decide) "RUN-001"
    (by decide) [Sample.result "TC-1"] (by decide) Sample.covers 0 "1.0.0" (by decide)
  obtain ⟨metrics, calculated, -, -, blocked, -⟩ := wellFormed
  have processed : Processed .blocked Sample.testSet.cases [Sample.result "TC-1"] := by
    refine ⟨_, List.mem_cons_self, rfl, _, List.mem_cons_self, rfl, rfl⟩
  exact ⟨metrics, calculated, blocked processed⟩

end ZeroShield.Metrics
