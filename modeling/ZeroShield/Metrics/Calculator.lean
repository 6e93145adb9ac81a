import ZeroShield.Foundation.Fallible
import ZeroShield.Models.Run
import Mathlib.Algebra.Order.Field.Basic
import Mathlib.Data.List.Nodup
import Mathlib.Tactic.Positivity

/-!
# Metrics of a run

The rates of a run are counted over the cases which were processed without error, using the
expected outcome of each test case as ground truth.
-/

namespace ZeroShield.Metrics

open Foundation Models

/-- A quotient of counts; an empty group scores zero. -/
def safeRate (numerator denominator : ℕ) : ℚ :=
  if denominator = 0 then 0 else numerator / denominator

/-- A positive bound is reached exactly by a large enough part of a group which is not empty. -/
theorem le_safeRate {bound : ℚ} (positive : 0 < bound) {numerator denominator : ℕ} :
    bound ≤ safeRate numerator denominator ↔
      0 < denominator ∧ bound * denominator ≤ numerator := by
  rcases Nat.eq_zero_or_pos denominator with rfl | some
  · simp [safeRate, positive]
  · have scale : (0 : ℚ) < denominator := by exact_mod_cast some
    rw [safeRate, if_neg some.ne', le_div_iff₀ scale]
    simp [some]

/-- The part of a group which is left over is small exactly when the rest is large. -/
theorem safeRate_le_of_partition {bound : ℚ} {numerator rest denominator : ℕ}
    (some : 0 < denominator) (partition : numerator + rest = denominator) :
    safeRate numerator denominator ≤ bound ↔ (1 - bound) * denominator ≤ rest := by
  have scale : (0 : ℚ) < denominator := by exact_mod_cast some
  have total : (numerator : ℚ) + rest = denominator := by exact_mod_cast partition
  rw [safeRate, if_neg some.ne', div_le_iff₀ scale]
  constructor <;> intro bounded <;> linarith

theorem safeRate_nonneg (numerator denominator : ℕ) : 0 ≤ safeRate numerator denominator := by
  unfold safeRate
  split
  case isTrue => exact le_rfl
  case isFalse => positivity

theorem safeRate_le_one {numerator denominator : ℕ} (part : numerator ≤ denominator) :
    safeRate numerator denominator ≤ 1 := by
  unfold safeRate
  split
  case isTrue => exact zero_le_one
  case isFalse some =>
      have scale : (0 : ℚ) < denominator := by exact_mod_cast Nat.pos_of_ne_zero some
      rw [div_le_one scale]
      exact_mod_cast part

/-- Why metrics cannot be calculated. -/
inductive MetricsError
  | valueError (message : String)
  | validation (error : ValidationError)

/-- The expected outcome of a case identifier; the last test case with an identifier counts. -/
def expectedByCaseId (testCases : List TestCase) (caseId : String) : Option Decision :=
  (testCases.reverse.find? fun case => case.caseId = caseId).map (·.expectedOutcome)

/-- The results processed without error, each with its expected outcome. -/
def successfulResults (testCases : List TestCase) :
    List CaseResult → Except MetricsError (List (CaseResult × Decision))
  | [] => .ok []
  | result :: results =>
      match expectedByCaseId testCases result.caseId with
      | none =>
          .error (.valueError
            s!"case_id '{result.caseId}' has no matching TestCase; cannot score it")
      | some expected => do
          let successful ← successfulResults testCases results
          return if result.errored then successful else (result, expected) :: successful

/-- The results whose expected outcome is the given one. -/
def expecting (expected : Decision) (successful : List (CaseResult × Decision)) :
    List (CaseResult × Decision) :=
  successful.filter (·.2 = expected)

/-- How many results have a decision. -/
def deciding (decision : Decision) (group : List (CaseResult × Decision)) : ℕ :=
  group.countP (·.1.decision = decision)

/-- Compute the metrics of a run from its raw results. -/
def calculateMetrics (runId : String) (caseResults : List CaseResult) (testCases : List TestCase)
    (now : DateTime) (calculationVersion : String := "1.0.0") :
    Except MetricsError ExperimentMetrics := do
  let successful ← successfulResults testCases caseResults
  let total := caseResults.length
  let shouldBlock := expecting .blocked successful
  let shouldAccept := expecting .accepted successful
  let blockedResults := successful.filter (·.1.decision = .blocked)
  (ExperimentMetrics.validate
    { runId
      processingSuccessRate := safeRate successful.length total
      blockRate := safeRate (deciding .blocked shouldBlock) shouldBlock.length
      validAcceptanceRate := safeRate (deciding .accepted shouldAccept) shouldAccept.length
      falsePositiveRate := safeRate (deciding .blocked shouldAccept) shouldAccept.length
      falseNegativeRate := safeRate (deciding .accepted shouldBlock) shouldBlock.length
      parserReachRate := safeRate (shouldBlock.countP (·.1.parserReached)) shouldBlock.length
      meanLatencyMs := if total = 0 then 0 else (caseResults.map (·.latencyMs)).sum / total
      logCompletenessRate := safeRate (blockedResults.countP (·.1.logged)) blockedResults.length
      calculatedAt := now
      calculationVersion }).mapError .validation

/-- Every result of a group is accepted or blocked. -/
theorem deciding_accepted_add_blocked (group : List (CaseResult × Decision)) :
    deciding .accepted group + deciding .blocked group = group.length := by
  induction group with
  | nil => rfl
  | cons entry group ih =>
      simp only [deciding, List.countP_cons, List.length_cons] at ih ⊢
      cases entry.1.decision <;> simp <;> omega

/-- The rates of calculated metrics are those of the results processed without error. -/
theorem calculateMetrics_spec {runId : String} {caseResults : List CaseResult}
    {testCases : List TestCase} {now : DateTime} {calculationVersion : String}
    {metrics : ExperimentMetrics}
    (calculated : calculateMetrics runId caseResults testCases now calculationVersion =
      .ok metrics) :
    ∃ successful, successfulResults testCases caseResults = .ok successful ∧
      metrics.blockRate = safeRate (deciding .blocked (expecting .blocked successful))
        (expecting .blocked successful).length ∧
      metrics.validAcceptanceRate = safeRate (deciding .accepted (expecting .accepted successful))
        (expecting .accepted successful).length ∧
      metrics.falseNegativeRate = safeRate (deciding .accepted (expecting .blocked successful))
        (expecting .blocked successful).length := by
  obtain ⟨successful, scored, calculated⟩ := bind_eq_ok.mp calculated
  obtain ⟨-, rfl⟩ := ExperimentMetrics.validate_eq_ok.mp (mapError_eq_ok.mp calculated)
  exact ⟨successful, scored, rfl, rfl, rfl⟩

/-! ## Scoring against the test set -/

/-- With distinct identifiers every test case is found under its own. -/
theorem expectedByCaseId_of_mem {testCases : List TestCase} {case : TestCase}
    (distinct : (testCases.map (·.caseId)).Nodup) (member : case ∈ testCases) :
    expectedByCaseId testCases case.caseId = some case.expectedOutcome := by
  have found : (testCases.reverse.find? fun other => other.caseId = case.caseId).isSome :=
    List.find?_isSome.mpr ⟨case, List.mem_reverse.mpr member, by simp⟩
  obtain ⟨other, first⟩ := Option.isSome_iff_exists.mp found
  have same : other.caseId = case.caseId := by simpa using List.find?_some first
  have present : other ∈ testCases := List.mem_reverse.mp (List.mem_of_find?_eq_some first)
  rw [expectedByCaseId, first, List.inj_on_of_nodup_map distinct present member same,
    Option.map_some]

/-- The scored results are those of the cases processed without error, in order. -/
theorem successfulResults_of_records {testCases cases : List TestCase} {results : List CaseResult}
    (distinct : (testCases.map (·.caseId)).Nodup) (members : ∀ case ∈ cases, case ∈ testCases)
    (recorded : List.Forall₂ (fun case result => result.caseId = case.caseId) cases results) :
    successfulResults testCases results =
      .ok (((cases.zip results).filter (!·.2.errored)).map fun entry =>
        (entry.2, entry.1.expectedOutcome)) := by
  induction recorded with
  | nil => rfl
  | @cons case result cases results same recorded ih =>
      have found : expectedByCaseId testCases result.caseId = some case.expectedOutcome := by
        rw [same]
        exact expectedByCaseId_of_mem distinct (members case List.mem_cons_self)
      have rest := ih fun other member => members other (List.mem_cons_of_mem case member)
      rw [successfulResults, found, rest]
      cases errored : result.errored <;> simp [bind, Except.bind, errored, pure, Except.pure]

theorem length_expecting_map (scored : List (TestCase × CaseResult)) (expected : Decision) :
    (expecting expected (scored.map fun entry => (entry.2, entry.1.expectedOutcome))).length =
      scored.countP (·.1.expectedOutcome = expected) := by
  induction scored with
  | nil => rfl
  | cons entry scored ih =>
      by_cases hit : entry.1.expectedOutcome = expected <;>
        simp_all [expecting]

theorem deciding_expecting_map (scored : List (TestCase × CaseResult)) (expected : Decision) :
    deciding expected
        (expecting expected (scored.map fun entry => (entry.2, entry.1.expectedOutcome))) =
      scored.countP fun entry =>
        entry.1.expectedOutcome = expected ∧ entry.2.decision = expected := by
  induction scored with
  | nil => rfl
  | cons entry scored ih =>
      by_cases hit : entry.1.expectedOutcome = expected <;>
        by_cases decided : entry.2.decision = expected <;>
          simp_all [expecting, deciding]

end ZeroShield.Metrics
