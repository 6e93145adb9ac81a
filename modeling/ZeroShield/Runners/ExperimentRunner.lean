import ZeroShield.Foundation.Fallible
import ZeroShield.Models.Policies
import ZeroShield.Models.Run

/-!
# The experiment runner

Both strategies process every case of the dataset in order.  A strategy which raises on a case
yields an errored result for that case and the run goes on.
-/

namespace ZeroShield.Runners

open Foundation Models StringEnum

/-- An exception raised by a strategy. -/
structure StrategyException where
  /-- The text of the exception, possibly empty. -/
  text : String
  /-- The name of its class. -/
  className : String

/-- What came of processing one input. -/
structure Attempt where
  /-- The outcome, or the exception raised instead. -/
  answer : Except StrategyException StrategyOutcome
  /-- The time it took. -/
  latencyMs : ℚ

/-- A strategy; its attempt at an input may depend on how many inputs it has processed before. -/
structure ProcessingStrategy where
  strategyId : String
  process : ℕ → Json → Attempt

/-- The result of one attempt at a case. -/
def executeCase (runId : String) (case : TestCase) (attempt : Attempt) :
    Except ValidationError CaseResult :=
  match attempt.answer with
  | .error exception =>
      let message := if exception.text = "" then exception.className else exception.text
      CaseResult.validate
        { runId
          caseId := case.caseId
          decision := .blocked
          parserReached := false
          errored := true
          errorMessage := some message
          logged := true
          latencyMs := attempt.latencyMs }
  | .ok outcome =>
      CaseResult.validate
        { runId
          caseId := case.caseId
          decision := outcome.decision
          parserReached := outcome.parserReached
          errored := outcome.errored
          errorMessage := outcome.errorMessage
          logged := outcome.logged
          latencyMs := attempt.latencyMs }

/-- The results of the cases from a position on. -/
def executeCases (strategy : ProcessingStrategy) (runId : String) :
    ℕ → List TestCase → Except ValidationError (List CaseResult)
  | _, [] => .ok []
  | index, case :: cases => do
      let result ← executeCase runId case (strategy.process index case.inputData)
      let results ← executeCases strategy runId (index + 1) cases
      return result :: results

/-- A run with its case results. -/
structure RunOutcome where
  run : ExperimentRun
  strategyId : String
  caseResults : List CaseResult
  deriving DecidableEq

/-- Where and when a mode of an experiment is executed. -/
structure ModeContext where
  experimentId : String
  runId : String
  mode : RunMode
  datasetHash : String
  gitCommit : String
  environment : List (String × String)
  startedAt : DateTime
  completedAt : DateTime

/-- Execute a strategy over all cases. -/
def executeMode (strategy : ProcessingStrategy) (cases : List TestCase) (context : ModeContext) :
    Except ValidationError RunOutcome := do
  let caseResults ← executeCases strategy context.runId 0 cases
  let run ← ExperimentRun.validate
    { runId := context.runId
      experimentId := context.experimentId
      mode := context.mode
      datasetHash := context.datasetHash
      gitCommit := context.gitCommit
      environment := context.environment
      startedAt := context.startedAt
      completedAt := some context.completedAt
      status := .completed }
  return { run, strategyId := strategy.strategyId, caseResults }

/-! ## Results follow the cases -/

/-- A result recorded for a case of a run. -/
structure Records (runId : String) (case : TestCase) (result : CaseResult) : Prop where
  runId_eq : result.runId = runId
  caseId_eq : result.caseId = case.caseId
  valid : result.errors = []

theorem executeCase_records {runId : String} {case : TestCase} {attempt : Attempt}
    {result : CaseResult} (executed : executeCase runId case attempt = .ok result) :
    Records runId case result := by
  unfold executeCase at executed
  split at executed
  all_goals
    obtain ⟨clean, rfl⟩ := CaseResult.validate_eq_ok.mp executed
    exact ⟨rfl, rfl, clean⟩

/-- There is exactly one result for each case, in the order of the cases. -/
theorem executeCases_records {strategy : ProcessingStrategy} {runId : String} {index : ℕ}
    {cases : List TestCase} {results : List CaseResult}
    (executed : executeCases strategy runId index cases = .ok results) :
    List.Forall₂ (Records runId) cases results := by
  induction cases generalizing index results with
  | nil =>
      cases executed
      exact .nil
  | cons case cases ih =>
      obtain ⟨result, first, executed⟩ := bind_eq_ok.mp executed
      obtain ⟨others, rest, executed⟩ := bind_eq_ok.mp executed
      cases executed
      exact .cons (executeCase_records first) (ih rest)

theorem executeMode_records {strategy : ProcessingStrategy} {cases : List TestCase}
    {context : ModeContext} {outcome : RunOutcome}
    (executed : executeMode strategy cases context = .ok outcome) :
    List.Forall₂ (Records context.runId) cases outcome.caseResults := by
  obtain ⟨caseResults, results, executed⟩ := bind_eq_ok.mp executed
  obtain ⟨run, -, executed⟩ := bind_eq_ok.mp executed
  cases executed
  exact executeCases_records results

/-! ## Running an experiment -/

/-- Why the runner does not run an experiment. -/
inductive RunnerError
  | refused (decision : PolicyDecision)
  | valueError (message : String)
  | validation (error : ValidationError)

/-- Both executions and the policy decision which admitted them. -/
structure ExperimentExecutionResult where
  baseline : RunOutcome
  mitigation : RunOutcome
  safetyDecision : PolicyDecision

/-- The identities of the two runs and where they are executed. -/
structure RunRequest where
  baselineRunId : String
  mitigationRunId : String
  gitCommit : String
  environment : List (String × String)
  executionContext : ExecutionContext := .experimentRun

/-- The strategies and the dataset are those the definition declares. -/
def checkDeclared (experiment : ExperimentDefinition) (baseline mitigation : ProcessingStrategy)
    (testSet : TestSet) : Except RunnerError Unit :=
  if baseline.strategyId ≠ experiment.baselineStrategy then
    .error
      (.valueError (s!"baseline strategy_id '{baseline.strategyId}' does not match experiment's " ++
      s!"declared baseline_strategy '{experiment.baselineStrategy}'"))
  else if mitigation.strategyId ≠ experiment.mitigationStrategy then
    .error (.valueError (s!"mitigation strategy_id '{mitigation.strategyId}' does not match " ++
      s!"experiment's declared mitigation_strategy '{experiment.mitigationStrategy}'"))
  else if testSet.domain ≠ experiment.domain then
    .error
      (.valueError (s!"dataset domain '{value testSet.domain}' does not match experiment domain " ++
      s!"'{value experiment.domain}'"))
  else .ok ()

/-- Ask the safety policy, then execute the baseline and the mitigation over a loaded dataset.  The
clock is read once for the decision and twice for each mode. -/
def run (experiment : ExperimentDefinition) (testSet : TestSet) (datasetHash : String)
    (baseline mitigation : ProcessingStrategy) (request : RunRequest) (clock : ℕ → DateTime) :
    Except RunnerError ExperimentExecutionResult := do
  let decision := SafetyPolicy.evaluate experiment request.executionContext (clock 0)
  if decision.allowed = false then
    .error (.refused decision)
  else
    checkDeclared experiment baseline mitigation testSet
    let baselineOutcome ← (executeMode baseline testSet.cases
      { experimentId := experiment.experimentId
        runId := request.baselineRunId
        mode := .baseline
        datasetHash
        gitCommit := request.gitCommit
        environment := request.environment
        startedAt := clock 1
        completedAt := clock 2 }).mapError .validation
    let mitigationOutcome ← (executeMode mitigation testSet.cases
      { experimentId := experiment.experimentId
        runId := request.mitigationRunId
        mode := .mitigated
        datasetHash
        gitCommit := request.gitCommit
        environment := request.environment
        startedAt := clock 3
        completedAt := clock 4 }).mapError .validation
    return { baseline := baselineOutcome
             mitigation := mitigationOutcome
             safetyDecision := decision }

theorem run_spec {experiment : ExperimentDefinition} {testSet : TestSet} {datasetHash : String}
    {baseline mitigation : ProcessingStrategy} {request : RunRequest} {clock : ℕ → DateTime}
    {execution : ExperimentExecutionResult}
    (executed : run experiment testSet datasetHash baseline mitigation request clock =
      .ok execution) :
    execution.safetyDecision.allowed = true ∧
      List.Forall₂ (Records request.baselineRunId) testSet.cases execution.baseline.caseResults ∧
      List.Forall₂ (Records request.mitigationRunId) testSet.cases
        execution.mitigation.caseResults := by
  simp only [run] at executed
  split at executed
  case isTrue refused => cases executed
  case isFalse allowed =>
    obtain ⟨_, -, executed⟩ := bind_eq_ok.mp executed
    obtain ⟨baselineOutcome, baselineExecuted, executed⟩ := bind_eq_ok.mp executed
    obtain ⟨mitigationOutcome, mitigationExecuted, executed⟩ := bind_eq_ok.mp executed
    cases executed
    exact ⟨by simpa using allowed, executeMode_records (mapError_eq_ok.mp baselineExecuted),
      executeMode_records (mapError_eq_ok.mp mitigationExecuted)⟩

end ZeroShield.Runners
