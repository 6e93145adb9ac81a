import ZeroShield.Foundation.Endings
import ZeroShield.Orchestration.ExperimentOrchestrator
import ZeroShield.Repositories.EvidenceRepository

/-!
# Generating evidence step by step

Every operation outside the computation is an operation of the program: reading the clock and the
dataset, processing an input, notifying the event sink, and those of the evidence repository.
-/

namespace ZeroShield.Orchestration

open Foundation Models Metrics Runners Evidence Repositories StringEnum

/-! ## What a run observes -/

/-- The operations on what surrounds a run. -/
inductive SurroundingsOp
  | eventSink (event : RunEventType)
  | clock
  /-- The content of a file, if it exists. -/
  | readBytes (path : PurePath)
  /-- Let a strategy process an input. -/
  | process (strategyId : String) (inputData : Json)

abbrev SurroundingsOp.Result : SurroundingsOp → Type
  | .eventSink _ => Unit
  | .clock => DateTime
  | .readBytes _ => Option Bytes
  | .process _ _ => Attempt

/-- The interface of what surrounds a run. -/
abbrev surroundings : Interface := ⟨SurroundingsOp, SurroundingsOp.Result⟩

/-- What is found outside at one moment. -/
structure Moment where
  time : DateTime
  /-- The content of the dataset file, if it exists. -/
  dataset : Option Bytes
  /-- What a strategy makes of its input. -/
  attempt : Attempt

/-- The operations on what surrounds a run observe the moment. -/
def observe (moment : Moment) : (op : SurroundingsOp) → op.Result
  | .eventSink _ => ()
  | .clock => moment.time
  | .readBytes _ => moment.dataset
  | .process _ _ => moment.attempt

/-! ## Loading the dataset -/

/-- How a dataset is read. -/
structure DatasetReader where
  /-- The hexadecimal SHA-256 digest of a file. -/
  sha256 : Bytes → String
  /-- Read the fields of a test set. -/
  readFields : Json → Except ValidationError TestSet

/-- Why a dataset cannot be used. -/
inductive DatasetFailure
  | fileNotFound
  | jsonDecode
  | validation (error : ValidationError)

/-- The test set of a file with its digest. -/
def parseTestSet (codec : Codec) (reader : DatasetReader) (raw : Bytes) :
    Except DatasetFailure (TestSet × String) :=
  match loads codec raw with
  | .error _ => .error .jsonDecode
  | .ok data =>
      match reader.readFields data with
      | .error error => .error (.validation error)
      | .ok testSet =>
          if testSet.errors = [] then .ok (testSet, reader.sha256 raw)
          else .error (.validation ⟨"TestSet", testSet.errors⟩)

/-- Why no evidence is generated. -/
inductive ExecutionError
  | dataset (failure : DatasetFailure)
  | runner (error : RunnerError)
  | metrics (error : MetricsError)
  | build (failure : BuildFailure)
  | validation (error : ValidationError)
  | repository (error : RepositoryError)

/-- A computation on what surrounds a run. -/
abbrev Observing : Type → Type :=
  ExceptT ExecutionError (Program surroundings)

/-- Perform an operation on what surrounds a run. -/
def outside (op : SurroundingsOp) : Observing op.Result :=
  ExceptT.lift (Program.call (I := surroundings) op)

/-- Continue with a result, or raise its error. -/
def orRaise {ε α : Type} (translate : ε → ExecutionError) (result : Except ε α) : Observing α :=
  ExceptT.mk (pure (result.mapError translate))

/-! ## Running both strategies -/

/-- The definition of an experiment with what it is run on. -/
structure ExecutionRequest where
  experiment : ExperimentDefinition
  datasetPath : PurePath
  /-- The identifiers of the strategies which are given. -/
  baseline : String
  mitigation : String
  run : RunRequest
  /-- Whether an event sink is given. -/
  notifies : Bool

section Steps

variable (codec : Codec) (reader : DatasetReader) (request : ExecutionRequest)

/-- Notify the event sink, if there is one. -/
def notify (event : RunEventType) : Observing Unit :=
  if request.notifies then outside (.eventSink event) else return ()

def loadTestSet : Observing (TestSet × String) := do
  let raw : Option Bytes ← outside (.readBytes request.datasetPath)
  orRaise .dataset (raw.elim (.error .fileNotFound) (parseTestSet codec reader))

/-- Process every case in order. -/
def executeCases (strategyId runId : String) : List TestCase → Observing (List CaseResult)
  | [] => return []
  | case :: cases => do
      let attempt : Attempt ← outside (.process strategyId case.inputData)
      let result ← orRaise (.runner ∘ .validation) (executeCase runId case attempt)
      let results ← executeCases strategyId runId cases
      return result :: results

def executeMode (strategyId runId : String) (mode : RunMode) (cases : List TestCase)
    (datasetHash : String) : Observing RunOutcome := do
  let startedAt : DateTime ← outside .clock
  let caseResults ← executeCases strategyId runId cases
  let completedAt : DateTime ← outside .clock
  let run ← orRaise (.runner ∘ .validation) (ExperimentRun.validate
    { runId
      experimentId := request.experiment.experimentId
      mode
      datasetHash
      gitCommit := request.run.gitCommit
      environment := request.run.environment
      startedAt
      completedAt := some completedAt
      status := .completed })
  return { run, strategyId, caseResults }

/-- The strategies are those which the definition declares. -/
def checkStrategies : Except RunnerError Unit :=
  if request.baseline ≠ request.experiment.baselineStrategy then
    .error
      (.valueError (s!"baseline strategy_id '{request.baseline}' does not match experiment's " ++
      s!"declared baseline_strategy '{request.experiment.baselineStrategy}'"))
  else if request.mitigation ≠ request.experiment.mitigationStrategy then
    .error (.valueError (s!"mitigation strategy_id '{request.mitigation}' does not match " ++
      s!"experiment's declared mitigation_strategy '{request.experiment.mitigationStrategy}'"))
  else .ok ()

/-- The dataset is of the domain of the definition. -/
def checkDomain (testSet : TestSet) : Except RunnerError Unit :=
  if testSet.domain ≠ request.experiment.domain then
    .error
      (.valueError (s!"dataset domain '{value testSet.domain}' does not match experiment domain " ++
      s!"'{value request.experiment.domain}'"))
  else .ok ()

/-- Execute both strategies over a dataset. -/
def executeModes (testSet : TestSet) (datasetHash : String) (decision : PolicyDecision) :
    Observing ExperimentExecutionResult := do
  orRaise .runner (checkDomain request testSet)
  notify request .runningBaseline
  let baseline ← executeMode request request.baseline request.run.baselineRunId .baseline
    testSet.cases datasetHash
  notify request .runningMitigation
  let mitigation ← executeMode request request.mitigation request.run.mitigationRunId .mitigated
    testSet.cases datasetHash
  return { baseline, mitigation, safetyDecision := decision }

/-- Ask the safety policy, then load the dataset and execute both strategies over it. -/
def run : Observing ExperimentExecutionResult := do
  notify request .safetyCheck
  let time : DateTime ← outside .clock
  let decision := SafetyPolicy.evaluate request.experiment request.run.executionContext time
  if decision.allowed = false then throw (.runner (.refused decision))
  else
    orRaise .runner (checkStrategies request)
    let (testSet, datasetHash) ← loadTestSet codec reader request
    executeModes request testSet datasetHash decision

/-! ## Evidence -/

/-- What is computed before anything is written. -/
structure Prepared where
  /-- The test set which the runs are scored against. -/
  testSet : TestSet
  execution : ExperimentExecutionResult
  baselineMetrics : ExperimentMetrics
  mitigationMetrics : ExperimentMetrics
  baselineBundle : Evidence.EvidenceBundle
  mitigationBundle : Evidence.EvidenceBundle
  report : ComparisonReport

variable (primitives : Primitives)

/-- Score both runs against a test set, build their evidence and compare them. -/
def evaluate (testSet : TestSet) (execution : ExperimentExecutionResult) : Observing Prepared := do
  notify request .analysing
  let baselineAt : DateTime ← outside .clock
  let baselineMetrics ← orRaise .metrics (calculateMetrics request.run.baselineRunId
    execution.baseline.caseResults testSet.cases baselineAt)
  let mitigationAt : DateTime ← outside .clock
  let mitigationMetrics ← orRaise .metrics (calculateMetrics request.run.mitigationRunId
    execution.mitigation.caseResults testSet.cases mitigationAt)
  let baselineBundle ← orRaise .build (buildRunEvidence primitives request.experiment
    testSet.testSetId execution.baseline baselineMetrics execution.safetyDecision)
  let mitigationBundle ← orRaise .build (buildRunEvidence primitives request.experiment
    testSet.testSetId execution.mitigation mitigationMetrics execution.safetyDecision)
  let comparedAt : DateTime ← outside .clock
  let report ← orRaise .validation (compare request.experiment.experimentId testSet.cases.length
    baselineMetrics mitigationMetrics comparedAt)
  return {
    testSet := testSet
    execution := execution
    baselineMetrics, mitigationMetrics, baselineBundle, mitigationBundle, report }

/-- Everything up to the writing of evidence. -/
def prepare : Observing Prepared := do
  let (testSet, _) ← loadTestSet codec reader request
  let execution ← run codec reader request
  let prepared ← evaluate request primitives testSet execution
  notify request .generatingEvidence
  return prepared

/-- The locations of the evidence with the comparison. -/
structure ValidationResult where
  execution : ExperimentExecutionResult
  baselineManifestPath : PurePath
  mitigationManifestPath : PurePath
  comparisonPath : PurePath
  comparisonReport : ComparisonReport

/-- The path of the manifest in a run directory. -/
def manifestPath (runDir : PurePath) : PurePath :=
  { runDir with parts := runDir.parts ++ ["manifest.json"] }

variable {I : Interface} (repository : EvidenceRepository I)

/-- Write the evidence of both runs, then the comparison. -/
def persist (prepared : Prepared) : ExceptT ExecutionError (Program I) ValidationResult := do
  let baselineDir ← ExceptT.mk ((·.mapError .repository) <$>
    repository.saveRunEvidence (encodeBundle codec prepared.baselineBundle))
  let mitigationDir ← ExceptT.mk ((·.mapError .repository) <$>
    repository.saveRunEvidence (encodeBundle codec prepared.mitigationBundle))
  let comparisonPath ← ExceptT.lift
    (repository.saveComparison request.experiment.experimentId prepared.report)
  return {
    execution := prepared.execution
    baselineManifestPath := manifestPath baselineDir
    mitigationManifestPath := manifestPath mitigationDir
    comparisonPath
    comparisonReport := prepared.report }

/-- Run baseline and mitigation, compute metrics and comparison, and persist evidence for both. -/
def executeAndGenerateEvidence :
    ExceptT ExecutionError (Program (surroundings.sum I)) ValidationResult := do
  let prepared ← ExceptT.mk (Program.inl (prepare codec reader request primitives).run)
  ExceptT.mk (Program.inr (persist codec request repository prepared).run)

end Steps

/-! ## The steps compute what the functions compute -/

section Yields

variable {ε α : Type} {property : α → Prop}

theorem yields_orRaise {translate : ε → ExecutionError} {result : Except ε α}
    (holds : ∀ value, result = .ok value → property value) :
    Program.YieldsOk property (orRaise translate result) :=
  Program.YieldsOk.mk fun value returned => holds value (mapError_eq_ok.mp returned)

/-- The answers of a strategy before a position do not matter. -/
theorem executeCases_congr {strategyId runId : String} {answers answers' : ℕ → Json → Attempt}
    {index : ℕ} {cases : List TestCase}
    (same : ∀ later input, index ≤ later → answers later input = answers' later input) :
    Runners.executeCases ⟨strategyId, answers⟩ runId index cases =
      Runners.executeCases ⟨strategyId, answers'⟩ runId index cases := by
  induction cases generalizing index with
  | nil => rfl
  | cons case cases ih =>
      have rest : Runners.executeCases ⟨strategyId, answers⟩ runId (index + 1) cases =
          Runners.executeCases ⟨strategyId, answers'⟩ runId (index + 1) cases :=
        ih fun later input after => same later input (by omega)
      rw [Runners.executeCases, Runners.executeCases, rest]
      dsimp only
      rw [same index case.inputData le_rfl]

/-- The results are those of a strategy which answers as observed. -/
theorem executeCases_yields (strategyId runId : String) (index : ℕ) (cases : List TestCase) :
    Program.YieldsOk (fun results => ∃ answers,
      Runners.executeCases ⟨strategyId, answers⟩ runId index cases = .ok results)
        (executeCases strategyId runId cases) := by
  induction cases generalizing index with
  | nil => exact Program.YieldsOk.pure ⟨fun _ _ => ⟨.error ⟨"", ""⟩, 0⟩, rfl⟩
  | cons case cases ih =>
      refine Program.YieldsOk.andThen fun attempt => ?_
      refine Program.YieldsOk.bind (yields_orRaise fun _ returned => returned)
        fun result executed => ?_
      refine Program.YieldsOk.bind (ih (index + 1)) fun results rest => Program.YieldsOk.pure ?_
      obtain ⟨answers, rest⟩ := rest
      refine ⟨fun later input => if later = index then attempt else answers later input, ?_⟩
      have later : Runners.executeCases
          ⟨strategyId, fun later input => if later = index then attempt else answers later input⟩
          runId (index + 1) cases = .ok results := by
        rw [← rest]
        exact executeCases_congr fun later input after => if_neg (by omega)
      rw [Runners.executeCases]
      exact bind_eq_ok.mpr ⟨result, by simpa using executed, bind_eq_ok.mpr ⟨results, later, rfl⟩⟩

section Steps

variable {codec : Codec} {reader : DatasetReader} {request : ExecutionRequest}
  {primitives : Primitives}

/-- A run of a mode is one of a strategy which answers as observed. -/
theorem executeMode_yields (strategyId runId : String) (mode : RunMode) (cases : List TestCase)
    (datasetHash : String) :
    Program.YieldsOk (fun outcome => ∃ answers startedAt completedAt,
      Runners.executeMode ⟨strategyId, answers⟩ cases
        { experimentId := request.experiment.experimentId
          runId
          mode
          datasetHash
          gitCommit := request.run.gitCommit
          environment := request.run.environment
          startedAt
          completedAt } = .ok outcome)
      (executeMode request strategyId runId mode cases datasetHash) := by
  refine Program.YieldsOk.andThen fun startedAt => ?_
  refine Program.YieldsOk.bind (executeCases_yields strategyId runId 0 cases) fun results cases =>
    ?_
  refine Program.YieldsOk.andThen fun completedAt => ?_
  refine Program.YieldsOk.bind (yields_orRaise fun _ returned => returned) fun run validated => ?_
  obtain ⟨answers, executed⟩ := cases
  refine Program.YieldsOk.pure ⟨answers, startedAt, completedAt, ?_⟩
  exact bind_eq_ok.mpr ⟨results, executed, bind_eq_ok.mpr ⟨run, validated, rfl⟩⟩

theorem checkDeclared_of_checks {answers answers' : ℕ → Json → Attempt} {testSet : TestSet}
    (strategies : checkStrategies request = .ok ())
    (domain : checkDomain request testSet = .ok ()) :
    checkDeclared request.experiment ⟨request.baseline, answers⟩ ⟨request.mitigation, answers'⟩
      testSet = .ok () := by
  unfold checkStrategies at strategies
  unfold checkDomain at domain
  unfold checkDeclared
  split_ifs at strategies with first second
  split_ifs at domain with third
  rw [if_neg first, if_neg second, if_neg third]

/-- An execution which the runner computes from a dataset, with strategies which answer as
observed. -/
def Executed (request : ExecutionRequest) (testSet : TestSet) (datasetHash : String)
    (execution : ExperimentExecutionResult) : Prop :=
  ∃ answers answers' clock, Runners.run request.experiment testSet datasetHash
    ⟨request.baseline, answers⟩ ⟨request.mitigation, answers'⟩ request.run clock = .ok execution

theorem executeModes_yields {testSet : TestSet} {datasetHash : String} {time : DateTime}
    (allowed : ¬ (SafetyPolicy.evaluate request.experiment request.run.executionContext
      time).allowed = false) (strategies : checkStrategies request = .ok ()) :
    Program.YieldsOk (Executed request testSet datasetHash)
      (executeModes request testSet datasetHash
        (SafetyPolicy.evaluate request.experiment request.run.executionContext time)) := by
  refine Program.YieldsOk.bind (yields_orRaise fun _ returned => returned) fun _ domain => ?_
  refine Program.YieldsOk.andThen fun _ => ?_
  refine Program.YieldsOk.bind (executeMode_yields _ _ _ _ _) fun baseline executed => ?_
  refine Program.YieldsOk.andThen fun _ => ?_
  refine Program.YieldsOk.bind (executeMode_yields _ _ _ _ _) fun mitigation executed' => ?_
  obtain ⟨answers, startedAt, completedAt, executed⟩ := executed
  obtain ⟨answers', startedAt', completedAt', executed'⟩ := executed'
  refine Program.YieldsOk.pure ⟨answers, answers', fun
    | 0 => time
    | 1 => startedAt
    | 2 => completedAt
    | 3 => startedAt'
    | _ => completedAt', ?_⟩
  refine (if_neg allowed).trans ?_
  exact bind_eq_ok.mpr ⟨_, checkDeclared_of_checks strategies domain, bind_eq_ok.mpr ⟨_,
    mapError_eq_ok.mpr executed, bind_eq_ok.mpr ⟨_, mapError_eq_ok.mpr executed', rfl⟩⟩⟩

/-- What is prepared from a test set and an execution. -/
structure Prepared.Analyses (prepared : Prepared) (request : ExecutionRequest)
    (primitives : Primitives) (testSet : TestSet)
    (execution : ExperimentExecutionResult) : Prop where
  testSet_eq : prepared.testSet = testSet
  execution_eq : prepared.execution = execution
  analysed : ∃ clock, analyse request.experiment testSet request.run execution clock =
    .ok ⟨prepared.baselineMetrics, prepared.mitigationMetrics, prepared.report⟩
  baselineBuilt : buildRunEvidence primitives request.experiment testSet.testSetId
    execution.baseline prepared.baselineMetrics execution.safetyDecision =
      .ok prepared.baselineBundle
  mitigationBuilt : buildRunEvidence primitives request.experiment testSet.testSetId
    execution.mitigation prepared.mitigationMetrics execution.safetyDecision =
      .ok prepared.mitigationBundle

theorem evaluate_yields (testSet : TestSet) (execution : ExperimentExecutionResult) :
    Program.YieldsOk
      (fun prepared => Prepared.Analyses prepared request primitives testSet execution)
      (evaluate request primitives testSet execution) := by
  refine Program.YieldsOk.andThen fun _ => Program.YieldsOk.andThen fun baselineAt => ?_
  refine Program.YieldsOk.bind (yields_orRaise fun _ returned => returned) fun _ baseline => ?_
  refine Program.YieldsOk.andThen fun mitigationAt => ?_
  refine Program.YieldsOk.bind (yields_orRaise fun _ returned => returned) fun _ mitigation => ?_
  refine Program.YieldsOk.bind (yields_orRaise fun _ returned => returned) fun _ baselineBuilt => ?_
  refine Program.YieldsOk.bind (yields_orRaise fun _ returned => returned) fun _ mitigationBuilt =>
    ?_
  refine Program.YieldsOk.andThen fun comparedAt => ?_
  refine Program.YieldsOk.bind (yields_orRaise fun _ returned => returned) fun _ compared => ?_
  refine Program.YieldsOk.pure ⟨rfl, rfl, ⟨fun
    | 5 => baselineAt
    | 6 => mitigationAt
    | _ => comparedAt, ?_⟩, baselineBuilt, mitigationBuilt⟩
  exact bind_eq_ok.mpr ⟨_, baseline, bind_eq_ok.mpr ⟨_, mitigation,
    bind_eq_ok.mpr ⟨_, mapError_eq_ok.mpr compared, rfl⟩⟩⟩

end Steps

end Yields

end ZeroShield.Orchestration
