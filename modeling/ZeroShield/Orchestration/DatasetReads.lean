import ZeroShield.Orchestration.PointerConsistency

/-!
# The reads of the dataset

A call reads the dataset file twice: first for the expected outcomes, then in the runner for the
cases and the digest.  The file may be replaced in between.
-/

namespace ZeroShield.Orchestration

open Foundation Models Metrics Runners Evidence Repositories

/-- The dataset file when the expected outcomes are loaded. -/
def ExecutionCall.scoredFile (call : ExecutionCall) : Option Bytes :=
  (call.moments 0).dataset

/-- The dataset file when the runner loads it, after the notification and the policy decision. -/
def ExecutionCall.executedFile (call : ExecutionCall) : Option Bytes :=
  (call.moments (if call.request.notifies then 3 else 2)).dataset

section Reads

variable (codec : Codec) (reader : DatasetReader) (call : ExecutionCall)

/-- Both contents of the file expect the same of every case which is in both. -/
def ExecutionCall.ReadsAgree : Prop :=
  ∀ first second scored executed hash hash',
    call.scoredFile = some first → parseTestSet codec reader first = .ok (scored, hash) →
    call.executedFile = some second → parseTestSet codec reader second = .ok (executed, hash') →
      ∀ expected ∈ scored.cases, ∀ case ∈ executed.cases, expected.caseId = case.caseId →
        expected.expectedOutcome = case.expectedOutcome

/-- The metrics are those of the cases of a dataset, with its expected outcomes, and both manifests
record its digest. -/
structure ScoredOn (dataset : TestSet) (digest : String) (prepared : Prepared) : Prop where
  baselineHash : prepared.baselineBundle.manifest.testSetSha256 = digest
  mitigationHash : prepared.mitigationBundle.manifest.testSetSha256 = digest
  baselineExecuted : List.Forall₂ (Records call.request.run.baselineRunId) dataset.cases
    prepared.execution.baseline.caseResults
  mitigationExecuted : List.Forall₂ (Records call.request.run.mitigationRunId) dataset.cases
    prepared.execution.mitigation.caseResults
  baselineScored : ∃ now, calculateMetrics call.request.run.baselineRunId
    prepared.execution.baseline.caseResults prepared.testSet.cases now =
      .ok prepared.baselineMetrics
  mitigationScored : ∃ now, calculateMetrics call.request.run.mitigationRunId
    prepared.execution.mitigation.caseResults prepared.testSet.cases now =
      .ok prepared.mitigationMetrics
  expected : ∀ case ∈ dataset.cases,
    expectedByCaseId prepared.testSet.cases case.caseId = some case.expectedOutcome

/-- The metrics are scored against the dataset which was executed and hashed. -/
def ScoredAsHashed (prepared : Prepared) : Prop :=
  ∃ raw dataset, call.executedFile = some raw ∧
    parseTestSet codec reader raw = .ok (dataset, reader.sha256 raw) ∧
      ScoredOn call dataset (reader.sha256 raw) prepared

end Reads

section Completed

variable {codec : Codec} {reader : DatasetReader} {primitives : Primitives} {call : ExecutionCall}
  {prepared : Prepared}

theorem parseTestSet_spec {raw : Bytes} {testSet : TestSet} {hash : String}
    (parsed : parseTestSet codec reader raw = .ok (testSet, hash)) :
    testSet.errors = [] ∧ hash = reader.sha256 raw := by
  unfold parseTestSet at parsed
  split at parsed
  · cases parsed
  split at parsed
  · cases parsed
  split at parsed
  case isFalse => cases parsed
  case isTrue clean =>
    cases parsed
    exact ⟨clean, rfl⟩

/-- Loading the dataset parses what the file holds at that moment. -/
theorem loadTestSet_run {request : ExecutionRequest} {moments : ℕ → Moment} {position later : ℕ}
    {loaded : TestSet × String}
    (returned : Program.run (Semantics.observing observe) moments
      (loadTestSet codec reader request).run position () = (.ok loaded, later, ())) :
    later = position + 1 ∧ ∃ raw, (moments position).dataset = some raw ∧
      parseTestSet codec reader raw = .ok loaded := by
  change (((moments position).dataset.elim (.error .fileNotFound)
    (parseTestSet codec reader)).mapError ExecutionError.dataset, position + 1, ()) = _ at returned
  obtain ⟨parsed, rest⟩ := Prod.mk.inj returned
  obtain ⟨rfl, -⟩ := Prod.mk.inj rest
  refine ⟨rfl, ?_⟩
  replace parsed := mapError_eq_ok.mp parsed
  cases held : (moments position).dataset with
  | none =>
      rw [held] at parsed
      cases parsed
  | some raw =>
      rw [held] at parsed
      exact ⟨raw, rfl, parsed⟩

/-- The runner executes what the file holds after the notification and the policy decision. -/
theorem run_loads {request : ExecutionRequest} {moments : ℕ → Moment} {position later : ℕ}
    {execution : ExperimentExecutionResult}
    (returned : Program.run (Semantics.observing observe) moments (run codec reader request).run
      position () = (.ok execution, later, ())) :
    ∃ raw executed,
      (moments (position + if request.notifies then 2 else 1)).dataset = some raw ∧
        parseTestSet codec reader raw = .ok (executed, reader.sha256 raw) ∧
          Executed request executed (reader.sha256 raw) execution := by
  change Program.run _ _ (notify request .safetyCheck >>= _).run position () = _ at returned
  obtain ⟨_, notified, _, sent, returned⟩ := Program.run_bind_ok returned
  have moved : notified = position + if request.notifies then 1 else 0 := by
    by_cases notifies : request.notifies
    · rw [notify, if_pos notifies] at sent
      rw [if_pos notifies]
      exact (Prod.mk.inj (Prod.mk.inj sent).2).1.symm
    · rw [notify, if_neg notifies] at sent
      rw [if_neg notifies]
      exact (Prod.mk.inj (Prod.mk.inj sent).2).1.symm
  obtain ⟨time, timed, _, ticked, returned⟩ := Program.run_bind_ok returned
  obtain ⟨-, rest⟩ := Prod.mk.inj ticked
  obtain ⟨rfl, -⟩ := Prod.mk.inj rest
  dsimp only at returned
  split at returned
  · cases returned
  next allowed =>
    obtain ⟨_, checked, _, strategies, returned⟩ := Program.run_bind_ok returned
    obtain ⟨declared, rest⟩ := Prod.mk.inj strategies
    obtain ⟨rfl, -⟩ := Prod.mk.inj rest
    obtain ⟨loaded, after, _, loads, returned⟩ := Program.run_bind_ok returned
    obtain ⟨rfl, raw, held, parsed⟩ := loadTestSet_run loads
    obtain ⟨executed, hash⟩ := loaded
    obtain ⟨-, rfl⟩ := parseTestSet_spec parsed
    have executes := (executeModes_yields allowed (mapError_eq_ok.mp declared)).value returned
    refine ⟨raw, executed, ?_, parsed, executes⟩
    rw [← held, moved]
    split <;> rfl

/-- What a completed call has read, executed and scored. -/
theorem ExecutionCall.prepared_spec
    (computed : call.prepared codec reader primitives = .ok prepared) :
    ∃ first second scored executed execution,
      call.scoredFile = some first ∧
      parseTestSet codec reader first = .ok (scored, reader.sha256 first) ∧
      call.executedFile = some second ∧
      parseTestSet codec reader second = .ok (executed, reader.sha256 second) ∧
      Executed call.request executed (reader.sha256 second) execution ∧
      prepared.Analyses call.request primitives scored execution := by
  have returned : Program.run (Semantics.observing observe) call.moments
      (loadTestSet codec reader call.request >>= _).run 0 () = (.ok prepared, _, ()) :=
    Prod.ext computed rfl
  obtain ⟨⟨scored, hash⟩, middle, _, loads, returned⟩ := Program.run_bind_ok returned
  obtain ⟨rfl, first, held, parsed⟩ := loadTestSet_run loads
  obtain ⟨-, rfl⟩ := parseTestSet_spec parsed
  obtain ⟨execution, middle, _, runs, returned⟩ := Program.run_bind_ok returned
  obtain ⟨second, executed, held', parsed', executes⟩ := run_loads runs
  obtain ⟨evaluated, middle, _, evaluates, returned⟩ := Program.run_bind_ok returned
  have analyses := (evaluate_yields scored execution).value evaluates
  obtain ⟨_, _, _, -, returned⟩ := Program.run_bind_ok returned
  obtain rfl : evaluated = prepared := Except.ok.inj (congrArg Prod.fst returned)
  refine ⟨first, second, scored, executed, execution, held, parsed, ?_, parsed', executes, analyses⟩
  rw [← held', executedFile]
  split <;> rfl

/-- The runs of an execution are recorded with the digest of the dataset. -/
theorem Executed.datasetHash {request : ExecutionRequest} {testSet : TestSet} {hash : String}
    {execution : ExperimentExecutionResult} (executed : Executed request testSet hash execution) :
    execution.baseline.run.datasetHash = hash ∧ execution.mitigation.run.datasetHash = hash := by
  obtain ⟨answers, answers', clock, executed⟩ := executed
  simp only [Runners.run] at executed
  split at executed
  case isTrue => cases executed
  case isFalse =>
    obtain ⟨_, -, executed⟩ := bind_eq_ok.mp executed
    obtain ⟨baseline, first, executed⟩ := bind_eq_ok.mp executed
    obtain ⟨mitigation, second, executed⟩ := bind_eq_ok.mp executed
    cases executed
    have recorded {strategy : ProcessingStrategy} {cases : List TestCase} {context : ModeContext}
        {outcome : RunOutcome} (ran : Runners.executeMode strategy cases context = .ok outcome) :
        outcome.run.datasetHash = context.datasetHash := by
      obtain ⟨results, -, ran⟩ := bind_eq_ok.mp ran
      obtain ⟨run, validated, ran⟩ := bind_eq_ok.mp ran
      rw [ExperimentRun.validate] at validated
      split at validated <;> cases validated
      cases ran
      rfl
    exact ⟨recorded (mapError_eq_ok.mp first), recorded (mapError_eq_ok.mp second)⟩

theorem Executed.records {request : ExecutionRequest} {testSet : TestSet} {hash : String}
    {execution : ExperimentExecutionResult} (executed : Executed request testSet hash execution) :
    List.Forall₂ (Records request.run.baselineRunId) testSet.cases execution.baseline.caseResults ∧
      List.Forall₂ (Records request.run.mitigationRunId) testSet.cases
        execution.mitigation.caseResults := by
  obtain ⟨answers, answers', clock, executed⟩ := executed
  exact (run_spec executed).2

/-- Every result which is scored has an expected outcome. -/
theorem expected_of_successful {testCases : List TestCase} {results : List CaseResult}
    {successful : List (CaseResult × Decision)}
    (scored : successfulResults testCases results = .ok successful) :
    ∀ result ∈ results, ∃ decision, expectedByCaseId testCases result.caseId = some decision := by
  induction results generalizing successful with
  | nil => nofun
  | cons result results ih =>
      rw [successfulResults] at scored
      split at scored
      · cases scored
      next decision found =>
        obtain ⟨others, rest, -⟩ := bind_eq_ok.mp scored
        intro other member
        rcases List.mem_cons.mp member with rfl | later
        · exact ⟨decision, found⟩
        · exact ih rest other later

theorem exists_of_expectedByCaseId {testCases : List TestCase} {caseId : String}
    {decision : Decision} (found : expectedByCaseId testCases caseId = some decision) :
    ∃ case ∈ testCases, case.caseId = caseId ∧ case.expectedOutcome = decision := by
  obtain ⟨case, first, same⟩ := Option.map_eq_some_iff.mp found
  have identified : case.caseId = caseId := by simpa using List.find?_some first
  exact ⟨case, List.mem_reverse.mp (List.mem_of_find?_eq_some first), identified, same⟩

/-- Every executed case has a result. -/
theorem exists_result {runId : String} {cases : List TestCase} {results : List CaseResult}
    (recorded : List.Forall₂ (Records runId) cases results) {case : TestCase}
    (executes : case ∈ cases) : ∃ result ∈ results, Records runId case result := by
  induction recorded with
  | nil => cases executes
  | @cons first result cases results records recorded ih =>
      rcases List.mem_cons.mp executes with rfl | later
      · exact ⟨result, List.mem_cons_self, records⟩
      · obtain ⟨other, member, own⟩ := ih later
        exact ⟨other, List.mem_cons_of_mem _ member, own⟩

/-- Two runs are scored with the expected outcomes of a dataset exactly when the datasets expect the
same of the cases in both. -/
theorem expects_iff {scored executed : TestSet} {runId : String} {results : List CaseResult}
    {now : DateTime} {metrics : ExperimentMetrics} (valid : scored.errors = [])
    (recorded : List.Forall₂ (Records runId) executed.cases results)
    (calculated : calculateMetrics runId results scored.cases now = .ok metrics) :
    (∀ case ∈ executed.cases,
        expectedByCaseId scored.cases case.caseId = some case.expectedOutcome) ↔
      ∀ expected ∈ scored.cases, ∀ case ∈ executed.cases, expected.caseId = case.caseId →
        expected.expectedOutcome = case.expectedOutcome := by
  have distinct := TestSet.nodup_of_errors_eq_nil valid
  constructor
  · intro found expected member case executes same
    have own := expectedByCaseId_of_mem distinct member
    rw [same, found case executes] at own
    exact (Option.some.inj own).symm
  · intro agree case executes
    obtain ⟨successful, scores, -⟩ := bind_eq_ok.mp calculated
    obtain ⟨result, member, records⟩ := exists_result recorded executes
    obtain ⟨decision, found⟩ := expected_of_successful scores result member
    rw [records.caseId_eq] at found
    obtain ⟨expected, present, same, rfl⟩ := exists_of_expectedByCaseId found
    rw [found, agree expected present case executes same]

/-- The metrics of a completed call are scored against the dataset which was executed and hashed
exactly when the dataset file expects the same of common cases at both reads. -/
theorem scoredAsHashed_of_prepared
    (computed : call.prepared codec reader primitives = .ok prepared) :
    ScoredAsHashed codec reader call prepared ↔ call.ReadsAgree codec reader := by
  obtain ⟨first, second, scored, executed, execution, held, parsed, held', parsed', executes,
    analyses⟩ := ExecutionCall.prepared_spec computed
  obtain ⟨rfl, rfl, ⟨clock, analysed⟩, baselineBuilt, mitigationBuilt⟩ := analyses
  obtain ⟨valid, -⟩ := parseTestSet_spec parsed
  obtain ⟨baselineHash, mitigationHash⟩ := executes.datasetHash
  obtain ⟨baselineRecords, mitigationRecords⟩ := executes.records
  obtain ⟨baselineScored, mitigationScored, -⟩ := analyse_spec analysed
  have expects := expects_iff valid baselineRecords baselineScored
  constructor
  · rintro ⟨raw, dataset, found, read, scores⟩
    obtain rfl := Option.some.inj (found.symm.trans held')
    obtain rfl : dataset = executed :=
      (Prod.mk.inj (Except.ok.inj (read.symm.trans parsed'))).1
    intro first' second' scored' executed' hash hash' stored parses stored' parses'
    obtain rfl := Option.some.inj (stored.symm.trans held)
    obtain rfl := Option.some.inj (stored'.symm.trans held')
    obtain ⟨rfl, -⟩ := Prod.mk.inj (Except.ok.inj (parses.symm.trans parsed))
    obtain ⟨rfl, -⟩ := Prod.mk.inj (Except.ok.inj (parses'.symm.trans parsed'))
    exact expects.mp scores.expected
  · intro agree
    refine ⟨second, executed, held', parsed', ?_⟩
    exact
      { baselineHash := (manifest_of_build baselineBuilt).2.2.1.trans baselineHash
        mitigationHash := (manifest_of_build mitigationBuilt).2.2.1.trans mitigationHash
        baselineExecuted := baselineRecords
        mitigationExecuted := mitigationRecords
        baselineScored := ⟨_, baselineScored⟩
        mitigationScored := ⟨_, mitigationScored⟩
        expected := expects.mpr (agree first second _ _ _ _ held parsed held' parsed') }

/-- What is returned is what was prepared. -/
theorem persist_yields {I : Interface} (repository : EvidenceRepository I)
    (request : ExecutionRequest) (prepared : Prepared) :
    Program.YieldsOk (fun result => result.execution = prepared.execution ∧
      result.comparisonReport = prepared.report) (persist codec request repository prepared) :=
  Program.YieldsOk.andThen fun _ => Program.YieldsOk.andThen fun _ =>
    Program.YieldsOk.andThen fun _ => Program.YieldsOk.pure ⟨rfl, rfl⟩

/-- A completed call has prepared what it wrote. -/
theorem exists_persisted {I : Interface} {World : Type} {repository : EvidenceRepository I}
    {exec : Semantics I Unit World} {world after : World} {position : ℕ}
    {result : ValidationResult}
    (completed : Program.run (Semantics.beside observe exec) call.moments
      (executeAndGenerateEvidence codec reader call.request primitives repository).run 0 world =
        (.ok result, position, after)) :
    ∃ prepared middle, call.prepared codec reader primitives = .ok prepared ∧
      Program.run exec (fun _ => ()) (persist codec call.request repository prepared).run middle
        world = (.ok result, position, after) := by
  have attempted := @Program.attempt_completes _ _ _ _ (Semantics.beside observe exec)
    (fun _ => none) call.moments
    (executeAndGenerateEvidence codec reader call.request primitives repository).run 0 world
  rw [completed, executeAndGenerateEvidence, ExceptT.run_bind] at attempted
  change Program.attempt _ _ _ _ (Program.inl _ >>= _) _ _ = _ at attempted
  rw [Program.attempt_bind, Program.attempt_inl, Program.attempt_completes] at attempted
  dsimp only at attempted
  cases outcome : call.prepared codec reader primitives with
  | error error =>
      rw [ExecutionCall.prepared] at outcome
      rw [outcome] at attempted
      cases attempted
  | ok prepared =>
      rw [ExecutionCall.prepared] at outcome
      rw [outcome] at attempted
      change Program.attempt _ _ _ _ (Program.inr _) _ _ = _ at attempted
      rw [Program.attempt_inr] at attempted
      exact ⟨prepared, _, rfl, Program.run_of_attempt attempted⟩

/-- A completed call has prepared what it returns. -/
theorem exists_prepared {I : Interface} {World : Type} {repository : EvidenceRepository I}
    {exec : Semantics I Unit World} {world after : World} {position : ℕ}
    {result : ValidationResult}
    (completed : Program.run (Semantics.beside observe exec) call.moments
      (executeAndGenerateEvidence codec reader call.request primitives repository).run 0 world =
        (.ok result, position, after)) :
    ∃ prepared, call.prepared codec reader primitives = .ok prepared ∧
      result.execution = prepared.execution ∧ result.comparisonReport = prepared.report := by
  obtain ⟨prepared, _, computed, returned⟩ := exists_persisted completed
  exact ⟨prepared, computed, (persist_yields repository call.request prepared).value returned⟩

/-- A completed call scores its metrics against the dataset which it executed and hashed exactly
when the dataset file expects the same of common cases at both reads. -/
theorem scoredAsHashed_iff {I : Interface} {World : Type} {repository : EvidenceRepository I}
    {exec : Semantics I Unit World} {world after : World} {position : ℕ}
    {result : ValidationResult}
    (completed : Program.run (Semantics.beside observe exec) call.moments
      (executeAndGenerateEvidence codec reader call.request primitives repository).run 0 world =
        (.ok result, position, after)) :
    ∃ prepared, call.prepared codec reader primitives = .ok prepared ∧
      result.execution = prepared.execution ∧ result.comparisonReport = prepared.report ∧
        (ScoredAsHashed codec reader call prepared ↔ call.ReadsAgree codec reader) := by
  obtain ⟨prepared, computed, execution, report⟩ := exists_prepared completed
  exact ⟨prepared, computed, execution, report, scoredAsHashed_of_prepared computed⟩

end Completed

namespace DatasetSample

open Json Sample

def floatText : ℚ → String := Evidence.Sample.floatText

def text (expected : Decision) : String :=
  (datasetJson expected).canonical floatText

/-- The digests of both datasets, which differ in their sizes. -/
def sha256 (raw : Bytes) : String :=
  if raw.size = 199 then "b3f65585943db28e6116ac0a174aec4947110f83192e4b0a2f62e3babfa7490d"
  else "a50b226f340288031a3f71edd88dcccc0e07b422a87285c406b1926575569daa"

def reader : DatasetReader where
  sha256 := sha256
  readFields json :=
    if json = datasetJson .blocked then .ok (testSet .blocked)
    else if json = datasetJson .accepted then .ok (testSet .accepted)
    else .error ⟨"TestSet", []⟩

def codec : Codec where
  dumps json := json.canonical floatText
  dumpModel json := json.canonical floatText
  parse document :=
    if document = text .blocked then some (datasetJson .blocked)
    else if document = text .accepted then some (datasetJson .accepted)
    else none
  parseEncoded _ _ := none
  readFields _ := .error ⟨"EvidenceManifest", []⟩
  dumpComparison report := (Sample.comparisonJson report).canonical floatText
  readComparison _ := .error ⟨"ComparisonReport", []⟩

def primitives : Primitives where
  sha256 _ := Verdict.Sample.datasetHash
  floatText := floatText
  dumpNumber := .float
  readFields _ := .error ⟨"EvidenceManifest", []⟩

/-- A call during which the dataset expects the first outcome at the start, then the second. -/
def call (first later : Decision) : ExecutionCall where
  request := { Sample.call.request with notifies := true }
  moments
    | 0 =>
        { time := 0
          dataset := some (encodeUtf8 (text first))
          attempt := ⟨.ok { decision := .accepted, parserReached := true }, 1⟩ }
    | _ + 1 =>
        { time := 0
          dataset := some (encodeUtf8 (text later))
          attempt := ⟨.ok { decision := .accepted, parserReached := true }, 1⟩ }
  fates _ := .completes

/-- The call with evidence in a local directory which is empty. -/
def outcome (first later : Decision) :
    Except ExecutionError ValidationResult × ℕ × Tree :=
  Program.run (Semantics.beside observe execFile) (call first later).moments
    (executeAndGenerateEvidence codec reader (call first later).request primitives
      (LocalEvidenceRepository codec (.ofString "/results"))).run 0 {}

theorem completes {first later : Decision} (checked : (outcome first later).1.isOk = true) :
    ∃ result position after, outcome first later = (.ok result, position, after) := by
  cases ended : outcome first later with
  | mk result rest =>
      rw [ended] at checked
      cases result with
      | error error => cases checked
      | ok result => exact ⟨result, rest.1, rest.2, rfl⟩

/-- The call completes although the dataset is replaced. -/
theorem completes_replaced : ∃ result position after,
    outcome .blocked .accepted = (.ok result, position, after) :=
  completes (by decide +kernel)

theorem codec_parse (expected : Decision) :
    codec.parse (text expected) = some (datasetJson expected) := by
  have differ : text .accepted ≠ text .blocked := by decide +kernel
  rw [codec]
  dsimp only
  cases expected with
  | blocked => rw [if_pos rfl]
  | accepted => rw [if_neg differ, if_pos rfl]

theorem reader_readFields (expected : Decision) :
    reader.readFields (datasetJson expected) = .ok (testSet expected) := by
  have differ : datasetJson .accepted ≠ datasetJson .blocked := by decide
  rw [reader]
  dsimp only
  cases expected with
  | blocked => rw [if_pos rfl]
  | accepted => rw [if_neg differ, if_pos rfl]

theorem parseTestSet_text (expected : Decision) :
    parseTestSet codec reader (encodeUtf8 (text expected)) =
      .ok (testSet expected, sha256 (encodeUtf8 (text expected))) := by
  have plain : detectEncoding (encodeUtf8 (text expected)) = .utf8 := by
    cases expected <;> decide
  have fields := reader_readFields expected
  have clean : (testSet expected).errors = [] := by
    cases expected <;> decide
  have read : loads codec (encodeUtf8 (text expected)) = .ok (datasetJson expected) := by
    rw [loads, plain, decodeUtf8_encodeUtf8]
    dsimp only
    rw [codec_parse]
    dsimp only [Option.elim_some]
  have hash : reader.sha256 = sha256 := rfl
  rw [parseTestSet, read]
  dsimp only
  rw [fields]
  dsimp only
  rw [if_pos clean, hash]

theorem not_readsAgree : ¬ (call .blocked .accepted).ReadsAgree codec reader := by
  intro agree
  have same := agree _ _ _ _ _ _ rfl (parseTestSet_text .blocked) rfl (parseTestSet_text .accepted)
    _ List.mem_cons_self _ List.mem_cons_self rfl
  cases same

end DatasetSample

/-- A call during which the dataset is replaced scores as it executes and hashes exactly when the
contents expect the same. -/
theorem scoredAsHashed_iff_of_replaced : ∃ result position after,
    DatasetSample.outcome .blocked .accepted = (.ok result, position, after) ∧
      ∃ prepared,
        (DatasetSample.call .blocked .accepted).prepared DatasetSample.codec DatasetSample.reader
          DatasetSample.primitives = .ok prepared ∧
        result.execution = prepared.execution ∧ result.comparisonReport = prepared.report ∧
          (ScoredAsHashed DatasetSample.codec DatasetSample.reader
              (DatasetSample.call .blocked .accepted) prepared ↔
            (DatasetSample.call .blocked .accepted).ReadsAgree DatasetSample.codec
              DatasetSample.reader) := by
  obtain ⟨result, position, after, completed⟩ := DatasetSample.completes_replaced
  exact ⟨result, position, after, completed, scoredAsHashed_iff completed⟩

/-- A completed call scores against another dataset than it executes and hashes. -/
theorem not_scoredAsHashed_of_replaced : ∃ result position after prepared,
    DatasetSample.outcome .blocked .accepted = (.ok result, position, after) ∧
      (DatasetSample.call .blocked .accepted).prepared DatasetSample.codec DatasetSample.reader
        DatasetSample.primitives = .ok prepared ∧
      result.execution = prepared.execution ∧ result.comparisonReport = prepared.report ∧
        ¬ ScoredAsHashed DatasetSample.codec DatasetSample.reader
          (DatasetSample.call .blocked .accepted) prepared := by
  obtain ⟨result, position, after, completed⟩ := DatasetSample.completes_replaced
  obtain ⟨prepared, computed, execution, report⟩ := exists_prepared completed
  exact ⟨result, position, after, prepared, completed, computed, execution, report,
    fun scored => DatasetSample.not_readsAgree ((scoredAsHashed_of_prepared computed).mp scored)⟩

end ZeroShield.Orchestration
