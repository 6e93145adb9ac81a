import ZeroShield.Orchestration.EvidenceGeneration

/-!
# Loading the latest evidence

The comparison of an experiment names two runs; their manifests and results are loaded from the
repository, and the cases of the original dataset where it can still be read.
-/

namespace ZeroShield.Services

open Foundation Models Evidence Repositories Orchestration

/-- A case with its results in both runs. -/
structure CaseComparison where
  caseId : String
  testCase : Option TestCase
  baseline : CaseResult
  mitigation : CaseResult

/-- Why no evidence can be loaded. -/
inductive EvidenceError
  | repository (error : RepositoryError)
  | keyError
  | typeError
  | validation (error : ValidationError)
  | dataset (failure : DatasetFailure)

/-- The latest evidence of an experiment. -/
structure EvidenceView where
  experimentId : String
  baselineManifest : EvidenceManifest
  mitigationManifest : EvidenceManifest
  comparison : ComparisonReport
  caseComparisons : List CaseComparison
  resultsDir : PurePath
  /-- Why the original dataset could not be loaded. -/
  datasetNote : Option EvidenceError

/-- How stored values are read. -/
structure EvidenceReader where
  codec : Codec
  dataset : DatasetReader
  /-- Read the fields of a result. -/
  readResult : Json → Except ValidationError CaseResult
  /-- The text of a value. -/
  str : Json → String

/-- The current directory, from which the path of a dataset starts. -/
structure Directories where
  workingDirectory : PurePath
  resultsRoot : PurePath

/-! ## Reading values -/

/-- What a loop over a value runs through. -/
def iterate : Json → Except EvidenceError (List Json)
  | .arr items => .ok items
  | .obj fields => .ok (fields.map fun field => .str field.1)
  | .str text => .ok (text.toList.map fun c => .str (String.singleton c))
  | _ => .error .typeError

/-- The value of a key. -/
def item (name : String) : Json → Except EvidenceError Json
  | .obj fields => (fields.lookup name).elim (.error .keyError) .ok
  | _ => .error .typeError

/-- Read every item of a value. -/
def readResults (reader : EvidenceReader) (results : Json) :
    Except EvidenceError (List CaseResult) := do
  let items ← iterate results
  items.mapM fun result => (reader.readResult result).mapError .validation

/-- Read every item of a value under its case identifier, which must not be a container. -/
def readResultsByCase (reader : EvidenceReader) (results : Json) :
    Except EvidenceError (List (Json × CaseResult)) := do
  let items ← iterate results
  items.mapM fun result => do
    let caseId ← item "case_id" result
    let read ← (reader.readResult result).mapError .validation
    match caseId with
    | .arr _ | .obj _ => .error .typeError
    | _ => .ok (caseId, read)

/-- The last result of a case. -/
def resultOf (results : List (Json × CaseResult)) (caseId : String) : Option CaseResult :=
  (results.reverse.find? fun entry => entry.1 = .str caseId).map (·.2)

/-- The last test case with an identifier. -/
def testCaseOf (cases : List TestCase) (caseId : String) : Option TestCase :=
  cases.reverse.find? fun case => case.caseId = caseId

/-- The cases with results in both runs. -/
def joinCases (baseline : List CaseResult) (mitigation : List (Json × CaseResult))
    (cases : List TestCase) : List CaseComparison :=
  baseline.filterMap fun result =>
    (resultOf mitigation result.caseId).map fun other =>
      { caseId := result.caseId
        testCase := testCaseOf cases result.caseId
        baseline := result
        mitigation := other }

/-- Whether an exception is told in the note on the dataset instead of being raised. -/
def EvidenceError.noted : EvidenceError → Bool
  | .repository .fileNotFound | .repository .unicodeDecode | .repository .jsonDecode => true
  | .keyError | .validation _ | .dataset _ => true
  | _ => false

/-! ## Loading -/

section Load

variable {I : Interface} (reader : EvidenceReader) (directories : Directories)
  (repository : EvidenceRepository I) (experimentId : String)

/-- A computation on a repository and what surrounds it. -/
abbrev Serving (I : Interface) : Type → Type :=
  ExceptT EvidenceError (Program (surroundings.sum I))

/-- Use the repository. -/
def stored {α : Type} (program : Program I (Except RepositoryError α)) : Serving I α :=
  ExceptT.mk ((·.mapError .repository) <$> program.inr)

/-- Continue with a result, or raise its error. -/
def checked {α : Type} (result : Except EvidenceError α) : Serving I α :=
  ExceptT.mk (pure result)

def readJsonArtefact (runId : String) (manifest : EvidenceManifest) (name : String) :
    Serving I Json :=
  match manifest.artefactPaths.lookup name with
  | none => throw .keyError
  | some path => do
      let content ← stored (repository.loadArtefact experimentId runId path.str)
      checked ((loads reader.codec content).mapError .repository)

/-- The cases of the dataset which the baseline was run on. -/
def loadDatasetCases (runId : String) (manifest : EvidenceManifest) :
    Serving I (List TestCase) := do
  let raw ← readJsonArtefact reader repository experimentId runId manifest "dataset_manifest"
  let path ← checked (item "dataset_path" raw)
  let content : Option Bytes ← ExceptT.lift (Program.inl (Program.call (I := surroundings)
    (.readBytes (directories.workingDirectory.join (reader.str path)))))
  let (testSet, _) ← checked ((content.elim (.error .fileNotFound)
    (parseTestSet reader.codec reader.dataset)).mapError .dataset)
  return testSet.cases

/-- Load the comparison, the manifests and results of both runs and the cases of the dataset. -/
def loadLatestEvidence : Serving I (Option EvidenceView) := do
  let found ← stored (repository.loadComparison experimentId)
  match found with
  | none => return none
  | some comparison =>
      let baselineManifest ←
        stored (repository.loadManifest experimentId comparison.baselineRunId)
      let mitigationManifest ←
        stored (repository.loadManifest experimentId comparison.mitigationRunId)
      let baselineJson ← readJsonArtefact reader repository experimentId
        comparison.baselineRunId baselineManifest "results"
      let baselineResults ← checked (readResults reader baselineJson)
      let mitigationJson ← readJsonArtefact reader repository experimentId
        comparison.mitigationRunId mitigationManifest "results"
      let mitigationResults ← checked (readResultsByCase reader mitigationJson)
      let dataset ← ExceptT.lift (loadDatasetCases reader directories repository experimentId
        comparison.baselineRunId baselineManifest).run
      match dataset with
      | .ok cases =>
          return some
            { experimentId, baselineManifest, mitigationManifest, comparison
              caseComparisons := joinCases baselineResults mitigationResults cases
              resultsDir := directories.resultsRoot.join experimentId
              datasetNote := none }
      | .error error =>
          if error.noted then
            return some
              { experimentId, baselineManifest, mitigationManifest, comparison
                caseComparisons := joinCases baselineResults mitigationResults []
                resultsDir := directories.resultsRoot.join experimentId
                datasetNote := some error }
          else throw error

end Load

end ZeroShield.Services
