import ZeroShield.Evidence.Manifest
import ZeroShield.Foundation.JsonText
import ZeroShield.Foundation.Table
import ZeroShield.Runners.ExperimentRunner

/-!
# Building and storing evidence

The bundle of a run has five files.  The digest covers the canonical text of the manifest's other
fields; the other files are only named in the manifest.
-/

namespace ZeroShield.Evidence

open Foundation Models Runners StringEnum

/-- What is taken from outside: digests, the text of a number, and the reading of typed fields. -/
structure Primitives where
  /-- The hexadecimal SHA-256 digest of a text. -/
  sha256 : String → String
  /-- The text of a finite number with a fraction. -/
  floatText : ℚ → String
  /-- A number as it is dumped before its text is hashed. -/
  dumpNumber : Number → Json Number
  /-- Read the fields of a manifest. -/
  readFields : Json → Except ValidationError EvidenceManifest

variable (primitives : Primitives)

/-- The text of the other fields of a manifest. -/
def hashedText (manifest : EvidenceManifest) : String :=
  (manifest.hashable primitives.dumpNumber).canonical (Number.text primitives.floatText)

/-- The digest of the other fields of a manifest. -/
def manifestDigest (manifest : EvidenceManifest) : String :=
  primitives.sha256 (hashedText primitives manifest)

/-- The manifest with its files. -/
structure EvidenceBundle where
  manifest : EvidenceManifest
  /-- The parsed content of each file. -/
  artefacts : List (String × Json)

/-! ## The files -/

def numberJson : Option ℚ → Json
  | none => .null
  | some number => .float number

def referenceJson (reference : CVEReference) : Json :=
  .obj
    [("cve_id", .str reference.cveId), ("domain", .str (value reference.domain)),
      ("cvss_score", numberJson reference.cvssScore), ("cisa_kev", .bool reference.cisaKev),
      ("epss_score", numberJson reference.epssScore),
      ("trust_boundary", .str reference.trustBoundary),
      ("root_cause", .str (value reference.rootCause)),
      ("vendor_mitigation", .str reference.vendorMitigation),
      ("mitigation_gap", .str reference.mitigationGap),
      ("source_urls", .arr (reference.sourceUrls.map fun url => .str url.text)),
      ("retrieved_date", .str (isoDate reference.retrievedDate))]

def experimentJson (experiment : ExperimentDefinition) : Json :=
  .obj
    [("experiment_id", .str experiment.experimentId), ("title", .str experiment.title),
      ("domain", .str (value experiment.domain)), ("description", .str experiment.description),
      ("related_cves", .arr (experiment.relatedCves.map referenceJson)),
      ("failure_pattern", .str experiment.failurePattern),
      ("root_cause", .str (value experiment.rootCause)),
      ("vendor_mitigation", .str experiment.vendorMitigation),
      ("mitigation_gap", .str experiment.mitigationGap),
      ("research_question", .str experiment.researchQuestion),
      ("hypothesis", .str experiment.hypothesis),
      ("safety_level", .str (value experiment.safetyLevel)),
      ("external_targeting", .bool experiment.externalTargeting),
      ("input_classification", .str (value experiment.inputClassification)),
      ("weaponised_payloads", .bool experiment.weaponisedPayloads),
      ("baseline_strategy", .str experiment.baselineStrategy),
      ("mitigation_strategy", .str experiment.mitigationStrategy),
      ("dataset_path", .str experiment.datasetPath.str),
      ("metrics_to_collect", .arr (experiment.metricsToCollect.map fun metric =>
        .str (value metric))),
      ("approval_status", .str (value experiment.approvalStatus)),
      ("version", .str experiment.version)]

def resultJson (result : CaseResult) : Json :=
  .obj
    [("run_id", .str result.runId), ("case_id", .str result.caseId),
      ("decision", .str (value result.decision)), ("parser_reached", .bool result.parserReached),
      ("errored", .bool result.errored),
      ("error_message", (result.errorMessage.map Json.str).getD .null),
      ("logged", .bool result.logged), ("latency_ms", .float result.latencyMs)]

/-! ## The bundle of a run -/

/-- Why no evidence is built. -/
inductive BuildFailure
  | valueError (message : String)
  | manifest (failure : ManifestFailure)

/-- The files which a manifest names. -/
def artefactPaths : List (String × PurePath) :=
  [("experiment", .ofString "experiment.json"),
    ("dataset_manifest", .ofString "dataset_manifest.json"),
    ("results", .ofString "results.json"), ("metrics", .ofString "metrics.json")]

/-- The manifest of a completed run before it is validated. -/
def draftManifest (experiment : ExperimentDefinition) (testSetId : String) (outcome : RunOutcome)
    (metrics : ExperimentMetrics Number) (safetyDecision : PolicyDecision)
    (manifestVersion : String)
    (completedAt : DateTime) (manifestSha256 : String) : EvidenceManifest where
  manifestVersion
  experimentId := experiment.experimentId
  experimentVersion := experiment.version
  runId := outcome.run.runId
  mode := outcome.run.mode
  testSetId
  testSetSha256 := outcome.run.datasetHash
  gitCommit := outcome.run.gitCommit
  startedAt := utc outcome.run.startedAt
  completedAt := utc completedAt
  strategyId := outcome.strategyId
  metrics := utc metrics
  artefactPaths
  safetyDecision := utc safetyDecision
  reviewStatus := experiment.approvalStatus
  manifestSha256

/-- The files of a bundle. -/
def bundleFiles (experiment : ExperimentDefinition) (outcome : RunOutcome)
    (metrics : ExperimentMetrics Number) (manifest : EvidenceManifest) : List (String × Json) :=
  [("experiment.json", experimentJson experiment),
    ("dataset_manifest.json", .obj
      [("dataset_path", .str experiment.datasetPath.str),
        ("sha256", .str outcome.run.datasetHash)]),
    ("results.json", .arr (outcome.caseResults.map resultJson)),
    ("metrics.json", metricsJson writtenNumber (utc metrics)),
    ("manifest.json", manifest.json)]

/-- Build the manifest of a run with a placeholder for its digest, then with its digest. -/
def buildRunEvidence (experiment : ExperimentDefinition) (testSetId : String)
    (outcome : RunOutcome) (metrics : ExperimentMetrics Number) (safetyDecision : PolicyDecision)
    (manifestVersion : String := "1.0.0") : Except BuildFailure EvidenceBundle := do
  match outcome.run.completedAt with
  | none =>
      .error (.valueError "cannot build evidence for a run that has not completed")
  | some completedAt =>
      let draft := draftManifest experiment testSetId outcome metrics safetyDecision
        manifestVersion completedAt
      let unhashed ← (draft (String.ofList (List.replicate 64 '0'))).validate.mapError .manifest
      let manifest ← (draft (manifestDigest primitives unhashed)).validate.mapError .manifest
      return { manifest, artefacts := bundleFiles experiment outcome metrics manifest }

/-- Recompute the digest of a manifest. -/
def verifyManifestIntegrity (manifest : EvidenceManifest) : Bool :=
  manifestDigest primitives manifest = manifest.manifestSha256

/-- A bundle which was built has a valid manifest with its digest, and the five files. -/
structure EvidenceBundle.WellFormed (bundle : EvidenceBundle) : Prop where
  valid : bundle.manifest.validate = .ok bundle.manifest
  digest : bundle.manifest.manifestSha256 = manifestDigest primitives bundle.manifest
  paths : bundle.manifest.artefactPaths = artefactPaths
  names : bundle.artefacts.map (·.1) =
    ["experiment.json", "dataset_manifest.json", "results.json", "metrics.json", "manifest.json"]
  written : ("manifest.json", bundle.manifest.json) ∈ bundle.artefacts

theorem wellFormed_of_build {experiment : ExperimentDefinition} {testSetId manifestVersion : String}
    {outcome : RunOutcome} {metrics : ExperimentMetrics Number} {safetyDecision : PolicyDecision}
    {bundle : EvidenceBundle}
    (built : buildRunEvidence primitives experiment testSetId outcome metrics safetyDecision
      manifestVersion = .ok bundle) : bundle.WellFormed primitives := by
  unfold buildRunEvidence at built
  split at built
  · cases built
  next completedAt _ =>
    obtain ⟨unhashed, first, built⟩ := bind_eq_ok.mp built
    obtain ⟨manifest, second, built⟩ := bind_eq_ok.mp built
    obtain rfl := EvidenceManifest.validate_eq_self (mapError_eq_ok.mp first)
    have valid := mapError_eq_ok.mp second
    obtain rfl := EvidenceManifest.validate_eq_self valid
    obtain rfl := Except.ok.inj built
    exact ⟨valid, rfl, rfl, rfl, by simp [bundleFiles]⟩

/-! ## The evidence repository -/

/-- A file of a run directory, with its parsed content or the error of parsing it. -/
structure StoredFile where
  experimentId : String
  runId : String
  /-- The segments of its path below the run directory. -/
  path : List String
  content : Except String Json

def StoredFile.key (file : StoredFile) : String × String × List String :=
  (file.experimentId, file.runId, file.path)

/-- The evidence root: its own path and the files of its run directories. -/
structure EvidenceRoot where
  path : String
  files : Table StoredFile.key

namespace EvidenceRoot

variable (root : EvidenceRoot) (experimentId runId : String)

/-- The path of a run directory. -/
def runDir : String :=
  root.path ++ "/" ++ experimentId ++ "/" ++ runId

/-- A run directory exists when it has a file. -/
def isDir : Bool :=
  root.files.rows.any fun file => file.experimentId = experimentId ∧ file.runId = runId

/-- Whether a path below a run directory is a file. -/
def isFile (path : PurePath) : Bool :=
  (root.files.lookup (experimentId, runId, path.parts)).isSome

/-- Write a file of a run directory. -/
def write (name : String) (content : Json) : EvidenceRoot :=
  { root with files := root.files.upsert ⟨experimentId, runId, [name], .ok content⟩ }

end EvidenceRoot

/-- The refusal to replace evidence. -/
def evidenceAlreadyExists (experimentId runId : String) : String :=
  s!"evidence already exists for experiment_id='{experimentId}' run_id='{runId}'; " ++
    "run directories are immutable once written"

/-- Write the files of a bundle to its run directory, which must be empty. -/
def saveRunEvidence (root : EvidenceRoot) (bundle : EvidenceBundle) : Except String EvidenceRoot :=
  let experimentId := bundle.manifest.experimentId
  let runId := bundle.manifest.runId
  if root.isDir experimentId runId then .error (evidenceAlreadyExists experimentId runId)
  else .ok (bundle.artefacts.foldl
    (fun written (name, content) => written.write experimentId runId name content) root)

/-- How loading a manifest fails. -/
inductive LoadFailure
  | fileNotFound
  | jsonDecodeError (message : String)
  | manifest (failure : ManifestFailure)

/-- Check the fields which were read. -/
def validateManifest (content : Json) : Except ManifestFailure EvidenceManifest :=
  match primitives.readFields content with
  | .error error => .error (.validation error)
  | .ok manifest => manifest.validate

def loadManifest (root : EvidenceRoot) (experimentId runId : String) :
    Except LoadFailure EvidenceManifest :=
  match root.files.lookup (experimentId, runId, ["manifest.json"]) with
  | none => .error .fileNotFound
  | some file =>
      match file.content with
      | .error message => .error (.jsonDecodeError message)
      | .ok content => (validateManifest primitives content).mapError .manifest

end ZeroShield.Evidence
