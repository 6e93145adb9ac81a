import ZeroShield.Models.Policies
import ZeroShield.Models.Run

/-!
# Evidence manifests

The manifest of a run names its artefacts and carries a digest of its own other fields.
-/

namespace ZeroShield.Evidence

open Foundation Models StringEnum

/-- A record whose time is written in a time zone, a number of minutes east of UTC. -/
structure Zoned (α : Type) where
  /-- The record with its local time. -/
  value : α
  /-- The zone, if it is known. -/
  offset : Option ℤ
  deriving DecidableEq

/-- A record with a time in UTC. -/
def utc {α : Type} (value : α) : Zoned α :=
  ⟨value, some 0⟩

/-- The evidence of a run. -/
structure EvidenceManifest where
  manifestVersion : String
  experimentId : String
  experimentVersion : String
  runId : String
  mode : RunMode
  testSetId : String
  testSetSha256 : String
  gitCommit : String
  containerImageDigest : Option String := none
  startedAt : Zoned DateTime
  completedAt : Zoned DateTime
  strategyId : String
  metrics : Zoned (ExperimentMetrics Number)
  artefactPaths : List (String × PurePath)
  safetyDecision : Zoned PolicyDecision
  reviewStatus : ApprovalStatus
  manifestSha256 : String
  deriving DecidableEq

/-! ## Validation -/

/-- Prefix the errors of a nested record with the name of its field. -/
def nestedErrors (name : String) (errors : List FieldError) : List FieldError :=
  errors.map fun error => { error with loc := name :: error.loc }

/-- The pattern `^SAFE-\d{3}$`. -/
def isSafetyRuleId (ruleId : String) : Bool :=
  isPrefixedRun "SAFE-" isDecimalDigit (· = 3) ruleId

/-- A denial gives its reasons. -/
def checkReasonsPresentWhenDenied (decision : PolicyDecision) : List FieldError :=
  require (decision.allowed || decision.reasons ≠ []) []
    (.valueError "reasons must be provided when allowed is False")

/-- A decision allows exactly what passes every rule. -/
def checkAllowedConsistentWithRuleResults (decision : PolicyDecision) : List FieldError :=
  let allPassed := decision.ruleResults.all (·.2)
  if !decision.allowed && allPassed then
    [⟨[], .valueError "allowed=False requires at least one failed rule_results entry"⟩]
  else if decision.allowed && !allPassed then
    [⟨[], .valueError "allowed=True requires all rule_results entries to pass"⟩]
  else []

/-- The errors reported for a decision. -/
def decisionErrors (decision : PolicyDecision) : List FieldError :=
  fieldsThenModel
    (require (decision.ruleResults ≠ []) ["rule_results"] .tooShort ++
      decision.ruleResults.flatMap (fun (ruleId, _) =>
        require (isSafetyRuleId ruleId) ["rule_results", ruleId, "[key]"] .stringPatternMismatch) ++
      requireText "policy_version" decision.policyVersion)
    [checkReasonsPresentWhenDenied decision, checkAllowedConsistentWithRuleResults decision]

/-- Artefacts lie below the directory of the run. -/
def artefactPathsMustBeRelative (paths : List (String × PurePath)) : List FieldError :=
  let unsafeNames := (paths.filter fun (_, path) => isUnsafeRelativePath path).map (·.1)
  require unsafeNames.isEmpty ["artefact_paths"]
    (.valueError ("artefact_paths must be relative paths with no '..' segments, found unsafe " ++
      s!"for: {ExperimentDefinition.listText unsafeNames}"))

/-- The errors of single fields. -/
def EvidenceManifest.fieldErrors (manifest : EvidenceManifest) : List FieldError :=
  requireText "manifest_version" manifest.manifestVersion ++
    require (isExperimentId manifest.experimentId) ["experiment_id"] .stringPatternMismatch ++
    requireText "experiment_version" manifest.experimentVersion ++
    requireRunId "run_id" manifest.runId ++
    requireText "test_set_id" manifest.testSetId ++
    require (isSha256Hex manifest.testSetSha256) ["test_set_sha256"] .stringPatternMismatch ++
    require (isGitCommitHex manifest.gitCommit) ["git_commit"] .stringPatternMismatch ++
    requireStrategyId "strategy_id" manifest.strategyId ++
    nestedErrors "metrics" manifest.metrics.value.errors ++
    (if manifest.artefactPaths = [] then [⟨["artefact_paths"], .tooShort⟩]
      else artefactPathsMustBeRelative manifest.artefactPaths) ++
    nestedErrors "safety_decision" (decisionErrors manifest.safetyDecision.value) ++
    require (isSha256Hex manifest.manifestSha256) ["manifest_sha256"] .stringPatternMismatch

/-- The point in time in UTC, if the zone is known. -/
def Zoned.instant (time : Zoned DateTime) : Option DateTime :=
  time.offset.map fun minutes => time.value - minutes * 60000000

/-- Whether a time is before another one; a time of an unknown zone only compares to such times. -/
def Zoned.isBefore (left right : Zoned DateTime) : Option Bool :=
  match left.instant, right.instant with
  | some earlier, some later => some (earlier < later)
  | none, none => some (left.value < right.value)
  | _, _ => none

/-- The measured run is the run of the manifest. -/
def checkMetricsRunIdMatches (manifest : EvidenceManifest) : List FieldError :=
  require (manifest.metrics.value.runId = manifest.runId) []
    (.valueError "metrics.run_id must match the manifest's run_id")

/-- How a manifest cannot be read. -/
inductive ManifestFailure
  | validation (error : ValidationError)
  | typeError (message : String)

/-- Check the fields, the order of the times and the measured run. -/
def EvidenceManifest.validate (manifest : EvidenceManifest) :
    Except ManifestFailure EvidenceManifest :=
  let invalid (errors : List FieldError) : ManifestFailure :=
    .validation ⟨"EvidenceManifest", errors⟩
  if manifest.fieldErrors ≠ [] then .error (invalid manifest.fieldErrors)
  else
    match manifest.completedAt.isBefore manifest.startedAt with
    | none => .error (.typeError "can't compare offset-naive and offset-aware datetimes")
    | some true =>
        .error (invalid [⟨[], .valueError "completed_at cannot be earlier than started_at"⟩])
    | some false =>
        if checkMetricsRunIdMatches manifest ≠ [] then
          .error (invalid (checkMetricsRunIdMatches manifest))
        else .ok manifest

theorem EvidenceManifest.validate_of_clean {manifest : EvidenceManifest}
    (fields : manifest.fieldErrors = [])
    (ordered : manifest.completedAt.isBefore manifest.startedAt = some false)
    (measured : manifest.metrics.value.runId = manifest.runId) :
    manifest.validate = .ok manifest := by
  simp [validate, fields, ordered, checkMetricsRunIdMatches, measured]

/-- Validation returns the manifest itself. -/
theorem EvidenceManifest.validate_eq_self {manifest validated : EvidenceManifest}
    (valid : manifest.validate = .ok validated) : validated = manifest := by
  unfold validate at valid
  dsimp only at valid
  split at valid
  · cases valid
  · split at valid
    · cases valid
    · cases valid
    · split at valid
      · cases valid
      · exact (Except.ok.inj valid).symm

/-! ## Writing a manifest -/

/-- The zone of a time as it is written. -/
def zoneText : Option ℤ → String
  | none => ""
  | some minutes =>
      if minutes = 0 then "Z"
      else
        (if minutes < 0 then "-" else "+") ++ padded 2 (minutes.natAbs / 60) ++ ":" ++
          padded 2 (minutes.natAbs % 60)

/-- A time in its zone; the ISO format ends with the six characters of the zone UTC. -/
def timeJson {ν : Type} (time : DateTime) (offset : Option ℤ) : Json ν :=
  let text := time.isoformat.toList
  .str (String.ofList (text.take (text.length - 6)) ++ zoneText offset)

example : (timeJson 1 none : Json) = .str "1970-01-01T00:00:00.000001" ∧
    (timeJson 0 (some (-90)) : Json) = .str "1970-01-01T00:00:00-01:30" := by decide +kernel

/-- A number as it is written to a file, which has no number that is not finite. -/
def writtenNumber : Number → Json
  | .finite value => .float value
  | _ => .null

section Dumps

variable {ν : Type} (number : Number → Json ν)

/-- Metrics whose numbers are written by `number`. -/
def metricsJson (metrics : Zoned (ExperimentMetrics Number)) : Json ν :=
  .obj
    [("run_id", .str metrics.value.runId),
      ("processing_success_rate", number (.finite metrics.value.processingSuccessRate)),
      ("block_rate", number (.finite metrics.value.blockRate)),
      ("valid_acceptance_rate", number (.finite metrics.value.validAcceptanceRate)),
      ("false_positive_rate", number (.finite metrics.value.falsePositiveRate)),
      ("false_negative_rate", number (.finite metrics.value.falseNegativeRate)),
      ("parser_reach_rate", number (.finite metrics.value.parserReachRate)),
      ("mean_latency_ms", number metrics.value.meanLatencyMs),
      ("log_completeness_rate", number (.finite metrics.value.logCompletenessRate)),
      ("calculated_at", timeJson metrics.value.calculatedAt metrics.offset),
      ("calculation_version", .str metrics.value.calculationVersion)]

def decisionJson (decision : Zoned PolicyDecision) : Json ν :=
  .obj
    [("allowed", .bool decision.value.allowed),
      ("evaluated_at", timeJson decision.value.evaluatedAt decision.offset),
      ("rule_results", .obj (decision.value.ruleResults.map fun (ruleId, passed) =>
        (ruleId, .bool passed))),
      ("reasons", .arr (decision.value.reasons.map .str)),
      ("policy_version", .str decision.value.policyVersion)]

/-- The fields of a manifest without its digest. -/
def EvidenceManifest.fields (manifest : EvidenceManifest) : List (String × Json ν) :=
  [("manifest_version", .str manifest.manifestVersion),
    ("experiment_id", .str manifest.experimentId),
    ("experiment_version", .str manifest.experimentVersion),
    ("run_id", .str manifest.runId),
    ("mode", .str (value manifest.mode)),
    ("test_set_id", .str manifest.testSetId),
    ("test_set_sha256", .str manifest.testSetSha256),
    ("git_commit", .str manifest.gitCommit),
    ("container_image_digest", (manifest.containerImageDigest.map Json.str).getD .null),
    ("started_at", timeJson manifest.startedAt.value manifest.startedAt.offset),
    ("completed_at", timeJson manifest.completedAt.value manifest.completedAt.offset),
    ("strategy_id", .str manifest.strategyId),
    ("metrics", metricsJson number manifest.metrics),
    ("artefact_paths", .obj (manifest.artefactPaths.map fun (name, path) => (name, .str path.str))),
    ("safety_decision", decisionJson manifest.safetyDecision),
    ("review_status", .str (value manifest.reviewStatus))]

end Dumps

/-- What the digest of a manifest covers: its other fields, with numbers dumped by `number`. -/
def EvidenceManifest.hashable (number : Number → Json Number) (manifest : EvidenceManifest) :
    Json Number :=
  .obj (manifest.fields number)

/-- A manifest as it is written. -/
def EvidenceManifest.json (manifest : EvidenceManifest) : Json :=
  .obj (manifest.fields writtenNumber ++ [("manifest_sha256", .str manifest.manifestSha256)])

end ZeroShield.Evidence
