import ZeroShield.Foundation.Json
import ZeroShield.Models.Shared

/-!
# Experiment definitions and versions

Records are raw: a copy with updated fields is made without validation, so a record may be invalid
and validity is a property of its own, computed as the list of reported errors.
-/

namespace ZeroShield.Models

open Foundation StringEnum

/-- A cited vulnerability. -/
structure CVEReference where
  cveId : String
  domain : Domain
  cvssScore : Option ℚ
  cisaKev : Bool
  epssScore : Option ℚ
  trustBoundary : String
  rootCause : RootCauseCategory
  vendorMitigation : String
  mitigationGap : String
  sourceUrls : List HttpUrl
  retrievedDate : Date
  deriving DecidableEq

/-- An optional number between bounds. -/
def requireBetween (name : String) (low high : ℚ) (value : Option ℚ) : List FieldError :=
  match value with
  | none => []
  | some value =>
      require (low ≤ value) [name] .greaterThanEqual ++
        require (value ≤ high) [name] .lessThanEqual

/-- A strategy identifier; the length is checked before the pattern. -/
def requireStrategyId (name strategyId : String) : List FieldError :=
  if strategyId = "" then [⟨[name], .stringTooShort⟩]
  else require (isStrategyId strategyId) [name] .stringPatternMismatch

/-- Errors found while reading the fields of a cited vulnerability which are sent as texts. -/
structure CVEReference.ReadErrors where
  domain : List FieldError := []
  rootCause : List FieldError := []
  sourceUrls : List FieldError := []
  retrievedDate : List FieldError := []

/-- The errors reported for a cited vulnerability, in the order of its fields. -/
def CVEReference.errors (reference : CVEReference) (read : CVEReference.ReadErrors := {}) :
    List FieldError :=
  require (isCveId reference.cveId) ["cve_id"] .stringPatternMismatch ++
    read.domain ++
    requireBetween "cvss_score" 0 10 reference.cvssScore ++
    requireBetween "epss_score" 0 1 reference.epssScore ++
    requireText "trust_boundary" reference.trustBoundary ++
    read.rootCause ++
    requireText "vendor_mitigation" reference.vendorMitigation ++
    requireText "mitigation_gap" reference.mitigationGap ++
    (if read.sourceUrls = [] then require (reference.sourceUrls ≠ []) ["source_urls"] .tooShort
      else read.sourceUrls) ++
    read.retrievedDate

/-- A complete experiment definition, the payload of the trusted core. -/
structure ExperimentDefinition where
  experimentId : String
  title : String
  domain : Domain
  description : String
  relatedCves : List CVEReference
  failurePattern : String
  rootCause : RootCauseCategory
  vendorMitigation : String
  mitigationGap : String
  researchQuestion : String
  hypothesis : String
  safetyLevel : SafetyLevel
  externalTargeting : Bool := false
  inputClassification : InputClassification := .synthetic
  weaponisedPayloads : Bool := false
  baselineStrategy : String
  mitigationStrategy : String
  datasetPath : PurePath
  metricsToCollect : List MetricName
  approvalStatus : ApprovalStatus := .draft
  version : String := "1.0.0"
  deriving DecidableEq

namespace ExperimentDefinition

/-- Prefix the errors of a list's items with the list's name and the item's position. -/
def itemErrors (name : String) (references : List CVEReference) : List FieldError :=
  references.zipIdx.flatMap fun (reference, index) =>
    reference.errors.map fun error => { error with loc := name :: toString index :: error.loc }

/-- Errors found while reading the fields of a definition which are sent as texts. -/
structure ReadErrors where
  rootCause : List FieldError := []
  metricsToCollect : List FieldError := []

/-- The errors of single fields, in the order of the fields. -/
def fieldErrors (definition : ExperimentDefinition) (read : ReadErrors := {}) : List FieldError :=
  require (isExperimentId definition.experimentId) ["experiment_id"] .stringPatternMismatch ++
    requireText "title" definition.title ++
    requireText "description" definition.description ++
    require (definition.relatedCves ≠ []) ["related_cves"] .tooShort ++
    itemErrors "related_cves" definition.relatedCves ++
    requireText "failure_pattern" definition.failurePattern ++
    read.rootCause ++
    requireText "vendor_mitigation" definition.vendorMitigation ++
    requireText "mitigation_gap" definition.mitigationGap ++
    requireText "research_question" definition.researchQuestion ++
    requireText "hypothesis" definition.hypothesis ++
    requireStrategyId "baseline_strategy" definition.baselineStrategy ++
    requireStrategyId "mitigation_strategy" definition.mitigationStrategy ++
    require (!isUnsafeRelativePath definition.datasetPath) ["dataset_path"]
      (.valueError
        ("dataset_path must be a relative path with no '..' segments, for portability " ++
        "and reproducibility")) ++
    (if read.metricsToCollect = [] then
        require (definition.metricsToCollect ≠ []) ["metrics_to_collect"] .tooShort
      else read.metricsToCollect) ++
    requireText "version" definition.version

/-- The identifier's domain segment is the domain field. -/
def checkDomainMatchesExperimentId (definition : ExperimentDefinition) : List FieldError :=
  require (experimentIdDomain definition.experimentId = some definition.domain) []
    (.valueError (s!"experiment_id '{definition.experimentId}' domain segment does not match " ++
      s!"domain field '{value definition.domain}'"))

/-- Write a list of texts as the source prints it. -/
def listText (texts : List String) : String :=
  "[" ++ String.intercalate ", " (texts.map fun text => "'" ++ text ++ "'") ++ "]"

/-- Every cited vulnerability belongs to the domain. -/
def checkRelatedCvesMatchDomain (definition : ExperimentDefinition) : List FieldError :=
  let mismatched := (definition.relatedCves.filter (·.domain ≠ definition.domain)).map (·.cveId)
  require mismatched.isEmpty []
    (.valueError ("related_cves contains CVEs outside the experiment's domain " ++
      s!"({value definition.domain}): {listText mismatched}"))

/-- The two strategies differ. -/
def checkBaselineAndMitigationDiffer (definition : ExperimentDefinition) : List FieldError :=
  require (definition.baselineStrategy ≠ definition.mitigationStrategy) []
    (.valueError "baseline_strategy and mitigation_strategy must be different strategy identifiers")

/-- No metric is listed twice. -/
def checkMetricsToCollectUnique (definition : ExperimentDefinition) : List FieldError :=
  require (definition.metricsToCollect.Nodup) []
    (.valueError "metrics_to_collect must not contain duplicate entries")

/-- All errors reported for a definition. -/
def errors (definition : ExperimentDefinition) (read : ReadErrors := {}) : List FieldError :=
  fieldsThenModel (definition.fieldErrors read)
    [definition.checkDomainMatchesExperimentId, definition.checkRelatedCvesMatchDomain,
      definition.checkBaselineAndMitigationDiffer, definition.checkMetricsToCollectUnique]

/-- Validate a definition. -/
def validate (definition : ExperimentDefinition) (read : ReadErrors := {}) :
    Except ValidationError ExperimentDefinition :=
  if definition.errors read = [] then .ok definition
  else .error ⟨"ExperimentDefinition", definition.errors read⟩

theorem validate_eq_ok {definition validated : ExperimentDefinition} {read : ReadErrors} :
    definition.validate read = .ok validated ↔
      definition.errors read = [] ∧ validated = definition := by
  unfold validate
  split
  case isTrue clean => simp [clean, eq_comm]
  case isFalse dirty => simp [dirty]

/-- A definition accepted with its texts as read is valid on its own. -/
theorem errors_eq_nil_of_read {definition : ExperimentDefinition} {read : ReadErrors}
    (clean : definition.errors read = []) : definition.errors = [] := by
  obtain ⟨fields, model⟩ := fieldsThenModel_eq_nil.mp clean
  refine fieldsThenModel_eq_nil.mpr ⟨?_, model⟩
  simp only [fieldErrors, List.append_eq_nil_iff] at fields ⊢
  by_cases metrics : read.metricsToCollect = []
  · simp_all
  · simp [metrics] at fields

end ExperimentDefinition

/-- Where a version's dataset came from. -/
structure DatasetProvenance where
  generatorId : String
  generatorVersion : String
  seed : ℤ
  config : Json
  sha256 : String
  deriving DecidableEq

/-- A versioned draft of an experiment with its workflow state. -/
structure ExperimentVersion where
  versionId : String
  experimentId : String
  versionNumber : ℕ
  status : ExperimentVersionStatus
  domainPackId : String
  templateId : String
  templateVersion : String
  definition : ExperimentDefinition
  datasetProvenance : Option DatasetProvenance
  createdBy : String
  createdAt : DateTime
  updatedAt : DateTime
  deriving DecidableEq

/-- The approval field which a definition carries in a workflow state. -/
def approvedDefinitionStatus (status : ExperimentVersionStatus) : ApprovalStatus :=
  if status = .approved then .approved else .draft

namespace ExperimentVersion

/-- The errors of single fields. -/
def fieldErrors (version : ExperimentVersion) : List FieldError :=
  requireText "version_id" version.versionId ++
    require (isExperimentId version.experimentId) ["experiment_id"] .stringPatternMismatch ++
    require (1 ≤ version.versionNumber) ["version_number"] .greaterThanEqual ++
    requireText "domain_pack_id" version.domainPackId ++
    requireText "template_id" version.templateId ++
    requireText "template_version" version.templateVersion ++
    requireText "created_by" version.createdBy

/-- The version belongs to its definition's experiment. -/
def checkExperimentIdMatchesDefinition (version : ExperimentVersion) : List FieldError :=
  require (version.experimentId = version.definition.experimentId) []
    (.valueError "experiment_id must match definition.experiment_id")

/-- The definition's approval field agrees with the workflow state. -/
def checkApprovalStatusMatchesWorkflowStatus (version : ExperimentVersion) : List FieldError :=
  let expected := approvedDefinitionStatus version.status
  require (version.definition.approvalStatus = expected) []
    (.valueError
      (s!"definition.approval_status must be '{value expected}' when workflow status is " ++
      s!"'{value version.status}' - Experiment Studio approval must never desynchronise " ++
      "from the trusted core's own approval field"))

/-- All errors reported for a version whose definition is valid. -/
def errors (version : ExperimentVersion) : List FieldError :=
  fieldsThenModel version.fieldErrors
    [version.checkExperimentIdMatchesDefinition, version.checkApprovalStatusMatchesWorkflowStatus]

/-- Validate the definition, then the version around it. -/
def validate (version : ExperimentVersion) : Except ValidationError ExperimentVersion :=
  match version.definition.validate with
  | .error error => .error error
  | .ok _ =>
      if version.errors = [] then .ok version else .error ⟨"ExperimentVersion", version.errors⟩

/-- A version is valid when neither it nor its definition has an error. -/
def Valid (version : ExperimentVersion) : Prop :=
  version.definition.errors = [] ∧ version.errors = []

instance : DecidablePred Valid := fun version => by unfold Valid; infer_instance

/-- Validation returns exactly the valid versions, unchanged. -/
theorem validate_eq_ok {version validated : ExperimentVersion} :
    version.validate = .ok validated ↔ version.Valid ∧ validated = version := by
  unfold validate
  cases checked : version.definition.validate with
  | error error =>
      simp only [reduceCtorEq, false_iff, not_and]
      intro valid
      rw [ExperimentDefinition.validate_eq_ok.mpr ⟨valid.1, rfl⟩] at checked
      cases checked
  | ok definition =>
      have clean := (ExperimentDefinition.validate_eq_ok.mp checked).1
      by_cases valid : version.errors = []
      · simp [valid, Valid, clean, eq_comm]
      · simp [valid, Valid]

/-- A valid version's definition carries the approval field of its workflow state. -/
theorem Valid.approvalStatus {version : ExperimentVersion} (valid : version.Valid) :
    version.definition.approvalStatus = approvedDefinitionStatus version.status := by
  have checks := (fieldsThenModel_eq_nil.mp valid.2).2
  simpa [checkApprovalStatusMatchesWorkflowStatus] using
    checks version.checkApprovalStatusMatchesWorkflowStatus (by simp)

theorem Valid.experimentId {version : ExperimentVersion} (valid : version.Valid) :
    version.experimentId = version.definition.experimentId := by
  have checks := (fieldsThenModel_eq_nil.mp valid.2).2
  simpa [checkExperimentIdMatchesDefinition] using
    checks version.checkExperimentIdMatchesDefinition (by simp)

end ExperimentVersion

/-- One recorded step of the approval workflow. -/
structure ApprovalDecision where
  versionId : String
  fromStatus : ExperimentVersionStatus
  toStatus : ExperimentVersionStatus
  actor : String
  reason : Option String
  decidedAt : DateTime
  deriving DecidableEq, Repr

end ZeroShield.Models
