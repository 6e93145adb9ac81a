import ZeroShield.Studio.Catalogue

/-!
# Building, editing and materialising versions
-/

namespace ZeroShield.Studio

open Foundation Models Platform StringEnum

/-- A generated dataset: the text of its test set and its provenance. -/
structure GeneratedDataset where
  testSet : String
  provenance : DatasetProvenance

/-- Libraries and generators which the studio calls.  Nothing is assumed about them. -/
structure Services where
  /-- Read and normalise an address. -/
  parseUrl : String → Option HttpUrl
  /-- Read a date. -/
  parseDate : String → Option Date
  /-- Validate the raw configuration of a generator. -/
  generatorConfig : String → Json → Except ValidationError Json
  /-- Generate a dataset from a generator, a seed and a configuration. -/
  generate : String → ℤ → Json → Except BuildError GeneratedDataset

/-- A cited vulnerability as it is sent. -/
structure CVEReferenceRequest where
  cveId : String
  domain : String
  cvssScore : Option ℚ := none
  cisaKev : Bool
  epssScore : Option ℚ := none
  trustBoundary : String
  rootCause : String
  vendorMitigation : String
  mitigationGap : String
  sourceUrls : List String
  retrievedDate : String

/-- The body of a request for a new version. -/
structure CreateExperimentVersionRequest where
  experimentId : String
  title : String
  description : String
  relatedCves : List CVEReferenceRequest
  domainPackId : String
  templateId : String
  templateVersion : String
  datasetConfig : Json := .obj []
  seed : ℤ
  failurePattern : String
  rootCause : String
  vendorMitigation : String
  mitigationGap : String
  researchQuestion : String
  hypothesis : String
  metricsToCollect : Option (List String) := none
  relatedCvesNonempty : relatedCves ≠ [] := by simp

/-- Report a problem when a text could not be read. -/
def requireRead {α : Type} (read : Option α) (loc : List String) (problem : Problem) :
    List FieldError :=
  require read.isSome loc problem

/-- Validate one cited vulnerability. -/
def CVEReferenceRequest.validate (services : Services) (request : CVEReferenceRequest) :
    Except ValidationError CVEReference :=
  let domain := parse (α := Domain) request.domain
  let rootCause := parse (α := RootCauseCategory) request.rootCause
  let urls := request.sourceUrls.map services.parseUrl
  let retrieved := services.parseDate request.retrievedDate
  let reference : CVEReference :=
    { cveId := request.cveId
      domain := domain.getD .vpn
      cvssScore := request.cvssScore
      cisaKev := request.cisaKev
      epssScore := request.epssScore
      trustBoundary := request.trustBoundary
      rootCause := rootCause.getD .memorySafetyFailure
      vendorMitigation := request.vendorMitigation
      mitigationGap := request.mitigationGap
      sourceUrls := urls.filterMap id
      retrievedDate := retrieved.getD 0 }
  let errors := reference.errors
    { domain := requireRead domain ["domain"] .enumeration
      rootCause := requireRead rootCause ["root_cause"] .enumeration
      sourceUrls := urls.zipIdx.flatMap fun (url, index) =>
        requireRead url ["source_urls", toString index] .urlParsing
      retrievedDate := requireRead retrieved ["retrieved_date"] .dateParsing }
  if errors = [] then .ok reference else .error ⟨"CVEReference", errors⟩

/-- The root of generated datasets. -/
def datasetRoot : PurePath := ⟨"", ["test_data", "generated"]⟩

/-- The content-addressed path of a generated dataset. -/
def datasetPath (provenance : DatasetProvenance) : PurePath :=
  (datasetRoot.join provenance.generatorId).join
    (String.ofList (provenance.sha256.toList.take 16) ++ ".json")

/-- The pack and template a draft is built from. -/
def selectTemplate (domainPackId templateId templateVersion : String) :
    Except BuildError (DomainPack × ValidationTemplate) :=
  match resolveDomainPack domainPackId with
  | .error error => .error error
  | .ok pack =>
      match resolveTemplate templateId templateVersion with
      | .error error => .error error
      | .ok template =>
          if template.domainPackId ≠ pack.packId then
            .error (.builder (s!"template '{templateId}' belongs to domain pack " ++
              s!"'{template.domainPackId}', not '{domainPackId}'"))
          else if templateId ∉ pack.templateIds then
            .error (.builder
              s!"domain pack '{domainPackId}' does not list template '{templateId}' as supported")
          else .ok (pack, template)

/-- The first strategies of a template, checked against the pack's allow-list. -/
def selectStrategies (pack : DomainPack) (template : ValidationTemplate) :
    Except BuildError (String × String) :=
  let baseline := template.allowedBaselineStrategies.head template.baselinesNonempty
  let mitigation := template.allowedMitigationStrategies.head template.mitigationsNonempty
  match [baseline, mitigation].find? (· ∉ pack.allowedStrategyIds) with
  | some strategyId =>
      .error (.builder (s!"template '{template.templateId}' strategy '{strategyId}' is not in " ++
        s!"domain pack '{pack.packId}''s allow-list " ++
        ExperimentDefinition.listText (sortTexts pack.allowedStrategyIds)))
  | none => .ok (baseline, mitigation)

/-- The definition of a draft before it is validated. -/
def draftDefinition (request : CreateExperimentVersionRequest) (references : List CVEReference)
    (versionNumber : ℕ) (pack : DomainPack) (template : ValidationTemplate)
    (strategies : String × String) (provenance : DatasetProvenance) : ExperimentDefinition :=
  { experimentId := request.experimentId
    title := request.title
    domain := pack.domain
    description := request.description
    relatedCves := references
    failurePattern := request.failurePattern
    rootCause := (parse request.rootCause).getD .memorySafetyFailure
    vendorMitigation := request.vendorMitigation
    mitigationGap := request.mitigationGap
    researchQuestion := request.researchQuestion
    hypothesis := request.hypothesis
    safetyLevel := template.safetyLevel
    baselineStrategy := strategies.1
    mitigationStrategy := strategies.2
    datasetPath := datasetPath provenance
    metricsToCollect :=
      match request.metricsToCollect with
      | none | some [] => template.metricsToCollect
      | some metrics => metrics.filterMap parse
    approvalStatus := .draft
    version := s!"{versionNumber}.0.0" }

/-- The texts of a request which are no members of their enumerations. -/
def draftReadErrors (request : CreateExperimentVersionRequest) :
    ExperimentDefinition.ReadErrors where
  rootCause :=
    requireRead (parse (α := RootCauseCategory) request.rootCause) ["root_cause"] .enumeration
  metricsToCollect :=
    (request.metricsToCollect.getD []).zipIdx.flatMap fun (metric, index) =>
      requireRead (parse (α := MetricName) metric) ["metrics_to_collect", toString index]
        .enumeration

/-- The identifier of a numbered version. -/
def versionIdOf (experimentId : String) (versionNumber : ℕ) : String :=
  experimentId ++ "@v" ++ toString versionNumber

/-- A draft before it is validated. -/
def draftVersion (request : CreateExperimentVersionRequest) (definition : ExperimentDefinition)
    (versionNumber : ℕ) (provenance : DatasetProvenance) (createdBy : String) (now : DateTime) :
    ExperimentVersion where
  versionId := versionIdOf request.experimentId versionNumber
  experimentId := request.experimentId
  versionNumber := versionNumber
  status := .draft
  domainPackId := request.domainPackId
  templateId := request.templateId
  templateVersion := request.templateVersion
  definition := definition
  datasetProvenance := some provenance
  createdBy := createdBy
  createdAt := now
  updatedAt := now

/-- Validate the definition as read, then the version around it. -/
def validateDraft (request : CreateExperimentVersionRequest) (draft : ExperimentVersion) :
    Except BuildError ExperimentVersion :=
  match draft.definition.validate (draftReadErrors request) with
  | .error error => .error (.validation error)
  | .ok _ =>
      if draft.errors = [] then .ok draft
      else .error (.validation ⟨"ExperimentVersion", draft.errors⟩)

/-- Assemble a draft from validated structured data; the dataset file is written on the way. -/
def buildExperimentDraft (services : Services) (request : CreateExperimentVersionRequest)
    (references : List CVEReference) (versionNumber : ℕ) (config : Json) (createdBy : String) :
    Program platform (Except BuildError ExperimentVersion) :=
  match selectTemplate request.domainPackId request.templateId request.templateVersion with
  | .error error => .done (.error error)
  | .ok (pack, template) =>
      match services.generate pack.datasetGeneratorId request.seed config with
      | .error error => .done (.error error)
      | .ok generated => do
          call (.writeDataset (datasetPath generated.provenance).str generated.testSet)
          match selectStrategies pack template with
          | .error error => return .error error
          | .ok strategies => do
              let now ← call .utcNow
              let definition := draftDefinition request references versionNumber pack template
                strategies generated.provenance
              return validateDraft request
                (draftVersion request definition versionNumber generated.provenance createdBy now)

/-- The body of an edit: only the fields which are present are changed. -/
structure EditExperimentVersionRequest where
  title : Option String := none
  description : Option String := none
  researchQuestion : Option String := none
  hypothesis : Option String := none

/-- The definition with the present fields replaced; the copy is not validated. -/
def EditExperimentVersionRequest.apply (request : EditExperimentVersionRequest)
    (definition : ExperimentDefinition) : ExperimentDefinition :=
  { definition with
    title := request.title.getD definition.title
    description := request.description.getD definition.description
    researchQuestion := request.researchQuestion.getD definition.researchQuestion
    hypothesis := request.hypothesis.getD definition.hypothesis }

/-- The names of the present fields, sorted. -/
def EditExperimentVersionRequest.fieldsChanged (request : EditExperimentVersionRequest) :
    List String :=
  [("description", request.description), ("hypothesis", request.hypothesis),
    ("research_question", request.researchQuestion), ("title", request.title)].filterMap
      fun (name, text) => text.map fun _ => name

/-- A version after an edit. -/
def edited (version : ExperimentVersion) (request : EditExperimentVersionRequest)
    (now : DateTime) : ExperimentVersion :=
  { version with
    definition := request.apply version.definition
    updatedAt := now }

/-- The message for an edit of a version which has left the draft state. -/
def immutableVersionMessage (version : ExperimentVersion) : String :=
  s!"version '{version.versionId}' is '{value version.status}', not 'draft' - " ++
    "create a new version to change its content"

/-- Apply an edit; only drafts can be edited. -/
def editDraft (version : ExperimentVersion) (request : EditExperimentVersionRequest) :
    Program platform (Except String ExperimentVersion) :=
  if version.status ≠ .draft then .done (.error (immutableVersionMessage version))
  else do
    let now ← call .utcNow
    return .ok (edited version request now)

/-- Write a version's definition where experiments are discovered. -/
def materialiseToExperimentsDir (version : ExperimentVersion) : Program platform Unit :=
  call (.writeExperiment version.experimentId version.definition)

section Edited

variable {version : ExperimentVersion} {request : EditExperimentVersionRequest} {now : DateTime}

@[simp] theorem edited_versionId : (edited version request now).versionId = version.versionId := rfl

@[simp] theorem edited_experimentId :
    (edited version request now).experimentId = version.experimentId := rfl

@[simp] theorem edited_versionNumber :
    (edited version request now).versionNumber = version.versionNumber := rfl

@[simp] theorem edited_status : (edited version request now).status = version.status := rfl

@[simp] theorem edited_updatedAt : (edited version request now).updatedAt = now := rfl

@[simp] theorem edited_approvalStatus :
    (edited version request now).definition.approvalStatus = version.definition.approvalStatus :=
  rfl

end Edited

/-- A validated draft is the draft itself, and it is valid. -/
theorem validateDraft_eq_ok {request : CreateExperimentVersionRequest}
    {draft version : ExperimentVersion} (built : validateDraft request draft = .ok version) :
    version = draft ∧ draft.Valid := by
  unfold validateDraft at built
  split at built
  case h_1 => cases built
  case h_2 _ _ checked =>
      have clean := (ExperimentDefinition.validate_eq_ok.mp checked).1
      split at built
      case isTrue valid =>
          exact ⟨(Except.ok.inj built).symm,
            ExperimentDefinition.errors_eq_nil_of_read clean, valid⟩
      case isFalse => cases built

/-- Version identifiers determine the experiment and the number. -/
theorem versionIdOf_inj {left right : String} {m n : ℕ} :
    versionIdOf left m = versionIdOf right n ↔ left = right ∧ m = n := by
  have shape (stem : String) (number : ℕ) :
      versionIdOf stem number = numbered (stem ++ "@") 'v' number := by
    have marker : "@v" = "@" ++ String.ofList ['v'] := by decide
    simp only [versionIdOf, numbered, marker, ← String.append_assoc]
  rw [shape, shape, numbered_inj (by decide), append_suffix_inj]

end ZeroShield.Studio
