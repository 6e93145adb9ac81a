import ZeroShield.Assurance.Regression
import ZeroShield.Experiments.Discovery
import ZeroShield.Foundation.Transaction
import ZeroShield.Platform.World
import ZeroShield.Studio.Catalogue

/-!
# The assurance store

Controls, their versions and validations, and the candidates for revalidation.  Each function of
the repository is one transaction on the store.
-/

namespace ZeroShield.Assurance

open Foundation Models Platform StringEnum

/-- A mitigation strategy in a domain. -/
structure Control where
  controlId : String
  name : String
  domain : String
  mitigationStrategyId : String
  createdAt : DateTime
  deriving DecidableEq

/-- One version of a control. -/
structure ControlVersion where
  versionId : String
  controlId : String
  versionLabel : String
  domainPackId : String
  templateId : String
  templateVersion : String
  createdAt : DateTime
  deriving DecidableEq

/-- What became of a candidate. -/
inductive CandidateStatus
  | pending
  | approved
  | dismissed
  deriving DecidableEq, Repr

instance : StringEnum CandidateStatus where
  members := [.pending, .approved, .dismissed]
  value
    | .pending => "pending"
    | .approved => "approved"
    | .dismissed => "dismissed"

/-- A proposal to validate a control again; its trigger is any text. -/
structure RevalidationCandidate where
  candidateId : String
  controlId : String
  experimentId : Option String
  triggerType : String
  triggerDetail : String
  status : CandidateStatus := .pending
  createdAt : DateTime
  reviewedBy : Option String := none
  reviewedAt : Option DateTime := none
  reviewNote : Option String := none
  deriving DecidableEq

/-- The tables of the package. -/
structure AssuranceStore where
  controls : List Control := []
  versions : List ControlVersion := []
  validations : List ControlValidation := []
  candidates : List RevalidationCandidate := []
  audit : List AuditEvent := []
  /-- How many unique identifiers were issued. -/
  issued : ℕ := 0

/-- Why a transaction on the store does not return. -/
inductive AssuranceError
  /-- A query for at most one row found several. -/
  | multipleResultsFound
  /-- A response with an error status. -/
  | http (status : ℕ) (error detail : String)
  /-- The experiments directory cannot be read. -/
  | discovery (failure : Experiments.DiscoveryFailure)
  deriving DecidableEq

abbrev Query (α : Type) : Type := Transaction AssuranceStore AssuranceError α

/-- The only row of a result, if there is one; several rows are an error. -/
def scalarOneOrNone {α : Type} : List α → Except AssuranceError (Option α)
  | [] => .ok none
  | [row] => .ok (some row)
  | _ :: _ :: _ => .error .multipleResultsFound

/-- A fresh unique identifier. -/
def uuid4 : Query String := fun store =>
  (.ok (hexText store.issued), { store with issued := store.issued + 1 })

/-! ## Controls -/

/-- The identifier of a control. -/
def controlIdFor (domain mitigationStrategyId : String) : String :=
  upper (strip domain) ++ ":" ++ strip mitigationStrategyId

def getControl (controlId : String) : Query (Option Control) :=
  .read fun store => store.controls.find? (·.controlId = controlId)

def getOrCreateControl (domain mitigationStrategyId name : String) (now : DateTime) :
    Query Control := do
  let controlId := controlIdFor domain mitigationStrategyId
  match ← getControl controlId with
  | some control => return control
  | none =>
      let control : Control := { controlId, name, domain, mitigationStrategyId, createdAt := now }
      .update fun store => { store with controls := store.controls ++ [control] }
      return control

/-- All controls by name. -/
def listControls (store : AssuranceStore) : List Control :=
  store.controls.insertionSort fun left right => left.name ≤ right.name

def getOrCreateControlVersion
    (controlId versionLabel domainPackId templateId templateVersion : String)
    (now : DateTime) : Query ControlVersion := do
  let rows ← .read fun store => store.versions.filter fun version =>
    version.controlId = controlId ∧ version.versionLabel = versionLabel
  match ← .lift (scalarOneOrNone rows) with
  | some version => return version
  | none =>
      let hex ← uuid4
      let version : ControlVersion :=
        { versionId := "CV-" ++ hex
          controlId, versionLabel, domainPackId, templateId, templateVersion
          createdAt := now }
      .update fun store => { store with versions := store.versions ++ [version] }
      return version

/-- The versions of a control, oldest first. -/
def listControlVersions (store : AssuranceStore) (controlId : String) : List ControlVersion :=
  (store.versions.filter (·.controlId = controlId)).insertionSort
    fun left right => left.createdAt ≤ right.createdAt

/-! ## Validations -/

def recordValidation (validation : ControlValidation) : Query Unit :=
  .update fun store => { store with validations := store.validations ++ [validation] }

/-- The validations of a control, oldest first. -/
def listValidations (store : AssuranceStore) (controlId : String) : List ControlValidation :=
  (store.validations.filter (·.controlId = controlId)).insertionSort
    fun left right => left.validatedAt ≤ right.validatedAt

/-! ## Candidates -/

/-- The pending candidates of a control and a trigger. -/
def pendingCandidates (store : AssuranceStore) (controlId triggerType : String) :
    List RevalidationCandidate :=
  store.candidates.filter fun candidate =>
    candidate.controlId = controlId ∧ candidate.triggerType = triggerType ∧
      candidate.status = .pending

/-- The pending candidate of a control and a trigger. -/
def findPendingCandidate (controlId triggerType : String) :
    Query (Option RevalidationCandidate) := do
  let rows ← .read fun store => pendingCandidates store controlId triggerType
  .lift (scalarOneOrNone rows)

def createCandidate (candidate : RevalidationCandidate) : Query RevalidationCandidate := do
  .update fun store => { store with candidates := store.candidates ++ [candidate] }
  return candidate

def getCandidate (candidateId : String) : Query (Option RevalidationCandidate) :=
  .read fun store => store.candidates.find? (·.candidateId = candidateId)

/-- Record a decision on a candidate. -/
def updateCandidateStatus (candidateId : String) (status : CandidateStatus) (reviewedBy : String)
    (reviewNote : Option String) (now : DateTime) : Query Unit :=
  .update fun store =>
    { store with
      candidates := store.candidates.map fun candidate =>
        if candidate.candidateId = candidateId then
          { candidate with
            status
            reviewedBy := some reviewedBy
            reviewedAt := some now
            reviewNote }
        else candidate }

/-! ## Binding an experiment to a control -/

/-- The control and the control version of an experiment. -/
structure ControlBinding where
  control : Control
  version : ControlVersion

/-- The registered template of a pack which allows a mitigation strategy. -/
def templateFor (domainPackId mitigationStrategy : String) : Option Studio.ValidationTemplate :=
  (Studio.templateRegistry.filter (·.domainPackId = domainPackId)).find?
    fun template => mitigationStrategy ∈ template.allowedMitigationStrategies

def bindExperimentToControl (experiment : ExperimentDefinition) (now : DateTime) :
    Query ControlBinding := do
  let domainPackId := lower (value experiment.domain)
  let template := templateFor domainPackId experiment.mitigationStrategy
  let templateId := (template.map (·.templateId)).getD "unknown"
  let templateVersion := (template.map (·.version)).getD experiment.version
  let control ← getOrCreateControl (value experiment.domain) experiment.mitigationStrategy
    s!"{value experiment.domain} {experiment.mitigationStrategy}" now
  let version ← getOrCreateControlVersion control.controlId experiment.version domainPackId
    templateId templateVersion now
  return { control, version }

end ZeroShield.Assurance
