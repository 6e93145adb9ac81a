import ZeroShield.Assurance.Store
import ZeroShield.Foundation.Doubles
import ZeroShield.Models.Vulnerability
import ZeroShield.Verdict.Engine

/-!
# Revalidation

Candidates are raised by a scan over all controls, by the worker after a completed run and by hand,
and leave the pending state when they are approved or dismissed.
-/

namespace ZeroShield.Assurance

open Foundation Models Platform StringEnum

/-- The triggers raised by the platform itself. -/
inductive RevalidationTrigger
  | newRelatedCve
  | kevStateChange
  | epssMaterialChange
  | advisoryUpdate
  | versionChange
  | scheduled
  | regression
  deriving DecidableEq, Repr

instance : StringEnum RevalidationTrigger where
  members :=
    [.newRelatedCve, .kevStateChange, .epssMaterialChange, .advisoryUpdate, .versionChange,
      .scheduled, .regression]
  value
    | .newRelatedCve => "new_related_cve"
    | .kevStateChange => "kev_state_change"
    | .epssMaterialChange => "epss_material_change"
    | .advisoryUpdate => "advisory_update"
    | .versionChange => "version_change"
    | .scheduled => "scheduled"
    | .regression => "regression"

/-! ## What a scan reads -/

/-- A number read from a text, which may be infinite or undefined. -/
inductive ParsedNumber
  | finite (value : ℚ)
  | infinite (negative : Bool)
  | nan

/-- A correlation of a vulnerability with another one. -/
structure CorrelationResult where
  cveId : String
  score : ℚ
  explanation : List String

/-- The repositories and library functions a scan reads from. -/
structure ScanServices where
  /-- The definition of an experiment in the experiments directory, if that can be read. -/
  findExperiment : String → Except Experiments.DiscoveryFailure (Option ExperimentDefinition)
  /-- The history of a vulnerability, oldest entry first. -/
  getHistory : String → List VulnerabilityHistoryEntry
  getAdvisoriesForCve : String → List VendorAdvisory
  getVulnerability : String → Option Vulnerability
  /-- The vulnerabilities of a domain, at most as many as the limit. -/
  listVulnerabilities : Option Domain → ℕ → List Vulnerability
  /-- The correlations of a vulnerability with others of at least a score, best first. -/
  rankCorrelations : Vulnerability → List Vulnerability → ℚ → ℕ → List CorrelationResult
  /-- Read a number. -/
  parseFloat : String → Option ParsedNumber

/-- One day. -/
def day : ℤ := 86400000000

def defaultStaleness : ℤ := 90 * day

/-- The double `0.2`. -/
def epssMaterialChange : ℚ := nearestDouble (1 / 5)

def newRelatedCveMinScore : ℚ := 60

namespace ParsedNumber

/-- Whether two numbers differ by a material amount; their difference is a double again. -/
def differMaterially : ParsedNumber → ParsedNumber → Bool
  | finite old, finite new => epssMaterialChange ≤ |nearestDouble (new - old)|
  | infinite old, infinite new => old ≠ new
  | finite _, infinite _ | infinite _, finite _ => true
  | nan, _ | _, nan => false

/-- A number with two digits after the point. -/
def text : ParsedNumber → String
  | finite value => fixed 2 value
  | infinite true => "-inf"
  | infinite false => "inf"
  | nan => "nan"

end ParsedNumber

/-! ## Findings -/

/-- A trigger found for a control. -/
structure Finding where
  controlId : String
  experimentId : Option String
  triggerType : String
  triggerDetail : String

section Findings

variable (services : ScanServices) (store : AssuranceStore) (stalenessWindow : ℤ)
  (now : DateTime) (control : Control) (latest : ControlValidation)

/-- A finding about the experiment of the latest validation. -/
def findingOf (trigger : RevalidationTrigger) (detail : String) : Finding where
  controlId := control.controlId
  experimentId := some latest.experimentId
  triggerType := value trigger
  triggerDetail := detail

/-- The last validation is older than the window. -/
def scheduledFindings : List Finding :=
  let age := now - latest.validatedAt
  if stalenessWindow < age then
    [findingOf control latest .scheduled
      (s!"Last validated {age / day} days ago (window: {stalenessWindow / day} days).")]
  else []

/-- Control versions which have never been validated. -/
def versionFindings (validations : List ControlValidation) : List Finding :=
  ((listControlVersions store control.controlId).filter fun version =>
      version.versionId ∉ validations.map (·.versionId)).map fun version =>
    { controlId := control.controlId
      experimentId := none
      triggerType := value RevalidationTrigger.versionChange
      triggerDetail := s!"Control version '{version.versionLabel}' has never been validated." }

/-- A change of the exploited state or of the exploit probability since the last validation. -/
def historyFinding (cveId : String) (entry : VulnerabilityHistoryEntry) : List Finding :=
  if entry.observedAt ≤ latest.validatedAt then []
  else if entry.field = "kev_listed" ∧
      lower (strip (entry.newValue.getD "None")) = "true" then
    [findingOf control latest .kevStateChange
      s!"{cveId} was added to CISA KEV on {isoDate entry.observedAt.date}."]
  else if entry.field = "epss_score" then
    match entry.oldValue.bind services.parseFloat, entry.newValue.bind services.parseFloat with
    | some old, some new =>
        if old.differMaterially new then
          [findingOf control latest .epssMaterialChange
            (s!"{cveId} EPSS moved from {old.text} to {new.text} on " ++
              s!"{isoDate entry.observedAt.date}.")]
        else []
    | _, _ => []
  else []

/-- A vendor advisory which changed since the last validation. -/
def advisoryFinding (cveId : String) (advisory : VendorAdvisory) : List Finding :=
  match advisory.updatedAt.or advisory.publishedAt with
  | none => []
  | some changedAt =>
      if changedAt ≤ latest.validatedAt then []
      else
        [findingOf control latest .advisoryUpdate
          (s!"Vendor advisory '{advisory.advisoryId}' for {cveId} was updated on " ++
            s!"{isoDate changedAt.date}.")]

/-- Vulnerabilities observed since the last validation which correlate with a validated one. -/
def relatedCveFindings (relatedCveIds : List String) (cveId : String) : List Finding :=
  match services.getVulnerability cveId with
  | none => []
  | some subject =>
      let newlyObserved := (services.listVulnerabilities subject.domainGuess 200).filter
        fun other => other.cveId ≠ cveId ∧ other.cveId ∉ relatedCveIds ∧
          latest.validatedAt < other.lastUpdatedAt
      (services.rankCorrelations subject newlyObserved newRelatedCveMinScore 5).map fun result =>
        let score := fixed 1 result.score
        let explanation := result.explanation.getLast?.getD ""
        findingOf control latest .newRelatedCve
          (s!"{result.cveId} newly observed and correlates {score}/100 with already-validated " ++
            s!"{cveId}. {explanation}")

/-- The vulnerabilities of an experiment, if there is one. -/
def relatedCvesOf (experiment : Option ExperimentDefinition) : List String :=
  (experiment.map fun experiment => experiment.relatedCves.map (·.cveId)).getD []

/-- What a scan finds for a control from the vulnerabilities of its experiment. -/
def relatedFindings (relatedCveIds : List String) : List Finding :=
  (relatedCveIds.flatMap fun cveId =>
      (services.getHistory cveId).flatMap (historyFinding services control latest cveId)) ++
    (relatedCveIds.flatMap fun cveId =>
      (services.getAdvisoriesForCve cveId).flatMap (advisoryFinding control latest cveId)) ++
    relatedCveIds.flatMap (relatedCveFindings services control latest relatedCveIds)

/-- What a scan finds, in the order in which it is found, and the failure which ends it. -/
structure Findings where
  found : List Finding
  failure : Option Experiments.DiscoveryFailure

/-- What is found first, and then the rest unless a failure ended the scan. -/
def Findings.andThen (first rest : Findings) : Findings :=
  match first.failure with
  | some _ => first
  | none => { rest with found := first.found ++ rest.found }

/-- Everything a scan finds for a control; the experiment is looked up after the age and the
versions were checked. -/
def controlFindings : Findings :=
  let validations := listValidations store control.controlId
  match validations.getLast? with
  | none => { found := [], failure := none }
  | some latest =>
      let before := scheduledFindings stalenessWindow now control latest ++
        versionFindings store control validations
      match services.findExperiment latest.experimentId with
      | .error failure => { found := before, failure := some failure }
      | .ok experiment =>
          { found :=
              before ++ relatedFindings services control latest (relatedCvesOf experiment)
            failure := none }

/-- Everything a scan finds; what it reads is not changed by the candidates it creates. -/
def scanFindings : Findings :=
  ((listControls store).map (controlFindings services store stalenessWindow now)).foldr
    Findings.andThen { found := [], failure := none }

end Findings

/-! ## Creating candidates -/

/-- Create a candidate unless one is pending for the control and the trigger. -/
def createCandidateIfNew (now : DateTime) (finding : Finding) :
    Query (Option RevalidationCandidate) := do
  match ← findPendingCandidate finding.controlId finding.triggerType with
  | some _ => return none
  | none =>
      let hex ← uuid4
      let candidate ← createCandidate
        { candidateId := "REVAL-" ++ hex
          controlId := finding.controlId
          experimentId := finding.experimentId
          triggerType := finding.triggerType
          triggerDetail := finding.triggerDetail
          createdAt := now }
      return some candidate

structure ScanSummary where
  candidatesCreated : List RevalidationCandidate
  controlsScanned : ℕ

/-- Scan all controls for triggers and create a candidate for each new one. -/
def scan (services : ScanServices) (stalenessWindow : ℤ) (now : DateTime) :
    Query ScanSummary := do
  let findings ← .read fun store => scanFindings services store stalenessWindow now
  let created ← Transaction.collect (createCandidateIfNew now) findings.found
  match findings.failure with
  | some failure => .fail (.discovery failure)
  | none =>
      let controls ← .read listControls
      return { candidatesCreated := created, controlsScanned := controls.length }

/-! ## The worker -/

/-- Record the validation of a completed run and raise a candidate when it is a regression. -/
def recordControlValidationAndCheckRegression (binding : ControlBinding)
    (experiment : ExperimentDefinition) (comparison : ComparisonReport) (now : DateTime) :
    Query Unit := do
  let verdict := Verdict.computeVerdict comparison none Verdict.defaultThresholds now
  let metrics := comparison.mitigationMetrics
  let hex ← uuid4
  let newValidation : ControlValidation :=
    { validationId := "VAL-" ++ hex
      controlId := binding.control.controlId
      versionId := binding.version.versionId
      experimentId := experiment.experimentId
      baselineRunId := comparison.baselineRunId
      mitigationRunId := comparison.mitigationRunId
      totalCases := comparison.totalCases
      blockRateImprovement := comparison.blockRateImprovement
      falsePositiveRate := metrics.falsePositiveRate
      falseNegativeRate := metrics.falseNegativeRate
      validAcceptanceRate := metrics.validAcceptanceRate
      parserReachRate := metrics.parserReachRate
      latencyOverheadMs := comparison.latencyOverheadMs
      verdictLabel := value verdict.label
      validatedAt := now }
  recordValidation newValidation
  let validations ← .read fun store => listValidations store binding.control.controlId
  let sameVersion := validations.filter (·.versionId = newValidation.versionId)
  match sameVersion.reverse with
  | latest :: previous :: _ =>
      let result := detectRegressions previous latest
      if result.isRegression then
        let _ ← createCandidateIfNew now
          { controlId := binding.control.controlId
            experimentId := some experiment.experimentId
            triggerType := value RevalidationTrigger.regression
            triggerDetail :=
              s!"Deterministic regression detected for {binding.control.controlId} " ++
                s!"({binding.version.versionLabel}) at validation {newValidation.validationId}: " ++
                String.intercalate "; " result.reasons }
        return ()
      else return ()
  | _ => return ()

/-- What the worker does after a completed run; its failure is only logged. -/
def recordControlValidation (experiment : ExperimentDefinition) (comparison : ComparisonReport)
    (now : DateTime) : Query Unit :=
  .ignoreFailure do
    let binding ← bindExperimentToControl experiment now
    recordControlValidationAndCheckRegression binding experiment comparison now

/-! ## Routes -/

/-- Run a route only for the listed roles. -/
def requireRole {α : Type} (roles : List Role) (user : User) (route : Query α) : Query α :=
  if user.role ∈ roles then route
  else .fail (.http 403 "forbidden" (roleRefusal roles user.role))

structure CreateRevalidationCandidateRequest where
  controlId : String
  experimentId : Option String := none
  triggerType : String
  triggerDetail : String

/-- The errors reported for a request, in the order of its fields. -/
def CreateRevalidationCandidateRequest.errors (request : CreateRevalidationCandidateRequest) :
    List FieldError :=
  requireText "control_id" request.controlId ++
    requireText "trigger_type" request.triggerType ++
    requireText "trigger_detail" request.triggerDetail

/-- The roles which may scan and raise candidates. -/
def raisingRoles : List Role := [.researcher, .reviewer, .admin]

/-- The roles which may decide on candidates. -/
def decidingRoles : List Role := [.reviewer, .admin]

def scanForRevalidation (services : ScanServices) (user : User) (now : DateTime) :
    Query ScanSummary :=
  requireRole raisingRoles user (scan services defaultStaleness now)

/-- Raise a candidate by hand. -/
def createRevalidationCandidate (request : CreateRevalidationCandidateRequest) (user : User)
    (now : DateTime) : Query RevalidationCandidate :=
  requireRole raisingRoles user do
    if request.errors ≠ [] then
      .fail (.http 422 "validation_error" "")
    else
      match ← getControl request.controlId with
      | none =>
          .fail (.http 404 "control_not_found" s!"no control '{request.controlId}'")
      | some _ =>
          let hex ← uuid4
          createCandidate
            { candidateId := "REVAL-" ++ hex
              controlId := request.controlId
              experimentId := request.experimentId
              triggerType := request.triggerType
              triggerDetail := request.triggerDetail
              createdAt := now }

/-- The audited action of a decision. -/
def decisionAuditAction (status : CandidateStatus) : String :=
  "revalidation_candidate." ++ value status

/-- Decide on a pending candidate. -/
def transition (candidateId : String) (status : CandidateStatus) (note requestId : Option String)
    (user : User) (now : DateTime) : Query Unit := do
  match ← getCandidate candidateId with
  | none => .fail (.http 404 "candidate_not_found" s!"no candidate '{candidateId}'")
  | some existing =>
      if existing.status ≠ .pending then
        .fail (.http 409 "candidate_not_pending"
          s!"candidate '{candidateId}' is '{value existing.status}', not 'pending'")
      else
        updateCandidateStatus candidateId status user.username note now
        .update fun store =>
          { store with
            audit := store.audit ++
              [{ actorUserId := some user.userId
                 actorUsername := some user.username
                 actorRole := some user.role
                 action := decisionAuditAction status
                 targetType := "revalidation_candidate"
                 targetId := candidateId
                 requestId
                 metadata :=
                  [("control_id", .str existing.controlId),
                    ("trigger_type", .str existing.triggerType)] }] }

def approveRevalidationCandidate (candidateId : String) (note requestId : Option String)
    (user : User) (now : DateTime) : Query Unit :=
  requireRole decidingRoles user (transition candidateId .approved note requestId user now)

def dismissRevalidationCandidate (candidateId : String) (note requestId : Option String)
    (user : User) (now : DateTime) : Query Unit :=
  requireRole decidingRoles user (transition candidateId .dismissed note requestId user now)

/-! ## Requests -/

/-- A request to the package, with what it reads from elsewhere. -/
inductive AssuranceRequest
  | scan (services : ScanServices) (user : User) (now : DateTime)
  | record (experiment : ExperimentDefinition) (comparison : ComparisonReport) (now : DateTime)
  | raise (request : CreateRevalidationCandidateRequest) (user : User) (now : DateTime)
  | approve (candidateId : String) (note requestId : Option String) (user : User) (now : DateTime)
  | dismiss (candidateId : String) (note requestId : Option String) (user : User) (now : DateTime)

/-- The store after a request was served, successfully or not. -/
def serve (request : AssuranceRequest) (store : AssuranceStore) : AssuranceStore :=
  match request with
  | .scan services user now => (scanForRevalidation services user now store).2
  | .record experiment comparison now => (recordControlValidation experiment comparison now store).2
  | .raise request user now => (createRevalidationCandidate request user now store).2
  | .approve candidateId note requestId user now =>
      (approveRevalidationCandidate candidateId note requestId user now store).2
  | .dismiss candidateId note requestId user now =>
      (dismissRevalidationCandidate candidateId note requestId user now store).2

end ZeroShield.Assurance
