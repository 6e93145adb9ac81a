import ZeroShield.Studio.Builder

/-!
# Studio routes

Each route is a program over the platform: it reads, decides, and writes in separate steps, between
which other requests may act.
-/

namespace ZeroShield.Studio

open Foundation Models Platform StringEnum

/-- What an error response carries. -/
inductive ErrorDetail
  | text (text : String)
  | validation (error : ValidationError)

/-- The public part of a version. -/
structure VersionResponse where
  versionId : String
  experimentId : String
  versionNumber : ℕ
  status : ExperimentVersionStatus
  domainPackId : String
  templateId : String
  templateVersion : String
  createdBy : String
  createdAt : DateTime
  updatedAt : DateTime
  deriving DecidableEq

/-- The response of a route. -/
inductive Response
  | version (status : ℕ) (body : VersionResponse)
  | jobSubmitted (jobId experimentId : String) (status : JobStatus)
  | refused (status : ℕ) (error : String) (detail : ErrorDetail)
  | internalError

/-- The response to a version. -/
def versionResponse (version : ExperimentVersion) : VersionResponse where
  versionId := version.versionId
  experimentId := version.experimentId
  versionNumber := version.versionNumber
  status := version.status
  domainPackId := version.domainPackId
  templateId := version.templateId
  templateVersion := version.templateVersion
  createdBy := version.createdBy
  createdAt := version.createdAt
  updatedAt := version.updatedAt

/-- Record an audit event of a user. -/
def recordAudit (user : User) (requestId : Option String) (action targetType targetId : String)
    (metadata : List (String × Json))
    (states : Option (ExperimentVersionStatus × ExperimentVersionStatus) := none) :
    Program platform Unit :=
  call (.recordAudit
    { actorUserId := some user.userId
      actorUsername := some user.username
      actorRole := some user.role
      action, targetType, targetId, requestId, metadata
      previousState := states.map fun (previous, _) => [("status", .str (value previous))]
      newState := states.map fun (_, next) => [("status", .str (value next))] })

/-- Run a route only for the listed roles. -/
def requireRole (roles : List Role) (user : User) (route : Program platform Response) :
    Program platform Response :=
  if user.role ∈ roles then route
  else .done (.refused 403 "forbidden" (.text (roleRefusal roles user.role)))

/-- The response when a version does not exist. -/
def versionNotFound (versionId : String) : Response :=
  .refused 404 "version_not_found" (.text s!"no version '{versionId}'")

/-- The response to a draft which cannot be built. -/
def buildErrorResponse : BuildError → Response
  | .unknownDomainPack message | .unknownTemplate message | .builder message =>
      .refused 422 "invalid_experiment_version" (.text message)
  | .validation error => .refused 422 "invalid_experiment_version" (.validation error)
  | .internal _ => .internalError

def parseDatasetConfig (services : Services) (domainPackId : String) (rawConfig : Json) :
    Except BuildError Json :=
  match resolveDomainPack domainPackId with
  | .error error => .error error
  | .ok pack =>
      match services.generatorConfig pack.datasetGeneratorId rawConfig with
      | .error error => .error (.validation error)
      | .ok config => .ok config

/-- Read the latest number, build the next draft and save it. -/
def createExperimentVersion (services : Services) (request : CreateExperimentVersionRequest)
    (requestId : Option String) (user : User) : Program platform Response :=
  requireRole [.researcher, .admin] user <|
    match request.relatedCves.mapM (CVEReferenceRequest.validate services) with
    | .error error => .done (buildErrorResponse (.validation error))
    | .ok references => do
        match ← call (.latestVersionNumber request.experimentId) with
        | .error error => return buildErrorResponse (.validation error)
        | .ok latest =>
            match parseDatasetConfig services request.domainPackId request.datasetConfig with
            | .error error => return buildErrorResponse error
            | .ok config => do
                match ← buildExperimentDraft services request references (latest + 1) config
                    user.username with
                | .error error => return buildErrorResponse error
                | .ok version => do
                    call (.saveVersion version)
                    recordAudit user requestId "experiment_version.created" "experiment_version"
                      version.versionId
                      [("experiment_id", .str version.experimentId),
                        ("version_number", .int version.versionNumber)]
                    return .version 201 (versionResponse version)

/-- Read a version, edit the copy and save it. -/
def editExperimentVersion (versionId : String) (request : EditExperimentVersionRequest)
    (requestId : Option String) (user : User) : Program platform Response :=
  requireRole [.researcher, .admin] user do
    match ← call (.getVersion versionId) with
    | .error _ => return .internalError
    | .ok none => return versionNotFound versionId
    | .ok (some version) =>
        match ← editDraft version request with
        | .error message => return .refused 409 "version_immutable" (.text message)
        | .ok updated => do
            call (.saveVersion updated)
            recordAudit user requestId "experiment_version.edited" "experiment_version" versionId
              [("fields_changed", .arr (request.fieldsChanged.map .str))]
            return .version 200 (versionResponse updated)

/-- The audit action of a transition to a state. -/
def transitionAuditAction : ExperimentVersionStatus → String
  | .readyForReview => "experiment_version.submitted_for_review"
  | .underReview => "experiment_version.review_started"
  | .approved => "experiment_version.approved"
  | .rejected => "experiment_version.rejected"
  | .retired => "experiment_version.retired"
  | .draft => ""

/-- Whether a user may not decide on a version because they created it. -/
def selfApproval (version : ExperimentVersion) (target : ExperimentVersionStatus) (user : User) :
    Prop :=
  target = .approved ∧ user.username = version.createdBy ∧ user.role ≠ .admin

instance {version : ExperimentVersion} {target : ExperimentVersionStatus} {user : User} :
    Decidable (selfApproval version target user) := by
  unfold selfApproval
  infer_instance

/-- Read a version, advance the copy, save it and record the decision. -/
def doTransition (versionId : String) (target : ExperimentVersionStatus) (reason : Option String)
    (requestId : Option String) (user : User) : Program platform Response := do
  match ← call (.getVersion versionId) with
  | .error _ => return .internalError
  | .ok none => return versionNotFound versionId
  | .ok (some version) =>
      if selfApproval version target user then do
        recordAudit user requestId "experiment_version.self_approval_blocked"
          "experiment_version" versionId [("created_by", .str version.createdBy)]
        return .refused 403 "self_approval_forbidden" (.text
          ("you created this experiment version and cannot also approve it - a different " ++
            "REVIEWER (or an ADMIN) must approve it"))
      else do
        match ← transition version target user.username reason with
        | .error error => return .refused 409 "invalid_transition" (.text error.message)
        | .ok (newVersion, decision) => do
            call (.saveVersion newVersion)
            call (.appendApprovalDecision decision)
            if target = .approved then
              materialiseToExperimentsDir newVersion
            recordAudit user requestId (transitionAuditAction target) "experiment_version" versionId
              (match reason with
                | none | some "" => []
                | some reason => [("reason", .str reason)])
              (some (version.status, target))
            return .version 200 (versionResponse newVersion)

def submitReview (versionId : String) (reason requestId : Option String) (user : User) :
    Program platform Response :=
  requireRole [.researcher, .admin] user
    (doTransition versionId .readyForReview reason requestId user)

def startReview (versionId : String) (reason requestId : Option String) (user : User) :
    Program platform Response :=
  requireRole [.reviewer, .admin] user (doTransition versionId .underReview reason requestId user)

def approveVersion (versionId : String) (reason requestId : Option String) (user : User) :
    Program platform Response :=
  requireRole [.reviewer, .admin] user (doTransition versionId .approved reason requestId user)

def rejectVersion (versionId : String) (reason requestId : Option String) (user : User) :
    Program platform Response :=
  requireRole [.reviewer, .admin] user (doTransition versionId .rejected reason requestId user)

def retireVersion (versionId : String) (reason requestId : Option String) (user : User) :
    Program platform Response :=
  requireRole [.reviewer, .admin] user (doTransition versionId .retired reason requestId user)

/-- Materialise an approved version and queue a job which names only its experiment. -/
def submitExperimentVersionRun (versionId : String) (requestId : Option String) (user : User) :
    Program platform Response :=
  requireRole [.researcher, .reviewer, .admin] user do
    match ← call (.getVersion versionId) with
    | .error _ => return .internalError
    | .ok none => return versionNotFound versionId
    | .ok (some version) =>
        if version.status ≠ .approved then
          return .refused 409 "version_not_approved" (.text
            s!"version '{versionId}' is '{value version.status}', not 'approved'")
        else do
          materialiseToExperimentsDir version
          let hex : String ← call .uuid4
          let jobId := "JOB-" ++ hex
          let now ← call .utcNow
          call (.saveJob
            { jobId
              experimentId := version.experimentId
              executionContext := .experimentRun
              status := .queued
              submittedAt := now
              updatedAt := now })
          call (.publish
            { jobId
              experimentId := version.experimentId
              executionContext := .experimentRun
              submittedByUserId := some user.userId
              submittedByUsername := some user.username })
          recordAudit user requestId "run.submitted" "job" jobId
            [("experiment_id", .str version.experimentId), ("version_id", .str versionId)]
          return .jobSubmitted jobId version.experimentId .queued

/-- The routes which advance a version through its review. -/
inductive ReviewAction
  | submitReview
  | startReview
  | approve
  | reject
  | retire
  deriving DecidableEq, Repr

namespace ReviewAction

/-- The route of an action. -/
def route : ReviewAction → String → Option String → Option String → User →
    Program platform Response
  | submitReview => Studio.submitReview
  | startReview => Studio.startReview
  | approve => approveVersion
  | reject => rejectVersion
  | retire => retireVersion

/-- The state an action leads to. -/
def target : ReviewAction → ExperimentVersionStatus
  | submitReview => .readyForReview
  | startReview => .underReview
  | approve => .approved
  | reject => .rejected
  | retire => .retired

/-- The roles permitted to take an action. -/
def roles : ReviewAction → List Role
  | submitReview => [.researcher, .admin]
  | _ => [.reviewer, .admin]

theorem route_eq (action : ReviewAction) (versionId : String) (reason requestId : Option String)
    (user : User) :
    action.route versionId reason requestId user =
      requireRole action.roles user
        (doTransition versionId action.target reason requestId user) := by
  cases action <;> rfl

theorem target_eq_approved {action : ReviewAction} :
    action.target = .approved ↔ action = .approve := by
  cases action <;> decide

end ReviewAction

/-- A request to one of the studio's routes by an authenticated user. -/
inductive StudioRequest
  | create (body : CreateExperimentVersionRequest) (requestId : Option String) (user : User)
  | edit (versionId : String) (body : EditExperimentVersionRequest) (requestId : Option String)
      (user : User)
  | review (action : ReviewAction) (versionId : String) (reason requestId : Option String)
      (user : User)
  | run (versionId : String) (requestId : Option String) (user : User)

/-- The program which serves a request. -/
def serve (services : Services) : StudioRequest → Program platform Response
  | .create body requestId user => createExperimentVersion services body requestId user
  | .edit versionId body requestId user => editExperimentVersion versionId body requestId user
  | .review action versionId reason requestId user =>
      action.route versionId reason requestId user
  | .run versionId requestId user => submitExperimentVersionRun versionId requestId user

end ZeroShield.Studio
