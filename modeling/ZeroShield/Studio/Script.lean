import ZeroShield.Studio.Routes

/-!
# What a studio request may do next

The operations of a route follow a script: what may come next is determined by the request and the
results it has seen.  The script is proved once against the programs of the routes; everything said
about interleaved requests rests on it alone.
-/

namespace ZeroShield.Studio

open Foundation Models Platform

/-- What a request has seen, newest first. -/
abbrev Past := List (Event platform)

/-- A valid draft assembled from a request for the number after `latest`. -/
def IsDraft (body : CreateExperimentVersionRequest) (user : User) (latest : ℕ) (now : DateTime)
    (draft : ExperimentVersion) : Prop :=
  draft.Valid ∧ ∃ references pack template strategies provenance,
    draft = draftVersion body
      (draftDefinition body references (latest + 1) pack template strategies provenance)
      (latest + 1) provenance user.username now

section IsDraft

variable {body : CreateExperimentVersionRequest} {user : User} {latest : ℕ} {now : DateTime}
  {draft : ExperimentVersion}

theorem IsDraft.versionId (built : IsDraft body user latest now draft) :
    draft.versionId = versionIdOf body.experimentId (latest + 1) := by
  obtain ⟨-, _, _, _, _, _, rfl⟩ := built
  rfl

theorem IsDraft.experimentId (built : IsDraft body user latest now draft) :
    draft.experimentId = body.experimentId := by
  obtain ⟨-, _, _, _, _, _, rfl⟩ := built
  rfl

theorem IsDraft.versionNumber (built : IsDraft body user latest now draft) :
    draft.versionNumber = latest + 1 := by
  obtain ⟨-, _, _, _, _, _, rfl⟩ := built
  rfl

theorem IsDraft.title (built : IsDraft body user latest now draft) :
    draft.definition.title = body.title := by
  obtain ⟨-, _, _, _, _, _, rfl⟩ := built
  rfl

theorem IsDraft.status (built : IsDraft body user latest now draft) : draft.status = .draft := by
  obtain ⟨-, _, _, _, _, _, rfl⟩ := built
  rfl

end IsDraft

/-- The next operation of a request after its past. -/
inductive Allowed : StudioRequest → Past → Op → Prop
  | readLatest {body requestId user} :
      Allowed (.create body requestId user) [] (.latestVersionNumber body.experimentId)
  | writeDataset {body requestId user latest path testSet} :
      Allowed (.create body requestId user)
        [⟨.latestVersionNumber body.experimentId, .ok latest⟩]
        (.writeDataset path testSet)
  | draftClock {body requestId user latest path testSet} :
      Allowed (.create body requestId user)
        [⟨.writeDataset path testSet, ()⟩, ⟨.latestVersionNumber body.experimentId, .ok latest⟩]
        .utcNow
  | saveDraft {body requestId user latest path testSet now draft} :
      IsDraft body user latest now draft →
      Allowed (.create body requestId user)
        [⟨.utcNow, now⟩, ⟨.writeDataset path testSet, ()⟩,
          ⟨.latestVersionNumber body.experimentId, .ok latest⟩]
        (.saveVersion draft)
  | auditDraft {body requestId user draft earlier event} :
      Allowed (.create body requestId user) (⟨.saveVersion draft, ()⟩ :: earlier)
        (.recordAudit event)
  | readForEdit {versionId body requestId user} :
      Allowed (.edit versionId body requestId user) [] (.getVersion versionId)
  | editClock {versionId body requestId user version} :
      version.status = .draft →
      Allowed (.edit versionId body requestId user) [⟨.getVersion versionId, .ok (some version)⟩]
        .utcNow
  | saveEdit {versionId body requestId user version now} :
      version.status = .draft →
      Allowed (.edit versionId body requestId user)
        [⟨.utcNow, now⟩, ⟨.getVersion versionId, .ok (some version)⟩]
        (.saveVersion (edited version body now))
  | auditEdit {versionId body requestId user version earlier event} :
      Allowed (.edit versionId body requestId user) (⟨.saveVersion version, ()⟩ :: earlier)
        (.recordAudit event)
  | readForReview {action versionId reason requestId user} :
      Allowed (.review action versionId reason requestId user) [] (.getVersion versionId)
  | auditBlocked {action versionId reason requestId user version event} :
      selfApproval version action.target user →
      Allowed (.review action versionId reason requestId user)
        [⟨.getVersion versionId, .ok (some version)⟩] (.recordAudit event)
  | reviewClock {action versionId reason requestId user version} :
      ¬ selfApproval version action.target user →
      action.target ∈ allowedTransitions version.status →
      Allowed (.review action versionId reason requestId user)
        [⟨.getVersion versionId, .ok (some version)⟩] .utcNow
  | saveReview {action versionId reason requestId user version now} :
      ¬ selfApproval version action.target user →
      action.target ∈ allowedTransitions version.status →
      Allowed (.review action versionId reason requestId user)
        [⟨.utcNow, now⟩, ⟨.getVersion versionId, .ok (some version)⟩]
        (.saveVersion (advanced version action.target now))
  | recordDecision {action versionId reason requestId user version now} :
      Allowed (.review action versionId reason requestId user)
        [⟨.saveVersion (advanced version action.target now), ()⟩, ⟨.utcNow, now⟩,
          ⟨.getVersion versionId, .ok (some version)⟩]
        (.appendApprovalDecision (decisionOf version action.target user.username reason now))
  | materialiseApproved {versionId reason requestId user version now decision} :
      Allowed (.review .approve versionId reason requestId user)
        [⟨.appendApprovalDecision decision, ()⟩,
          ⟨.saveVersion (advanced version .approved now), ()⟩, ⟨.utcNow, now⟩,
          ⟨.getVersion versionId, .ok (some version)⟩]
        (.writeExperiment version.experimentId (advanced version .approved now).definition)
  | auditReview {action versionId reason requestId user last earlier event} :
      (∀ version, last.op ≠ .saveVersion version) →
      Allowed (.review action versionId reason requestId user) (last :: earlier)
        (.recordAudit event)
  | readForRun {versionId requestId user} :
      Allowed (.run versionId requestId user) [] (.getVersion versionId)
  | materialiseRun {versionId requestId user version} :
      version.status = .approved →
      Allowed (.run versionId requestId user) [⟨.getVersion versionId, .ok (some version)⟩]
        (.writeExperiment version.experimentId version.definition)
  | jobIdentifier {versionId requestId user version} :
      Allowed (.run versionId requestId user)
        [⟨.writeExperiment version.experimentId version.definition, ()⟩,
          ⟨.getVersion versionId, .ok (some version)⟩] .uuid4
  | jobClock {versionId requestId user version hex} :
      Allowed (.run versionId requestId user)
        [⟨.uuid4, hex⟩, ⟨.writeExperiment version.experimentId version.definition, ()⟩,
          ⟨.getVersion versionId, .ok (some version)⟩] .utcNow
  | saveJob {versionId requestId user version hex now job} :
      Allowed (.run versionId requestId user)
        [⟨.utcNow, now⟩, ⟨.uuid4, hex⟩,
          ⟨.writeExperiment version.experimentId version.definition, ()⟩,
          ⟨.getVersion versionId, .ok (some version)⟩] (.saveJob job)
  | publish {versionId requestId user version hex now job message} :
      message.jobId = "JOB-" ++ hex → message.experimentId = version.experimentId →
      Allowed (.run versionId requestId user)
        [⟨.saveJob job, ()⟩, ⟨.utcNow, now⟩, ⟨.uuid4, hex⟩,
          ⟨.writeExperiment version.experimentId version.definition, ()⟩,
          ⟨.getVersion versionId, .ok (some version)⟩] (.publish message)
  | auditRun {versionId requestId user message earlier event} :
      Allowed (.run versionId requestId user) (⟨.publish message, ()⟩ :: earlier)
        (.recordAudit event)

/-- Why a request saves a version after what it has seen. -/
inductive SaveCause : StudioRequest → Past → ExperimentVersion → Prop
  | draft {body requestId user latest path testSet now draft} :
      IsDraft body user latest now draft →
      SaveCause (.create body requestId user)
        [⟨.utcNow, now⟩, ⟨.writeDataset path testSet, ()⟩,
          ⟨.latestVersionNumber body.experimentId, .ok latest⟩] draft
  | edit {versionId body requestId user version now} :
      version.status = .draft → version.Valid → version.versionId = versionId →
      SaveCause (.edit versionId body requestId user)
        [⟨.utcNow, now⟩, ⟨.getVersion versionId, .ok (some version)⟩] (edited version body now)
  | review {action versionId reason requestId user version now} :
      ¬ selfApproval version action.target user →
      action.target ∈ allowedTransitions version.status →
      version.Valid → version.versionId = versionId →
      SaveCause (.review action versionId reason requestId user)
        [⟨.utcNow, now⟩, ⟨.getVersion versionId, .ok (some version)⟩]
        (advanced version action.target now)

/-- What holds when a request returns. -/
structure Finished (request : StudioRequest) (past : Past) (response : Response) : Prop where
  /-- No request stops between saving a version and recording why. -/
  settled : ∀ version, past.head?.map Event.op ≠ some (.saveVersion version)
  /-- A created version was saved as it is reported. -/
  created : ∀ body requestId user status answer, request = .create body requestId user →
    response = .version status answer →
      ∃ draft, (⟨.saveVersion draft, ()⟩ : Event platform) ∈ past ∧ answer = versionResponse draft

/-- Facts about results in every state of the world. -/
def Promised : (op : Op) → op.Result → Prop
  | .getVersion versionId, result =>
      ∀ version, result = .ok (some version) → version.Valid ∧ version.versionId = versionId
  | _, _ => True

/-- The script of the studio's routes as a protocol. -/
def script : Protocol platform StudioRequest Response where
  allowed := Allowed
  promised := Promised
  finished := Finished

theorem promised_exec (input : Input) (op : Op) (world : World) :
    Promised op (exec input op world).1 := by
  cases op with
  | getVersion versionId =>
      intro version read
      exact ⟨(World.getVersion_eq_some.mp read).2, World.versionId_of_getVersion read⟩
  | _ => trivial

/-! ## The routes follow the script -/

theorem Finished.refused {request : StudioRequest} {past : Past} {response : Response}
    (settled : ∀ version, past.head?.map Event.op ≠ some (.saveVersion version))
    (refused : ∀ status answer, response ≠ .version status answer) :
    Finished request past response :=
  ⟨settled, fun _ _ _ status answer _ equal => absurd equal (refused status answer)⟩

theorem Finished.saved {request : StudioRequest} {past : Past} {draft : ExperimentVersion}
    (settled : ∀ version, past.head?.map Event.op ≠ some (.saveVersion version))
    (member : (⟨.saveVersion draft, ()⟩ : Event platform) ∈ past) :
    Finished request past (.version 201 (versionResponse draft)) := by
  refine ⟨settled, fun _ _ _ status answer _ equal => ⟨draft, member, ?_⟩⟩
  injection equal with _ reported
  exact reported.symm

private theorem buildErrorResponse_ne {error : BuildError} (status : ℕ) (answer : VersionResponse) :
    buildErrorResponse error ≠ .version status answer := by
  cases error <;> simp [buildErrorResponse]

private theorem create_obeys (services : Services) (body : CreateExperimentVersionRequest)
    (requestId : Option String) (user : User) :
    script.Obeys (.create body requestId user)
      (createExperimentVersion services body requestId user) [] := by
  simp only [createExperimentVersion, requireRole]
  split
  case isFalse => exact .refused (by simp) (by simp)
  case isTrue =>
    split
    case h_1 => exact .refused (by simp) (by simp [buildErrorResponse])
    case h_2 references _ =>
      refine ⟨.readLatest, fun result _ => ?_⟩
      cases result with
      | error error => exact .refused (by simp) (by simp [buildErrorResponse])
      | ok latest =>
          dsimp only [Program.bind]
          split
          case h_1 => exact .refused (by simp) buildErrorResponse_ne
          case h_2 config _ =>
            simp only [buildExperimentDraft]
            split
            case h_1 => exact .refused (by simp) buildErrorResponse_ne
            case h_2 pack template _ =>
              split
              case h_1 => exact .refused (by simp) buildErrorResponse_ne
              case h_2 generated _ =>
                refine ⟨.writeDataset, fun _ _ => ?_⟩
                dsimp only [Program.bind]
                split
                case h_1 => exact .refused (by simp) buildErrorResponse_ne
                case h_2 strategies _ =>
                  refine ⟨.draftClock, fun now _ => ?_⟩
                  dsimp only [Program.bind]
                  cases built : validateDraft body (draftVersion body
                      (draftDefinition body references (latest + 1) pack template strategies
                        generated.provenance) (latest + 1) generated.provenance user.username
                      now) with
                  | error error => exact .refused (by simp) buildErrorResponse_ne
                  | ok draft =>
                      obtain ⟨same, valid⟩ := validateDraft_eq_ok built
                      have isDraft : IsDraft body user latest now draft :=
                        ⟨same ▸ valid, references, pack, template, strategies,
                          generated.provenance, same⟩
                      exact ⟨.saveDraft isDraft, fun _ _ => ⟨.auditDraft, fun _ _ =>
                        .saved (by simp) (List.mem_cons_of_mem _ List.mem_cons_self)⟩⟩

private theorem edit_obeys (versionId : String) (body : EditExperimentVersionRequest)
    (requestId : Option String) (user : User) :
    script.Obeys (.edit versionId body requestId user)
      (editExperimentVersion versionId body requestId user) [] := by
  simp only [editExperimentVersion, requireRole]
  split
  case isFalse => exact .refused (by simp) (by simp)
  case isTrue =>
    refine ⟨.readForEdit, fun result _ => ?_⟩
    cases result with
    | error error => exact .refused (by simp) (by simp)
    | ok found =>
        cases found with
        | none => exact .refused (by simp) (by simp [versionNotFound])
        | some version =>
            dsimp only [Program.bind]
            simp only [editDraft]
            split
            case isTrue => exact .refused (by simp) (by simp)
            case isFalse editable =>
              have draft : version.status = .draft := not_not.mp editable
              refine ⟨.editClock draft, fun now _ => ⟨.saveEdit draft, fun _ _ =>
                ⟨.auditEdit, fun _ _ => ⟨by simp, ?_⟩⟩⟩⟩
              rintro _ _ _ _ _ ⟨⟩

private theorem review_obeys (action : ReviewAction) (versionId : String)
    (reason requestId : Option String) (user : User) :
    script.Obeys (.review action versionId reason requestId user)
      (action.route versionId reason requestId user) [] := by
  simp only [ReviewAction.route_eq, requireRole]
  split
  case isFalse => exact .refused (by simp) (by simp)
  case isTrue =>
    refine ⟨.readForReview, fun result _ => ?_⟩
    cases result with
    | error error => exact .refused (by simp) (by simp)
    | ok found =>
        cases found with
        | none => exact .refused (by simp) (by simp [versionNotFound])
        | some version =>
            dsimp only [Program.bind]
            split
            case isTrue own =>
              exact ⟨.auditBlocked own, fun _ _ => .refused (by simp) (by simp)⟩
            case isFalse permitted =>
              simp only [transition]
              cases checked : checkTransition version.status action.target with
              | error error => exact .refused (by simp) (by simp)
              | ok _ =>
                  have allowed := checkTransition_eq_ok.mp checked
                  refine ⟨.reviewClock permitted allowed, fun now _ =>
                    ⟨.saveReview permitted allowed, fun _ _ => ⟨.recordDecision, fun _ _ => ?_⟩⟩⟩
                  dsimp only [Program.bind]
                  split
                  case isTrue approving =>
                    obtain rfl : action = .approve := by
                      cases action <;> first | rfl | simp [ReviewAction.target] at approving
                    refine ⟨.materialiseApproved, fun _ _ =>
                      ⟨.auditReview (by simp), fun _ _ => ⟨by simp, ?_⟩⟩⟩
                    rintro _ _ _ _ _ ⟨⟩
                  case isFalse =>
                    refine ⟨.auditReview (by simp), fun _ _ => ⟨by simp, ?_⟩⟩
                    rintro _ _ _ _ _ ⟨⟩

private theorem run_obeys (versionId : String) (requestId : Option String) (user : User) :
    script.Obeys (.run versionId requestId user)
      (submitExperimentVersionRun versionId requestId user) [] := by
  simp only [submitExperimentVersionRun, requireRole]
  split
  case isFalse => exact .refused (by simp) (by simp)
  case isTrue =>
    refine ⟨.readForRun, fun result _ => ?_⟩
    cases result with
    | error error => exact .refused (by simp) (by simp)
    | ok found =>
        cases found with
        | none => exact .refused (by simp) (by simp [versionNotFound])
        | some version =>
            dsimp only [Program.bind]
            split
            case isTrue => exact .refused (by simp) (by simp)
            case isFalse approved =>
              refine ⟨.materialiseRun (not_not.mp approved), fun _ _ => ⟨.jobIdentifier,
                fun hex _ => ⟨.jobClock, fun now _ => ⟨.saveJob, fun _ _ =>
                  ⟨.publish rfl rfl, fun _ _ => ⟨.auditRun, fun _ _ => ?_⟩⟩⟩⟩⟩⟩
              exact .refused (by simp) (by simp)

/-- Every route follows the script. -/
theorem serve_obeys (services : Services) (request : StudioRequest) :
    script.Obeys request (serve services request) [] := by
  cases request with
  | create body requestId user => exact create_obeys services body requestId user
  | edit versionId body requestId user => exact edit_obeys versionId body requestId user
  | review action versionId reason requestId user =>
      exact review_obeys action versionId reason requestId user
  | run versionId requestId user => exact run_obeys versionId requestId user

end ZeroShield.Studio
