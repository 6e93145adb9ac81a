import ZeroShield.Platform.Operations

/-!
# The approval state machine

Transitions are checked against an explicit table.  A transition changes the workflow state and,
with it, the approval field of the definition.
-/

namespace ZeroShield.Studio

open Foundation Models Platform StringEnum

/-- The states which a workflow state may be followed by. -/
def allowedTransitions : ExperimentVersionStatus → List ExperimentVersionStatus
  | .draft => [.readyForReview]
  | .readyForReview => [.underReview, .draft]
  | .underReview => [.approved, .rejected, .readyForReview]
  | .approved => [.retired]
  | .rejected => []
  | .retired => []

/-- A transition which the table does not allow. -/
structure InvalidTransition where
  current : ExperimentVersionStatus
  target : ExperimentVersionStatus
  deriving DecidableEq

/-- Sort texts by their code points. -/
def sortTexts (texts : List String) : List String :=
  texts.insertionSort fun left right => left ≤ right

def InvalidTransition.message (error : InvalidTransition) : String :=
  s!"cannot transition from '{value error.current}' to '{value error.target}'; allowed targets " ++
    s!"from '{value error.current}': " ++
    ExperimentDefinition.listText (sortTexts ((allowedTransitions error.current).map value))

def checkTransition (current target : ExperimentVersionStatus) : Except InvalidTransition Unit :=
  if target ∈ allowedTransitions current then .ok () else .error ⟨current, target⟩

theorem checkTransition_eq_ok {current target : ExperimentVersionStatus} {checked : Unit} :
    checkTransition current target = .ok checked ↔ target ∈ allowedTransitions current := by
  unfold checkTransition
  split
  case isTrue allowed => simp [allowed]
  case isFalse refused => simp [refused]

/-- Only versions under review can be approved. -/
theorem underReview_of_approved_allowed {status : ExperimentVersionStatus}
    (allowed : .approved ∈ allowedTransitions status) : status = .underReview := by
  cases status <;> simp_all [allowedTransitions]

/-- The version after a transition: workflow state and approval field move together. -/
def advanced (version : ExperimentVersion) (target : ExperimentVersionStatus) (now : DateTime) :
    ExperimentVersion :=
  { version with
    status := target
    definition :=
      { version.definition with
        approvalStatus := if target = .approved then .approved else .draft }
    updatedAt := now }

/-- The content of a version: everything its workflow leaves alone. -/
def content (version : ExperimentVersion) : ExperimentVersion :=
  { version with
    status := .draft
    definition := { version.definition with approvalStatus := .draft }
    updatedAt := 0 }

/-- The decision recorded for a transition. -/
def decisionOf (version : ExperimentVersion) (target : ExperimentVersionStatus) (actor : String)
    (reason : Option String) (now : DateTime) : ApprovalDecision where
  versionId := version.versionId
  fromStatus := version.status
  toStatus := target
  actor := actor
  reason := reason
  decidedAt := now

/-- Apply an allowed transition at the time of the clock. -/
def transition (version : ExperimentVersion) (target : ExperimentVersionStatus) (actor : String)
    (reason : Option String) :
    Program platform (Except InvalidTransition (ExperimentVersion × ApprovalDecision)) :=
  match checkTransition version.status target with
  | .error error => .done (.error error)
  | .ok () => do
      let now ← call .utcNow
      return .ok (advanced version target now, decisionOf version target actor reason now)

section Advanced

variable {version : ExperimentVersion} {target : ExperimentVersionStatus} {now : DateTime}

@[simp] theorem advanced_versionId : (advanced version target now).versionId = version.versionId :=
  rfl

@[simp] theorem advanced_experimentId :
    (advanced version target now).experimentId = version.experimentId := rfl

@[simp] theorem advanced_versionNumber :
    (advanced version target now).versionNumber = version.versionNumber := rfl

@[simp] theorem advanced_status : (advanced version target now).status = target := rfl

@[simp] theorem advanced_createdBy : (advanced version target now).createdBy = version.createdBy :=
  rfl

@[simp] theorem advanced_updatedAt : (advanced version target now).updatedAt = now := rfl

@[simp] theorem advanced_approvalStatus :
    (advanced version target now).definition.approvalStatus = approvedDefinitionStatus target := rfl

@[simp] theorem content_advanced : content (advanced version target now) = content version := rfl

end Advanced

end ZeroShield.Studio
