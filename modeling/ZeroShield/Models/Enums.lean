import Mathlib.Data.List.Basic

/-!
# Enumerations

The string-valued enumerations of the trusted core.  Every member has the text under which it is
stored and sent; a text is read back by searching the members in order.
-/

namespace ZeroShield.Models

/-- A finite enumeration whose members are written as texts. -/
class StringEnum (α : Type) where
  /-- All members, in the order of their declaration. -/
  members : List α
  /-- The text of a member. -/
  value : α → String
  /-- The first member with a given member's text is that member. -/
  find_value : ∀ member : α,
    (members.find? fun other => value other = value member) = some member := by
      intro member; cases member <;> decide

namespace StringEnum

variable {α : Type} [StringEnum α]

/-- The member written as a text. -/
def parse (text : String) : Option α :=
  members.find? fun member => value member = text

@[simp] theorem parse_value (member : α) : parse (value member) = some member :=
  find_value member

theorem value_injective : Function.Injective (value : α → String) := by
  intro left right equal
  have parsed := congrArg (parse (α := α)) equal
  simpa using parsed

end StringEnum

/-- The problem domains of the platform. -/
inductive Domain
  | vpn
  | telecom
  deriving DecidableEq, Repr

instance : StringEnum Domain where
  members := [.vpn, .telecom]
  value
    | .vpn => "VPN"
    | .telecom => "TELECOM"

/-- How far an experiment may reach; only synthetic experiments exist. -/
inductive SafetyLevel
  | syntheticOnly
  deriving DecidableEq, Repr

instance : StringEnum SafetyLevel where
  members := [.syntheticOnly]
  value
    | .syntheticOnly => "SYNTHETIC_ONLY"

/-- The approval field of an experiment definition, read by the safety rules. -/
inductive ApprovalStatus
  | draft
  | pendingReview
  | approved
  | revisionRequired
  | rejected
  | closed
  deriving DecidableEq, Repr

instance : StringEnum ApprovalStatus where
  members := [.draft, .pendingReview, .approved, .revisionRequired, .rejected, .closed]
  value
    | .draft => "draft"
    | .pendingReview => "pending_review"
    | .approved => "approved"
    | .revisionRequired => "revision_required"
    | .rejected => "rejected"
    | .closed => "closed"

/-- The provenance of an experiment's inputs. -/
inductive InputClassification
  | synthetic
  | benign
  | explicitlyAuthorized
  deriving DecidableEq, Repr

instance : StringEnum InputClassification where
  members := [.synthetic, .benign, .explicitlyAuthorized]
  value
    | .synthetic => "synthetic"
    | .benign => "benign"
    | .explicitlyAuthorized => "explicitly_authorized"

/-- The root cause of a failure pattern. -/
inductive RootCauseCategory
  | memorySafetyFailure
  | parserMessageHandlingFailure
  | inputValidationFailure
  | authenticationLogicError
  | authenticationLogicFlaw
  | authorizationAccessControlFailure
  | injectionFlaw
  | unsafeCommandOrCodeExecution
  deriving DecidableEq, Repr

instance : StringEnum RootCauseCategory where
  members :=
    [.memorySafetyFailure, .parserMessageHandlingFailure, .inputValidationFailure,
      .authenticationLogicError, .authenticationLogicFlaw, .authorizationAccessControlFailure,
      .injectionFlaw, .unsafeCommandOrCodeExecution]
  value
    | .memorySafetyFailure => "memory_safety_failure"
    | .parserMessageHandlingFailure => "parser_message_handling_failure"
    | .inputValidationFailure => "input_validation_failure"
    | .authenticationLogicError => "authentication_logic_error"
    | .authenticationLogicFlaw => "authentication_logic_flaw"
    | .authorizationAccessControlFailure => "authorization_access_control_failure"
    | .injectionFlaw => "injection_flaw"
    | .unsafeCommandOrCodeExecution => "unsafe_command_or_code_execution"

/-- The metrics an experiment may collect. -/
inductive MetricName
  | blockRate
  | validAcceptanceRate
  | falsePositiveRate
  | falseNegativeRate
  | parserReachRate
  | meanLatencyMs
  | logCompletenessRate
  deriving DecidableEq, Repr

instance : StringEnum MetricName where
  members :=
    [.blockRate, .validAcceptanceRate, .falsePositiveRate, .falseNegativeRate, .parserReachRate,
      .meanLatencyMs, .logCompletenessRate]
  value
    | .blockRate => "block_rate"
    | .validAcceptanceRate => "valid_acceptance_rate"
    | .falsePositiveRate => "false_positive_rate"
    | .falseNegativeRate => "false_negative_rate"
    | .parserReachRate => "parser_reach_rate"
    | .meanLatencyMs => "mean_latency_ms"
    | .logCompletenessRate => "log_completeness_rate"

/-- The workflow state of an experiment version, distinct from its definition's approval field. -/
inductive ExperimentVersionStatus
  | draft
  | readyForReview
  | underReview
  | approved
  | rejected
  | retired
  deriving DecidableEq, Repr

instance : StringEnum ExperimentVersionStatus where
  members := [.draft, .readyForReview, .underReview, .approved, .rejected, .retired]
  value
    | .draft => "draft"
    | .readyForReview => "ready_for_review"
    | .underReview => "under_review"
    | .approved => "approved"
    | .rejected => "rejected"
    | .retired => "retired"

/-- The roles of authenticated users. -/
inductive Role
  | viewer
  | researcher
  | reviewer
  | admin
  deriving DecidableEq, Repr

instance : StringEnum Role where
  members := [.viewer, .researcher, .reviewer, .admin]
  value
    | .viewer => "viewer"
    | .researcher => "researcher"
    | .reviewer => "reviewer"
    | .admin => "admin"

/-- The detail of the error for a role which is not among the required ones. -/
def roleRefusal (roles : List Role) (role : Role) : String :=
  let required := String.intercalate ", " (roles.map StringEnum.value)
  s!"role '{StringEnum.value role}' is not permitted to perform this action " ++
    s!"(requires one of: {required})"

/-- Where an experiment is executed. -/
inductive ExecutionContext
  | localUnitTest
  | experimentRun
  deriving DecidableEq, Repr

instance : StringEnum ExecutionContext where
  members := [.localUnitTest, .experimentRun]
  value
    | .localUnitTest => "local_unit_test"
    | .experimentRun => "experiment_run"

/-- The status of an asynchronous run job. -/
inductive JobStatus
  | queued
  | running
  | completed
  | failed
  | denied
  deriving DecidableEq, Repr

instance : StringEnum JobStatus where
  members := [.queued, .running, .completed, .failed, .denied]
  value
    | .queued => "queued"
    | .running => "running"
    | .completed => "completed"
    | .failed => "failed"
    | .denied => "denied"

/-- The lifecycle events of an asynchronous run. -/
inductive RunEventType
  | queued
  | preparing
  | safetyCheck
  | runningBaseline
  | runningMitigation
  | analysing
  | generatingEvidence
  | completed
  | denied
  | failed
  deriving DecidableEq, Repr

instance : StringEnum RunEventType where
  members :=
    [.queued, .preparing, .safetyCheck, .runningBaseline, .runningMitigation, .analysing,
      .generatingEvidence, .completed, .denied, .failed]
  value
    | .queued => "queued"
    | .preparing => "preparing"
    | .safetyCheck => "safety_check"
    | .runningBaseline => "running_baseline"
    | .runningMitigation => "running_mitigation"
    | .analysing => "analysing"
    | .generatingEvidence => "generating_evidence"
    | .completed => "completed"
    | .denied => "denied"
    | .failed => "failed"

/-- How relevant a vulnerability is to attacks without interaction. -/
inductive ZeroClickRelevance
  | high
  | medium
  | low
  deriving DecidableEq, Repr

instance : StringEnum ZeroClickRelevance where
  members := [.high, .medium, .low]
  value
    | .high => "High"
    | .medium => "Medium"
    | .low => "Low"

/-- The feeds which contribute intelligence. -/
inductive VulnerabilitySourceName
  | nvd
  | cisaKev
  | epss
  | githubAdvisory
  | manualImport
  deriving DecidableEq, Repr

instance : StringEnum VulnerabilitySourceName where
  members := [.nvd, .cisaKev, .epss, .githubAdvisory, .manualImport]
  value
    | .nvd => "nvd"
    | .cisaKev => "cisa_kev"
    | .epss => "epss"
    | .githubAdvisory => "github_advisory"
    | .manualImport => "manual_import"

/-- The decision taken on one input. -/
inductive Decision
  | accepted
  | blocked
  deriving DecidableEq, Repr

instance : StringEnum Decision where
  members := [.accepted, .blocked]
  value
    | .accepted => "accepted"
    | .blocked => "blocked"

/-- The kind of a test case. -/
inductive TestCaseCategory
  | valid
  | malformed
  | boundary
  deriving DecidableEq, Repr

instance : StringEnum TestCaseCategory where
  members := [.valid, .malformed, .boundary]
  value
    | .valid => "valid"
    | .malformed => "malformed"
    | .boundary => "boundary"

/-- Whether a run used the baseline or the mitigation. -/
inductive RunMode
  | baseline
  | mitigated
  deriving DecidableEq, Repr

instance : StringEnum RunMode where
  members := [.baseline, .mitigated]
  value
    | .baseline => "baseline"
    | .mitigated => "mitigated"

/-- The status of one run of a strategy. -/
inductive RunStatus
  | pending
  | running
  | completed
  | failed
  deriving DecidableEq, Repr

instance : StringEnum RunStatus where
  members := [.pending, .running, .completed, .failed]
  value
    | .pending => "pending"
    | .running => "running"
    | .completed => "completed"
    | .failed => "failed"

/-- The verdict on a comparison of two runs. -/
inductive VerdictLabel
  | effective
  | partiallyEffective
  | ineffective
  | regression
  | inconclusive
  deriving DecidableEq, Repr

instance : StringEnum VerdictLabel where
  members := [.effective, .partiallyEffective, .ineffective, .regression, .inconclusive]
  value
    | .effective => "effective"
    | .partiallyEffective => "partially_effective"
    | .ineffective => "ineffective"
    | .regression => "regression"
    | .inconclusive => "inconclusive"

end ZeroShield.Models
