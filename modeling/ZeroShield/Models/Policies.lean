import ZeroShield.Models.Experiment

/-!
# Safety policy

The four safety rules an experiment must pass before it is executed.
-/

namespace ZeroShield.Models

open StringEnum

/-- The outcome of one rule: whether it passed and, if not, why. -/
abbrev RuleResult := Bool × Option String

def checkSafe001ExternalTargeting (experiment : ExperimentDefinition)
    (_executionContext : ExecutionContext) : RuleResult :=
  if experiment.externalTargeting then
    (false, some ("SAFE-001: external_targeting must be false; no documented-authorisation " ++
      "mechanism exists in Phase 1."))
  else (true, none)

def checkSafe002InputClassification (experiment : ExperimentDefinition)
    (_executionContext : ExecutionContext) : RuleResult :=
  if experiment.safetyLevel = .syntheticOnly ∧ experiment.inputClassification ≠ .synthetic then
    (false, some ("SAFE-002: safety_level 'SYNTHETIC_ONLY' requires input_classification " ++
      s!"'synthetic', got '{value experiment.inputClassification}'."))
  else (true, none)

def checkSafe003WeaponisedPayloads (experiment : ExperimentDefinition)
    (_executionContext : ExecutionContext) : RuleResult :=
  if experiment.weaponisedPayloads then
    (false, some "SAFE-003: weaponised_payloads must be false for Phase 1.")
  else (true, none)

def checkSafe004ApprovalStatus (experiment : ExperimentDefinition)
    (executionContext : ExecutionContext) : RuleResult :=
  if executionContext = .localUnitTest then (true, none)
  else if experiment.approvalStatus ≠ .approved then
    (false, some ("SAFE-004: experiment must be approved before execution outside local unit " ++
      s!"tests (current status: '{value experiment.approvalStatus}')."))
  else (true, none)

/-- Outside local unit tests exactly approved definitions pass the approval rule. -/
theorem checkSafe004ApprovalStatus_experimentRun {experiment : ExperimentDefinition} :
    (checkSafe004ApprovalStatus experiment .experimentRun).1 = true ↔
      experiment.approvalStatus = .approved := by
  by_cases approved : experiment.approvalStatus = .approved <;>
    simp [checkSafe004ApprovalStatus, approved]

/-- The rules in the order in which they are evaluated. -/
def safetyRules : List (String × (ExperimentDefinition → ExecutionContext → RuleResult)) :=
  [("SAFE-001", checkSafe001ExternalTargeting), ("SAFE-002", checkSafe002InputClassification),
    ("SAFE-003", checkSafe003WeaponisedPayloads), ("SAFE-004", checkSafe004ApprovalStatus)]

/-- The recorded outcome of a policy evaluation. -/
structure PolicyDecision where
  allowed : Bool
  evaluatedAt : DateTime
  ruleResults : List (String × Bool)
  reasons : List String
  policyVersion : String
  deriving DecidableEq, Repr

/-- Evaluate every rule and collect the reasons of those which fail. -/
def SafetyPolicy.evaluate (experiment : ExperimentDefinition) (executionContext : ExecutionContext)
    (now : DateTime) : PolicyDecision :=
  let results := safetyRules.map fun (ruleId, check) => (ruleId, check experiment executionContext)
  { allowed := results.all (·.2.1)
    evaluatedAt := now
    ruleResults := results.map fun (ruleId, passed, _) => (ruleId, passed)
    reasons := results.filterMap fun (_, passed, reason) => if passed then none else reason
    policyVersion := "1.0.0" }

end ZeroShield.Models
