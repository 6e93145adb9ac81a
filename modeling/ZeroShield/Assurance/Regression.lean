import ZeroShield.Models.Run

/-!
# Regressions between validations

Two validations of one control version are compared measure by measure; any measure which got worse
by more than is tolerated makes the later one a regression.
-/

namespace ZeroShield.Assurance

open Foundation Models StringEnum

/-- The recorded result of a completed run against a control version. -/
structure ControlValidation where
  validationId : String
  controlId : String
  versionId : String
  experimentId : String
  baselineRunId : String
  mitigationRunId : String
  totalCases : ℕ
  blockRateImprovement : ℚ
  falsePositiveRate : ℚ
  falseNegativeRate : ℚ
  validAcceptanceRate : ℚ
  parserReachRate : ℚ
  latencyOverheadMs : ℚ
  verdictLabel : String
  validatedAt : DateTime
  deriving DecidableEq

/-- How good a verdict is; an unknown label counts as inconclusive. -/
def verdictSeverity (label : String) : ℕ :=
  match (parse label : Option VerdictLabel) with
  | some .effective => 4
  | some .partiallyEffective => 3
  | some .inconclusive => 2
  | some .ineffective => 1
  | some .regression => 0
  | none => 2

/-- The tolerated degradation of each measure. -/
structure RegressionThresholds where
  maxBlockRateImprovementDrop : ℚ := 1 / 10
  maxFalsePositiveRateIncrease : ℚ := 1 / 20
  maxFalseNegativeRateIncrease : ℚ := 1 / 20
  maxValidAcceptanceRateDrop : ℚ := 1 / 20
  maxParserReachRateIncrease : ℚ := 1 / 20

/-- The thresholds under their names. -/
def regressionThresholdsDict (thresholds : RegressionThresholds) : List (String × ℚ) :=
  [("max_block_rate_improvement_drop", thresholds.maxBlockRateImprovementDrop),
    ("max_false_positive_rate_increase", thresholds.maxFalsePositiveRateIncrease),
    ("max_false_negative_rate_increase", thresholds.maxFalseNegativeRateIncrease),
    ("max_valid_acceptance_rate_drop", thresholds.maxValidAcceptanceRateDrop),
    ("max_parser_reach_rate_increase", thresholds.maxParserReachRateIncrease)]

structure RegressionResult where
  isRegression : Bool
  reasons : List String
  thresholdsUsed : List (String × ℚ)

/-- The reason reported when a measure changed by more than is tolerated. -/
def measureReason (description : String) (change allowed previous latest : ℚ) : List String :=
  if allowed < change then
    [s!"{description} by {fixed 3 change} ({fixed 3 previous} -> {fixed 3 latest}), " ++
      s!"exceeding the allowed {fixed 3 allowed}."]
  else []

/-- Compare a validation with the one before it. -/
def detectRegressions (previous latest : ControlValidation)
    (thresholds : RegressionThresholds := {}) : RegressionResult :=
  let reasons :=
    (if verdictSeverity latest.verdictLabel < verdictSeverity previous.verdictLabel then
      [s!"Verdict deteriorated from '{previous.verdictLabel}' to '{latest.verdictLabel}'."]
    else []) ++
    measureReason "block_rate_improvement dropped"
      (previous.blockRateImprovement - latest.blockRateImprovement)
      thresholds.maxBlockRateImprovementDrop previous.blockRateImprovement
      latest.blockRateImprovement ++
    measureReason "false_positive_rate increased"
      (latest.falsePositiveRate - previous.falsePositiveRate)
      thresholds.maxFalsePositiveRateIncrease previous.falsePositiveRate
      latest.falsePositiveRate ++
    measureReason "false_negative_rate increased"
      (latest.falseNegativeRate - previous.falseNegativeRate)
      thresholds.maxFalseNegativeRateIncrease previous.falseNegativeRate
      latest.falseNegativeRate ++
    measureReason "valid_acceptance_rate dropped"
      (previous.validAcceptanceRate - latest.validAcceptanceRate)
      thresholds.maxValidAcceptanceRateDrop previous.validAcceptanceRate
      latest.validAcceptanceRate ++
    measureReason "parser_reach_rate (parser exposure) increased"
      (latest.parserReachRate - previous.parserReachRate)
      thresholds.maxParserReachRateIncrease previous.parserReachRate latest.parserReachRate
  { isRegression := reasons ≠ []
    reasons
    thresholdsUsed := regressionThresholdsDict thresholds }

end ZeroShield.Assurance
