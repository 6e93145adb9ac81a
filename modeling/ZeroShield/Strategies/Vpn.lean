import ZeroShield.Strategies.Values
import Mathlib.Data.List.Infix

/-!
# Strategies on requests before authentication
-/

namespace ZeroShield.Strategies

open Foundation Models Runners

/-- A text which is not empty. -/
def isText : Json → Bool
  | .str text => text ≠ ""
  | _ => false

/-! ## The weak baseline -/

namespace WeakSchemaLengthBaseline

def strategyId : String := "weak_schema_length_baseline"

def process (inputData : Json) : Except StrategyException StrategyOutcome :=
  if !isText (get inputData "method") then .ok { decision := .blocked, parserReached := false }
  else if !isText (get inputData "path") then .ok { decision := .blocked, parserReached := false }
  else .ok { decision := .accepted, parserReached := true }

theorem blocked_iff {inputData : Json} : decisionOf (process inputData) = .blocked ↔
    ¬ (isText (get inputData "method") ∧ isText (get inputData "path")) := by
  rw [process]
  cases isText (get inputData "method")
  · simp [decisionOf]
  · cases isText (get inputData "path") <;> simp [decisionOf]

end WeakSchemaLengthBaseline

/-! ## The strict mitigation -/

namespace StrictSchemaCanonicalisationMitigation

variable (builtins : Builtins)

def strategyId : String := "strict_schema_canonicalisation_mitigation"

def maxPathLength : ℕ := 256
def maxBodyLength : ℤ := 8192
def maxHeaderValueLength : ℕ := 512
def maxQueryParamValueLength : ℕ := 512
def allowedEncodings : List Json := [.str "utf-8", .str "ascii"]
def pathTraversalMarkers : List String := ["..", "%2e%2e", "%00"]

def failsSchemaCheck (inputData : Json) : Bool :=
  !isText (get inputData "method") || !isText (get inputData "path")

def failsLengthChecks (inputData : Json) : Bool :=
  let declared := get inputData "declared_content_length"
  let actual := get inputData "actual_body_length"
  (match get inputData "path" with
    | .str path => maxPathLength < path.length
    | _ => false) ||
  (int? declared).all (fun number => number < 0 || maxBodyLength < number) ||
  !equal declared actual ||
  (pairs (get inputData "headers")).any
    (fun pair => maxHeaderValueLength < (builtins.str pair.2).length) ||
  (match getD inputData "query_params" (.obj []) with
    | .obj fields =>
        fields.any fun field => maxQueryParamValueLength < (builtins.str field.2).length
    | _ => false)

def failsDuplicateFieldCheck (inputData : Json) : Except StrategyException Bool := do
  let keys ← keySet (pairs (get inputData "headers"))
  return hasDuplicate keys

def failsTypeCheck (inputData : Json) : Except StrategyException Bool := do
  hash (get inputData "encoding")
  return !allowedEncodings.any (equal (get inputData "encoding"))

def failsPathCanonicalisationCheck (inputData : Json) : Bool :=
  let lowered := builtins.lower (builtins.str (getD inputData "path" (.str "")))
  pathTraversalMarkers.any fun marker => marker.toList <:+: lowered

/-- The checks in their order. -/
def checks (inputData : Json) : List (Except StrategyException Bool) :=
  [.ok (failsSchemaCheck inputData), .ok (failsLengthChecks builtins inputData),
    failsDuplicateFieldCheck inputData, failsTypeCheck inputData,
    .ok (failsPathCanonicalisationCheck builtins inputData)]

def isMalformed (inputData : Json) : Except StrategyException Bool :=
  anyOf (checks builtins inputData)

def process (inputData : Json) : Except StrategyException StrategyOutcome :=
  outcomeOf <$> isMalformed builtins inputData

end StrictSchemaCanonicalisationMitigation

end ZeroShield.Strategies
