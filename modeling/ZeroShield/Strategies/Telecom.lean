import ZeroShield.Strategies.Values

/-!
# Strategies on messages which set up a session
-/

namespace ZeroShield.Strategies

open Foundation Models Runners

/-! ## The weak baseline -/

namespace WeakMandatoryFieldStateBaseline

def strategyId : String := "weak_mandatory_field_state_baseline"

def knownMethods : List String := ["INVITE", "ACK", "BYE"]
def knownStates : List String := ["INIT", "RINGING", "ESTABLISHED", "TERMINATED"]

/-- A text among the known ones. -/
def isKnown (known : List String) : Json → Bool
  | .str text => text ∈ known
  | _ => false

def process (inputData : Json) : Except StrategyException StrategyOutcome :=
  if !isKnown knownMethods (get inputData "method") then
    .ok { decision := .blocked, parserReached := false }
  else if (asList (get inputData "headers")).isEmpty then
    .ok { decision := .blocked, parserReached := false }
  else if !isKnown knownStates (get inputData "session_state") then
    .ok { decision := .blocked, parserReached := false }
  else .ok { decision := .accepted, parserReached := true }

theorem blocked_iff {inputData : Json} : decisionOf (process inputData) = .blocked ↔
    ¬ (isKnown knownMethods (get inputData "method") ∧ asList (get inputData "headers") ≠ [] ∧
      isKnown knownStates (get inputData "session_state")) := by
  rw [process]
  cases isKnown knownMethods (get inputData "method")
  · simp [decisionOf]
  · cases asList (get inputData "headers")
    · simp [decisionOf]
    · cases isKnown knownStates (get inputData "session_state") <;> simp [decisionOf]

end WeakMandatoryFieldStateBaseline

/-! ## The strict mitigation -/

namespace StrictGrammarStateMachineMitigation

variable (builtins : Builtins)

def strategyId : String := "strict_grammar_state_machine_mitigation"

def maxSdpAttrValueLength : ℕ := 256
def maxBodyLength : ℤ := 4096
def mandatoryHeaders : List String := ["Call-ID", "From", "To"]

def legalTransitions : List (String × String) :=
  [("INIT", "INVITE"), ("RINGING", "ACK"), ("ESTABLISHED", "BYE")]

def failsMandatoryFieldCheck (inputData : Json) : Except StrategyException Bool := do
  let keys ← keySet (pairs (get inputData "headers"))
  return !mandatoryHeaders.all fun name => keys.any (equal (.str name))

def failsDuplicateHeaderCheck (inputData : Json) : Except StrategyException Bool := do
  let keys ← keySet (pairs (get inputData "headers"))
  return hasDuplicate keys

def failsSizeLimitChecks (inputData : Json) : Bool :=
  let declared := get inputData "declared_body_length"
  let actual := get inputData "actual_body_length"
  (int? declared).all (fun number => number < 0 || maxBodyLength < number) ||
  !equal declared actual ||
  (pairs (get inputData "sdp_attributes")).any
    (fun pair => maxSdpAttrValueLength < (builtins.str pair.2).length)

def failsSequenceValidation (inputData : Json) : Bool :=
  !equal (get inputData "sequence_number") (get inputData "expected_sequence_number")

def failsStateMachineCheck (inputData : Json) : Except StrategyException Bool := do
  let method := get inputData "method"
  let sessionState := get inputData "session_state"
  hash sessionState
  hash method
  return !legalTransitions.any fun (state, sent) =>
    equal sessionState (.str state) && equal method (.str sent)

/-- The checks in their order. -/
def checks (inputData : Json) : List (Except StrategyException Bool) :=
  [failsMandatoryFieldCheck inputData, failsDuplicateHeaderCheck inputData,
    .ok (failsSizeLimitChecks builtins inputData), .ok (failsSequenceValidation inputData),
    failsStateMachineCheck inputData]

def isMalformed (inputData : Json) : Except StrategyException Bool :=
  anyOf (checks builtins inputData)

def process (inputData : Json) : Except StrategyException StrategyOutcome :=
  outcomeOf <$> isMalformed builtins inputData

end StrictGrammarStateMachineMitigation

end ZeroShield.Strategies
