import ZeroShield.Strategies.Vpn
import ZeroShield.Strategies.Telecom
import ZeroShield.Studio.Catalogue

/-!
# What the mitigations of both domains block

A mitigation accepts exactly what passes all of its checks.  So it blocks what the baseline of its
domain blocks, and an input without a required field unless that field is one of two which are only
compared with each other.
-/

namespace ZeroShield.Strategies

open Foundation Models Runners Studio

/-- The baseline of a domain. -/
def baseline : Domain → Json → Except StrategyException StrategyOutcome
  | .vpn => WeakSchemaLengthBaseline.process
  | .telecom => WeakMandatoryFieldStateBaseline.process

/-- The strict mitigation of a domain. -/
def mitigation (builtins : Builtins) : Domain → Json → Except StrategyException StrategyOutcome
  | .vpn => StrictSchemaCanonicalisationMitigation.process builtins
  | .telecom => StrictGrammarStateMachineMitigation.process builtins

/-- The template of a domain. -/
def template : Domain → ValidationTemplate
  | .vpn => vpnSchemaCanonicalisationV1
  | .telecom => telecomGrammarStateMachineV1

section Decisions

variable {builtins : Builtins} {inputData : Json}

/-! ## Accepted requests -/

namespace StrictSchemaCanonicalisationMitigation

/-- What an accepted request passes. -/
structure Passes (builtins : Builtins) (inputData : Json) : Prop where
  schema : failsSchemaCheck inputData = false
  length : failsLengthChecks builtins inputData = false
  duplicates : failsDuplicateFieldCheck inputData = .ok false
  type : failsTypeCheck inputData = .ok false
  path : failsPathCanonicalisationCheck builtins inputData = false

theorem accepts_iff : decisionOf (process builtins inputData) = .accepted ↔
    Passes builtins inputData := by
  rw [process, isMalformed, Strategies.accepts_iff, checks]
  simp only [List.forall_mem_cons, List.not_mem_nil, false_implies, implies_true, and_true,
    Except.ok.injEq]
  exact ⟨fun ⟨schema, length, duplicates, type, path⟩ => ⟨schema, length, duplicates, type, path⟩,
    fun ⟨schema, length, duplicates, type, path⟩ => ⟨schema, length, duplicates, type, path⟩⟩

namespace Passes

variable (passes : Passes builtins inputData)

include passes

theorem texts : isText (get inputData "method") ∧ isText (get inputData "path") := by
  have schema := passes.schema
  rw [failsSchemaCheck, Bool.or_eq_false_iff] at schema
  simpa using schema

theorem declared : ∃ number, int? (get inputData "declared_content_length") = some number := by
  have length := passes.length
  rw [failsLengthChecks] at length
  simp only [Bool.or_eq_false_iff] at length
  obtain ⟨⟨⟨⟨-, declared⟩, -⟩, -⟩, -⟩ := length
  cases found : int? (get inputData "declared_content_length") with
  | none =>
      rw [found] at declared
      cases declared
  | some number => exact ⟨number, rfl⟩

theorem actual : equal (get inputData "declared_content_length")
    (get inputData "actual_body_length") := by
  have length := passes.length
  rw [failsLengthChecks] at length
  simp only [Bool.or_eq_false_iff] at length
  obtain ⟨⟨⟨-, same⟩, -⟩, -⟩ := length
  simpa using same

theorem encoding : get inputData "encoding" ∈ allowedEncodings := by
  have type := passes.type
  rw [failsTypeCheck] at type
  obtain ⟨-, -, allowed⟩ := bind_eq_ok.mp type
  have allowed : (allowedEncodings.any (equal (get inputData "encoding"))) = true := by
    simpa using Except.ok.inj allowed
  obtain ⟨value, member, same⟩ := List.any_eq_true.mp allowed
  simp only [allowedEncodings, List.mem_cons, List.not_mem_nil, or_false] at member
  rcases member with rfl | rfl
  all_goals
    rw [equal_str.mp same]
    simp [allowedEncodings]

end Passes

end StrictSchemaCanonicalisationMitigation

namespace StrictGrammarStateMachineMitigation

/-- What a message passes in all checks but the one of its sequence numbers. -/
structure PassesOthers (builtins : Builtins) (inputData : Json) : Prop where
  mandatory : failsMandatoryFieldCheck inputData = .ok false
  duplicates : failsDuplicateHeaderCheck inputData = .ok false
  size : failsSizeLimitChecks builtins inputData = false
  state : failsStateMachineCheck inputData = .ok false

theorem accepts_iff : decisionOf (process builtins inputData) = .accepted ↔
    PassesOthers builtins inputData ∧ failsSequenceValidation inputData = false := by
  rw [process, isMalformed, Strategies.accepts_iff, checks]
  simp only [List.forall_mem_cons, List.not_mem_nil, false_implies, implies_true, and_true,
    Except.ok.injEq]
  exact ⟨fun ⟨mandatory, duplicates, size, sequence, state⟩ =>
      ⟨⟨mandatory, duplicates, size, state⟩, sequence⟩,
    fun ⟨⟨mandatory, duplicates, size, state⟩, sequence⟩ =>
      ⟨mandatory, duplicates, size, sequence, state⟩⟩

namespace PassesOthers

variable (passes : PassesOthers builtins inputData)

include passes

theorem headers : asList (get inputData "headers") ≠ [] := by
  intro empty
  have mandatory := passes.mandatory
  rw [failsMandatoryFieldCheck, pairs, empty] at mandatory
  cases mandatory

theorem transition : ∃ state method, (state, method) ∈ legalTransitions ∧
    get inputData "session_state" = .str state ∧ get inputData "method" = .str method := by
  have state := passes.state
  rw [failsStateMachineCheck] at state
  obtain ⟨-, -, state⟩ := bind_eq_ok.mp state
  obtain ⟨-, -, state⟩ := bind_eq_ok.mp state
  have legal := Except.ok.inj state
  rw [Bool.not_eq_false'] at legal
  obtain ⟨⟨state, method⟩, member, same⟩ := List.any_eq_true.mp legal
  rw [Bool.and_eq_true] at same
  exact ⟨state, method, member, equal_str.mp same.1, equal_str.mp same.2⟩

end PassesOthers

end StrictGrammarStateMachineMitigation

/-! ## The mitigation dominates the baseline -/

/-- An input which the mitigation of its domain accepts is accepted by the baseline. -/
theorem baseline_accepts {domain : Domain}
    (accepted : decisionOf (mitigation builtins domain inputData) = .accepted) :
    decisionOf (baseline domain inputData) ≠ .blocked := by
  cases domain with
  | vpn =>
      have passes := StrictSchemaCanonicalisationMitigation.accepts_iff.mp accepted
      exact mt WeakSchemaLengthBaseline.blocked_iff.mp (not_not.mpr passes.texts)
  | telecom =>
      obtain ⟨passes, -⟩ := StrictGrammarStateMachineMitigation.accepts_iff.mp accepted
      obtain ⟨state, method, legal, isState, isMethod⟩ := passes.transition
      refine mt WeakMandatoryFieldStateBaseline.blocked_iff.mp (not_not.mpr ⟨?_,
        passes.headers, ?_⟩)
      all_goals
        simp only [StrictGrammarStateMachineMitigation.legalTransitions, List.mem_cons,
          List.not_mem_nil, or_false, Prod.mk.injEq] at legal
        rcases legal with ⟨rfl, rfl⟩ | ⟨rfl, rfl⟩ | ⟨rfl, rfl⟩
        all_goals simp [isState, isMethod, WeakMandatoryFieldStateBaseline.isKnown,
          WeakMandatoryFieldStateBaseline.knownMethods, WeakMandatoryFieldStateBaseline.knownStates]

/-- A strategy which takes some time for each input. -/
def timed (strategyId : String) (process : Json → Except StrategyException StrategyOutcome)
    (latencyMs : ℕ → ℚ) : ProcessingStrategy where
  strategyId
  process index inputData := ⟨process inputData, latencyMs index⟩

/-- The cases which a run has blocked. -/
def blockedCases (results : List CaseResult) : List String :=
  (results.filter (·.decision = .blocked)).map (·.caseId)

/-- The blocked cases are those for which the strategy blocks or raises. -/
theorem mem_blockedCases {strategyId runId : String}
    {process : Json → Except StrategyException StrategyOutcome} {latencyMs : ℕ → ℚ} {index : ℕ}
    {cases : List TestCase} {results : List CaseResult} {caseId : String}
    (executed : executeCases (timed strategyId process latencyMs) runId index cases = .ok results) :
    caseId ∈ blockedCases results ↔
      ∃ case ∈ cases, case.caseId = caseId ∧ decisionOf (process case.inputData) = .blocked := by
  induction cases generalizing index results with
  | nil =>
      cases executed
      simp [blockedCases]
  | cons case cases ih =>
      obtain ⟨result, first, executed⟩ := bind_eq_ok.mp executed
      obtain ⟨others, rest, executed⟩ := bind_eq_ok.mp executed
      cases executed
      have isCase := (executeCase_records first).caseId_eq
      have decision : result.decision = decisionOf (process case.inputData) :=
        decision_of_executeCase first
      have later := ih rest
      rw [blockedCases] at later
      rw [blockedCases, List.filter_cons]
      by_cases blocked : decisionOf (process case.inputData) = .blocked
      · rw [if_pos (by simp [decision, blocked]), List.map_cons, List.mem_cons, later, isCase]
        simp [blocked, eq_comm (a := caseId)]
      · simp [decision, blocked, later]

/-- Where the baseline blocks, the mitigation blocks: for every case, and for every list of
cases. -/
theorem blocked_of_baseline (builtins : Builtins) (domain : Domain) :
    (∀ (runId runId' : String) (case : TestCase) (latencyMs latencyMs' : ℚ)
        (weak strict : CaseResult),
      executeCase runId case ⟨baseline domain case.inputData, latencyMs⟩ = .ok weak →
        executeCase runId' case ⟨mitigation builtins domain case.inputData, latencyMs'⟩ =
            .ok strict →
          weak.decision = .blocked → strict.decision = .blocked) ∧
    ∀ (strategyId strategyId' runId runId' : String) (latencyMs latencyMs' : ℕ → ℚ)
        (cases : List TestCase) (weak strict : List CaseResult),
      executeCases (timed strategyId (baseline domain) latencyMs) runId 0 cases = .ok weak →
        executeCases (timed strategyId' (mitigation builtins domain) latencyMs') runId' 0 cases =
            .ok strict →
          blockedCases weak ⊆ blockedCases strict := by
  have dominates : ∀ {inputData : Json}, decisionOf (baseline domain inputData) = .blocked →
      decisionOf (mitigation builtins domain inputData) = .blocked := by
    intro inputData weak
    exact blocked_iff.mpr fun accepted => baseline_accepts accepted weak
  constructor
  · intro runId runId' case latencyMs latencyMs' weak strict executed executed' blocked
    rw [decision_of_executeCase executed] at blocked
    rw [decision_of_executeCase executed']
    exact dominates blocked
  · intro strategyId strategyId' runId runId' latencyMs latencyMs' cases weak strict executed
      executed' caseId member
    obtain ⟨case, stored, isCase, blocked⟩ := (mem_blockedCases executed).mp member
    exact (mem_blockedCases executed').mpr ⟨case, stored, isCase, dominates blocked⟩

/-! ## Required fields -/

/-- A required field of the domain is absent or null. -/
def Lacks (domain : Domain) (inputData : Json) : Prop :=
  ∃ field ∈ (template domain).requiredInputFields, get inputData field = .null

/-- Both sequence numbers of a message are absent or null. -/
def Unsequenced (inputData : Json) : Prop :=
  get inputData "sequence_number" = .null ∧ get inputData "expected_sequence_number" = .null

/-- A request without a required field is not accepted. -/
theorem not_lacks_of_passes
    (passes : StrictSchemaCanonicalisationMitigation.Passes builtins inputData) :
    ¬ Lacks .vpn inputData := by
  rintro ⟨field, member, lacking⟩
  obtain ⟨method, path⟩ := passes.texts
  obtain ⟨number, declared⟩ := passes.declared
  have actual := passes.actual
  have encoding := passes.encoding
  simp only [template, vpnSchemaCanonicalisationV1, List.mem_cons, List.not_mem_nil,
    or_false] at member
  rcases member with rfl | rfl | rfl | rfl | rfl
  · rw [lacking] at method
    cases method
  · rw [lacking] at path
    cases path
  · rw [lacking] at declared
    cases declared
  · rw [lacking, equal_null] at actual
    rw [actual] at declared
    cases declared
  · rw [lacking] at encoding
    simp [StrictSchemaCanonicalisationMitigation.allowedEncodings] at encoding

/-- An accepted message lacks at most its sequence numbers. -/
theorem unsequenced_of_lacks
    (passes : StrictGrammarStateMachineMitigation.PassesOthers builtins inputData)
    (sequence : equal (get inputData "sequence_number") (get inputData "expected_sequence_number"))
    (lacks : Lacks .telecom inputData) : Unsequenced inputData := by
  obtain ⟨field, member, lacking⟩ := lacks
  obtain ⟨state, method, -, isState, isMethod⟩ := passes.transition
  simp only [template, telecomGrammarStateMachineV1, List.mem_cons, List.not_mem_nil,
    or_false] at member
  rcases member with rfl | rfl | rfl | rfl | rfl
  · rw [lacking] at isMethod
    cases isMethod
  · rw [lacking] at isState
    cases isState
  · exact absurd (congrArg asList lacking) passes.headers
  · rw [lacking, null_equal] at sequence
    exact ⟨lacking, sequence⟩
  · rw [lacking, equal_null] at sequence
    exact ⟨sequence, lacking⟩

/-- A case without a required field is blocked unless it is a message without both sequence numbers
which passes all other checks. -/
theorem blocked_iff_of_lacks (builtins : Builtins) {domain : Domain} {runId : String}
    {case : TestCase} {latencyMs : ℚ} {result : CaseResult} (lacks : Lacks domain case.inputData)
    (executed : executeCase runId case ⟨mitigation builtins domain case.inputData, latencyMs⟩ =
      .ok result) :
    result.decision = .blocked ↔
      ¬ (domain = .telecom ∧ Unsequenced case.inputData ∧
        StrictGrammarStateMachineMitigation.PassesOthers builtins case.inputData) := by
  rw [decision_of_executeCase executed, blocked_iff, not_iff_not]
  cases domain with
  | vpn =>
      refine ⟨fun accepted => ?_, fun ⟨impossible, _⟩ => by cases impossible⟩
      have passes := StrictSchemaCanonicalisationMitigation.accepts_iff.mp accepted
      exact absurd lacks (not_lacks_of_passes passes)
  | telecom =>
      refine StrictGrammarStateMachineMitigation.accepts_iff.trans ⟨?_, ?_⟩
      · rintro ⟨passes, sequence⟩
        rw [StrictGrammarStateMachineMitigation.failsSequenceValidation,
          Bool.not_eq_false'] at sequence
        exact ⟨rfl, unsequenced_of_lacks passes sequence lacks, passes⟩
      · rintro ⟨-, ⟨first, second⟩, passes⟩
        refine ⟨passes, ?_⟩
        rw [StrictGrammarStateMachineMitigation.failsSequenceValidation, first, second]
        rfl

end Decisions

/-! ## Sample inputs -/

namespace Sample

def builtins : Builtins where
  repr _ := ""
  lowerCase _ c _ := [c]

def header (name content : String) : Json :=
  .arr [.str name, .str content]

/-- A message which has everything but its sequence numbers. -/
def message : Json :=
  .obj
    [("method", .str "INVITE"), ("session_state", .str "INIT"),
      ("headers", .arr [header "Call-ID" "call-0001", header "From" "sip:alice@ims.example.local",
        header "To" "sip:bob@ims.example.local"]),
      ("declared_body_length", .int 32), ("actual_body_length", .int 32)]

/-- A message whose only header has no name but a list, which the mitigation raises on. -/
def unhashable : Json :=
  .obj [("headers", .arr [.arr [.arr [], .str "call-0001"]])]

def case (inputData : Json) : TestCase where
  caseId := "TC-1"
  category := .malformed
  inputData := inputData
  expectedOutcome := .blocked
  provenance := "synthetic"
  version := "1.0.0"

theorem message_lacks : Lacks .telecom message :=
  ⟨"sequence_number", by decide, by decide⟩

theorem message_accepted : ∃ result,
    executeCase "RUN-001" (case message) ⟨mitigation builtins .telecom message, 1⟩ = .ok result ∧
      result.decision = .accepted := by
  have answer : mitigation builtins .telecom message = .ok (outcomeOf false) := rfl
  rw [answer]
  exact ⟨_, CaseResult.validate_eq_ok.mpr ⟨by decide, rfl⟩, rfl⟩

theorem unhashable_blocked : ∃ weak strict,
    executeCase "RUN-001" (case unhashable) ⟨baseline .telecom unhashable, 1⟩ = .ok weak ∧
      executeCase "RUN-002" (case unhashable) ⟨mitigation builtins .telecom unhashable, 1⟩ =
        .ok strict ∧ weak.decision = .blocked := by
  have first : baseline .telecom unhashable =
    .ok { decision := .blocked, parserReached := false } :=
    rfl
  have second : mitigation builtins .telecom unhashable =
      .error (typeError "unhashable type: 'list'") := rfl
  rw [first, second]
  exact ⟨_, _, CaseResult.validate_eq_ok.mpr ⟨by decide, rfl⟩,
    CaseResult.validate_eq_ok.mpr ⟨by decide, rfl⟩, rfl⟩

end Sample

/-- The mitigation raises on a sample message which the baseline blocks, and its case is blocked. -/
theorem blocked_of_baseline_of_sample : ∃ strict,
    executeCase "RUN-002" (Sample.case Sample.unhashable)
        ⟨mitigation Sample.builtins .telecom Sample.unhashable, 1⟩ = .ok strict ∧
      strict.decision = .blocked := by
  obtain ⟨weak, strict, executed, executed', blocked⟩ := Sample.unhashable_blocked
  exact ⟨strict, executed', (blocked_of_baseline Sample.builtins .telecom).1 _ _
    (Sample.case Sample.unhashable) _ _ weak strict executed executed' blocked⟩

/-- The sample message without sequence numbers is not blocked. -/
theorem blocked_iff_of_lacks_of_sample : ∃ result,
    executeCase "RUN-001" (Sample.case Sample.message)
        ⟨mitigation Sample.builtins .telecom Sample.message, 1⟩ = .ok result ∧
      ¬ result.decision = .blocked := by
  obtain ⟨result, executed, -⟩ := Sample.message_accepted
  refine ⟨result, executed, ?_⟩
  have decided := @blocked_iff_of_lacks Sample.builtins .telecom "RUN-001"
    (Sample.case Sample.message) 1 result Sample.message_lacks executed
  rw [decided, not_not]
  exact ⟨rfl, ⟨by decide, by decide⟩, rfl, rfl, by decide, rfl⟩

/-- A message without sequence numbers is accepted. -/
theorem not_blocked_of_unsequenced :
    ¬ ∀ (builtins : Builtins) (domain : Domain) (runId : String) (case : TestCase) (latencyMs : ℚ)
        (result : CaseResult), Lacks domain case.inputData →
      executeCase runId case ⟨mitigation builtins domain case.inputData, latencyMs⟩ = .ok result →
        result.decision = .blocked := by
  intro claim
  obtain ⟨result, executed, accepted⟩ := Sample.message_accepted
  have blocked := claim Sample.builtins .telecom "RUN-001" (Sample.case Sample.message) 1 result
    Sample.message_lacks executed
  rw [accepted] at blocked
  cases blocked

end ZeroShield.Strategies
