import ZeroShield.Analyst.ResearchAnalystService
import Mathlib.Data.List.Dedup

/-!
# The allow-list of the research analyst

Whatever the provider answers, an assessment is about the caller's subject, is stamped by the
application, and names only what it was offered; a failure pattern is checked when candidates were
offered.
-/

namespace ZeroShield.Analyst

open Foundation Models Transaction

/-! ## Calls -/

/-- A call of one of the methods. -/
inductive AnalystCall
  | classifyFailurePattern (cveId : String) (description : Option String)
      (cvssScore epssScore : Option ℚ) (kevListed : Bool) (domainHint : Option String)
      (candidateFailurePatterns : List String)
  | analyzeMitigationGap (cveId : String) (description vendorMitigation : Option String)
  | summariseSimilarity (cveId : String) (candidateCveIds : List String) (correlationNotes : String)
  | recommendTemplate (cveId : String) (failurePattern description : Option String)
      (candidates : List (String × String × String))
  | draftExperimentProposal (cveId : String) (description failurePattern : Option String)
      (domainPackId templateId : String)
  | explainRegression (controlId : String) (reasons : List String)

/-- What a method returns. -/
inductive Assessment
  | failurePattern (assessment : FailurePatternAssessment)
  | mitigationGap (assessment : MitigationGapAssessment)
  | similarity (recommendation : SimilarVulnerabilityRecommendation)
  | template (recommendation : ValidationTemplateRecommendation)
  | experimentDraft (suggestion : ExperimentDraftSuggestion)
  | regression (explanation : RegressionExplanation)
  deriving DecidableEq

def Assessment.base : Assessment → AIAssessmentBase
  | .failurePattern assessment => assessment.toAIAssessmentBase
  | .mitigationGap assessment => assessment.toAIAssessmentBase
  | .similarity recommendation => recommendation.toAIAssessmentBase
  | .template recommendation => recommendation.toAIAssessmentBase
  | .experimentDraft suggestion => suggestion.toAIAssessmentBase
  | .regression explanation => explanation.toAIAssessmentBase

section Calls

variable (formats : Formats) (provider : AIProvider) (now : DateTime)

/-- Call a method. -/
def answer : AnalystCall → Analysis Assessment
  | .classifyFailurePattern cveId description cvssScore epssScore kevListed domainHint candidates =>
      return .failurePattern (← classifyFailurePattern formats provider now cveId description
        cvssScore epssScore kevListed domainHint candidates)
  | .analyzeMitigationGap cveId description vendorMitigation =>
      return .mitigationGap
        (← analyzeMitigationGap formats provider now cveId description vendorMitigation)
  | .summariseSimilarity cveId candidateCveIds correlationNotes =>
      return .similarity
        (← summariseSimilarity formats provider now cveId candidateCveIds correlationNotes)
  | .recommendTemplate cveId failurePattern description candidates =>
      return .template
        (← recommendTemplate formats provider now cveId failurePattern description candidates)
  | .draftExperimentProposal cveId description failurePattern domainPackId templateId =>
      return .experimentDraft (← draftExperimentProposal formats provider now cveId description
        failurePattern domainPackId templateId)
  | .explainRegression controlId reasons =>
      return .regression (← explainRegression formats provider now controlId reasons)

/-! ## The allow-list -/

/-- The provider and the model are those of the provider itself, the time is the clock's. -/
def Stamped (base : AIAssessmentBase) : Prop :=
  ∃ request result, provider request = .ok result ∧ base.provider = result.provider ∧
    base.model = result.model ∧ base.generatedAt = now

/-- No failure pattern, or one of the candidates. -/
def Offered (candidates : List String) (pattern : String) : Prop :=
  pattern = "" ∨ pattern ∈ candidates

/-- Candidates were offered and the failure pattern is one of them, or none. -/
def OfferedIfAny (candidates : List String) (pattern : String) : Prop :=
  candidates ≠ [] → Offered candidates pattern

/-- The subject is the caller's, and everything named was offered; `admitted` says which failure
patterns are. -/
def Grounded (admitted : List String → String → Prop) : AnalystCall → Assessment → Prop
  | .classifyFailurePattern cveId _ _ _ _ _ candidates, .failurePattern assessment =>
      assessment.cveId = cveId ∧ admitted candidates assessment.failurePattern
  | .analyzeMitigationGap cveId _ _, .mitigationGap assessment => assessment.cveId = cveId
  | .summariseSimilarity cveId candidates _, .similarity recommendation =>
      recommendation.cveId = cveId ∧ recommendation.similarCveIds ⊆ candidates
  | .recommendTemplate cveId _ _ candidates, .template recommendation =>
      recommendation.cveId = cveId ∧ (recommendation.domainPackId, recommendation.templateId,
        recommendation.templateVersion) ∈ candidates
  | .draftExperimentProposal cveId _ _ _ _, .experimentDraft suggestion => suggestion.cveId = cveId
  | .explainRegression controlId _, .regression explanation => explanation.controlId = controlId
  | _, _ => False

/-- An assessment stays inside what the caller offered. -/
def InsideAllowList (admitted : List String → String → Prop) (call : AnalystCall)
    (assessment : Assessment) : Prop :=
  Grounded admitted call assessment ∧ Stamped provider now assessment.base

end Calls

/-! ## What the payload says -/

section Payload

variable {result : AIGenerationResult} {now : DateTime} {name value : String}

theorem payloadOf_provider (extra : List (String × String)) :
    (payloadOf now result extra).get "provider" = some (.json (.str result.provider)) := by
  simp [payloadOf, Dict.get_set]

theorem payloadOf_model (extra : List (String × String)) :
    (payloadOf now result extra).get "model" = some (.json (.str result.model)) := by
  simp [payloadOf, Dict.get_set]

theorem payloadOf_generatedAt (extra : List (String × String)) :
    (payloadOf now result extra).get "generated_at" = some (.time now) := by
  simp [payloadOf, Dict.get_set]

/-- The caller's field is not overridden. -/
theorem payloadOf_subject (own : name ∉ metadataFields) :
    (payloadOf now result [(name, value)]).get name = some (.json (.str value)) := by
  simp only [metadataFields, List.mem_cons, List.not_mem_nil, not_or, or_false] at own
  obtain ⟨notProvider, notModel, notTime⟩ := own
  simp [payloadOf, Dict.get_set, Dict.update, Ne.symm notProvider, Ne.symm notModel,
    Ne.symm notTime]

end Payload

/-! ## What the methods return -/

section Methods

variable {formats : Formats} {provider : AIProvider} {now : DateTime}

/-- An assessment is made with the caller's subject and the application's stamps. -/
theorem generate_returns {Own α : Type} {schema : Schema Own α}
    (own : schema.subjectName ∉ metadataFields) {schemaName prompt subject : String} :
    Returns (generate formats provider now schema schemaName prompt [(schema.subjectName, subject)])
      fun assessment => ∃ base fields, Stamped provider now base ∧
        schema.make base subject fields = assessment := by
  unfold generate
  dsimp only
  split
  next => exact Returns.of_update_bind (Returns.fail _)
  next => exact Returns.fail _
  next result answered =>
    split
    next => exact Returns.of_update_bind (Returns.fail _)
    next assessment valid =>
      obtain ⟨base, read, fields, readsBase, readsSubject, made⟩ := Schema.modelValidate_parts valid
      have stamps := readBase_stamps (payloadOf_provider _) (payloadOf_model _)
        (payloadOf_generatedAt _) readsBase
      obtain rfl : read = subject := reads_text_of_get (payloadOf_subject own) readsSubject
      exact Returns.of_update_bind
        (Returns.pure ⟨base, fields, ⟨_, result, answered, stamps⟩, made⟩)

theorem classifyFailurePattern_returns {cveId : String} {description : Option String}
    {cvssScore epssScore : Option ℚ} {kevListed : Bool} {domainHint : Option String}
    {candidates : List String} :
    Returns (classifyFailurePattern formats provider now cveId description cvssScore epssScore
        kevListed domainHint candidates)
      fun assessment => (assessment.cveId = cveId ∧
        OfferedIfAny candidates assessment.failurePattern) ∧
          Stamped provider now assessment.toAIAssessmentBase := by
  refine Returns.bind (generate_returns (by decide)) ?_
  rintro assessment ⟨base, ⟨domain, pattern, evidence⟩, stamped, rfl⟩
  split
  next => exact Returns.fail _
  next admitted =>
    refine Returns.pure ⟨⟨rfl, fun offered => ?_⟩, stamped⟩
    have member : pattern ∈ "" :: candidates := by
      by_contra outside
      exact admitted ⟨offered, outside⟩
    exact List.mem_cons.mp member

theorem summariseSimilarity_returns {cveId correlationNotes : String} {candidates : List String} :
    Returns (summariseSimilarity formats provider now cveId candidates correlationNotes)
      fun recommendation => (recommendation.cveId = cveId ∧
        recommendation.similarCveIds ⊆ candidates) ∧
          Stamped provider now recommendation.toAIAssessmentBase := by
  refine Returns.bind (generate_returns (by decide)) ?_
  rintro recommendation ⟨base, ⟨similar, caveat⟩, stamped, rfl⟩
  dsimp only
  split
  next => exact Returns.fail _
  next none =>
    refine Returns.pure ⟨⟨rfl, fun cveId member => ?_⟩, stamped⟩
    have empty := not_not.mp none
    simpa using List.filter_eq_nil_iff.mp empty cveId (List.mem_dedup.mpr member)

theorem recommendTemplate_returns {cveId : String} {failurePattern description : Option String}
    {candidates : List (String × String × String)} :
    Returns (recommendTemplate formats provider now cveId failurePattern description candidates)
      fun recommendation => (recommendation.cveId = cveId ∧ (recommendation.domainPackId,
        recommendation.templateId, recommendation.templateVersion) ∈ candidates) ∧
          Stamped provider now recommendation.toAIAssessmentBase := by
  unfold recommendTemplate
  split
  next => exact Returns.fail _
  next =>
    refine Returns.bind (generate_returns (by decide)) ?_
    rintro recommendation ⟨base, ⟨domainPackId, templateId, version⟩, stamped, rfl⟩
    dsimp only
    split
    next => exact Returns.fail _
    next member => exact Returns.pure ⟨⟨rfl, not_not.mp member⟩, stamped⟩

/-- Every call returns an assessment inside what was offered, or raises. -/
theorem answer_returns (call : AnalystCall) :
    Returns (answer formats provider now call)
      (InsideAllowList provider now OfferedIfAny call) := by
  cases call with
  | classifyFailurePattern =>
      exact Returns.bind classifyFailurePattern_returns fun _ inside => Returns.pure inside
  | analyzeMitigationGap =>
      refine Returns.bind (generate_returns (by decide)) ?_
      rintro assessment ⟨base, gaps, stamped, rfl⟩
      exact Returns.pure ⟨rfl, stamped⟩
  | summariseSimilarity =>
      exact Returns.bind summariseSimilarity_returns fun _ inside => Returns.pure inside
  | recommendTemplate =>
      exact Returns.bind recommendTemplate_returns fun _ inside => Returns.pure inside
  | draftExperimentProposal =>
      refine Returns.bind (generate_returns (by decide)) ?_
      rintro suggestion ⟨base, fields, stamped, rfl⟩
      exact Returns.pure ⟨rfl, stamped⟩
  | explainRegression =>
      refine Returns.bind (generate_returns (by decide)) ?_
      rintro explanation ⟨base, text, stamped, rfl⟩
      exact Returns.pure ⟨rfl, stamped⟩

/-- Every call raises, or returns an assessment inside what was offered. -/
theorem insideAllowList_of_returned (formats : Formats) (total : AiRequestsTotal)
    {call : AnalystCall} {assessment : Assessment}
    (returned : (answer formats provider now call total).1 = .ok assessment) :
    InsideAllowList provider now OfferedIfAny call assessment :=
  answer_returns call total assessment returned

end Methods

/-! ## The candidates of the route -/

section Route

/-- The failure patterns which the pack of a domain supports. -/
def supportedFailurePatterns : Domain → List String
  | .vpn =>
      ["pre_auth_request_schema_validation", "pre_auth_path_canonicalisation",
        "pre_auth_length_boundary_enforcement"]
  | .telecom =>
      ["session_setup_mandatory_field_validation", "session_setup_grammar_enforcement",
        "session_state_machine_enforcement"]

/-- The candidates which the route passes for a vulnerability: those of the pack which is registered
for its domain. -/
def candidateFailurePatterns (domainGuess : Option Domain) : List String :=
  match domainGuess with
  | none => []
  | some domain =>
      match Studio.resolveDomainPack (lower (StringEnum.value domain)) with
      | .ok pack => supportedFailurePatterns pack.domain
      | .error _ => []

/-- Every domain has a pack, so the route has no candidates only without a domain. -/
theorem candidateFailurePatterns_eq_nil_iff {domainGuess : Option Domain} :
    candidateFailurePatterns domainGuess = [] ↔ domainGuess = none := by
  cases domainGuess with
  | none => simp [candidateFailurePatterns]
  | some domain => cases domain <;> decide

/-- For a vulnerability with a domain the route only returns failure patterns of its pack. -/
theorem offered_of_domain {formats : Formats} {provider : AIProvider} {now : DateTime}
    {total : AiRequestsTotal} {cveId : String} {description : Option String}
    {cvssScore epssScore : Option ℚ} {kevListed : Bool} {domainHint : Option String}
    {domain : Domain} {assessment : FailurePatternAssessment}
    (returned : (classifyFailurePattern formats provider now cveId description cvssScore epssScore
      kevListed domainHint (candidateFailurePatterns (some domain)) total).1 = .ok assessment) :
    Offered (candidateFailurePatterns (some domain)) assessment.failurePattern := by
  have inside := classifyFailurePattern_returns total assessment returned
  have offered : candidateFailurePatterns (some domain) ≠ [] := by
    simp [candidateFailurePatterns_eq_nil_iff]
  exact inside.1.2 offered

end Route

namespace Sample

/-- Plain texts of numbers are not needed by the samples. -/
def formats : Formats where
  readFloat _ := none
  readDatetime _ := none
  floatText _ := ""
  reprText text := "'" ++ text ++ "'"

/-- A provider which classifies a failure pattern, and claims to be another one. -/
def provider : AIProvider := fun _ => .ok
  { data := [("confidence", .float (4 / 5)), ("rationale", .str "matches known pattern"),
      ("failure_pattern", .str "pre_auth_path_canonicalisation"), ("cve_id", .str "CVE-2024-99999"),
      ("provider", .str "another provider")]
    provider := "fake"
    model := "fake-model-1" }

/-- A classification with some candidates. -/
def call (candidates : List String) : AnalystCall :=
  .classifyFailurePattern "CVE-2024-00001" none none none false none candidates

/-- What the sample provider's answer becomes. -/
def assessment : Assessment :=
  .failurePattern
    { confidence := 4 / 5
      rationale := "matches known pattern"
      sourceIds := []
      provider := "fake"
      model := "fake-model-1"
      generatedAt := 0
      cveId := "CVE-2024-00001"
      domain := none
      failurePattern := "pre_auth_path_canonicalisation"
      supportingEvidence := [] }

end Sample

/-- The sample answer is accepted among the candidates of the VPN domain. -/
theorem insideAllowList_of_sample :
    InsideAllowList Sample.provider 0 OfferedIfAny
      (Sample.call (candidateFailurePatterns (some .vpn))) Sample.assessment :=
  insideAllowList_of_returned Sample.formats {} (by decide +kernel)

/-- Without candidates a failure pattern is returned which is not a candidate. -/
theorem not_insideAllowList_of_noCandidates :
    ¬ ∀ formats provider now call total assessment,
      (answer formats provider now call total).1 = .ok assessment →
        InsideAllowList provider now Offered call assessment := by
  intro claim
  have inside := claim Sample.formats Sample.provider 0
    (Sample.call (candidateFailurePatterns none)) {}
    Sample.assessment (by decide +kernel)
  rcases inside.1.2 with empty | member
  · exact absurd empty (by decide)
  · exact absurd member (by decide)

end ZeroShield.Analyst
