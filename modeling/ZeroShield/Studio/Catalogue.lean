import ZeroShield.Studio.Approval

/-!
# Domain packs and validation templates

The fixed registries from which an experiment draft is assembled.
-/

namespace ZeroShield.Studio

open Models

/-- What a domain declares to the studio. -/
structure DomainPack where
  packId : String
  domain : Domain
  templateIds : List String
  allowedStrategyIds : List String
  datasetGeneratorId : String

/-- The reusable shape of an experiment. -/
structure ValidationTemplate where
  templateId : String
  version : String
  domainPackId : String
  requiredInputFields : List String
  allowedBaselineStrategies : List String
  allowedMitigationStrategies : List String
  metricsToCollect : List MetricName
  safetyLevel : SafetyLevel
  baselinesNonempty : allowedBaselineStrategies ≠ [] := by decide
  mitigationsNonempty : allowedMitigationStrategies ≠ [] := by decide

def vpnDomainPack : DomainPack where
  packId := "vpn"
  domain := .vpn
  templateIds := ["vpn_schema_canonicalisation"]
  allowedStrategyIds :=
    ["weak_schema_length_baseline", "strict_schema_canonicalisation_mitigation"]
  datasetGeneratorId := "vpn_pre_auth_request_generator"

def telecomDomainPack : DomainPack where
  packId := "telecom"
  domain := .telecom
  templateIds := ["telecom_grammar_state_machine"]
  allowedStrategyIds :=
    ["weak_mandatory_field_state_baseline", "strict_grammar_state_machine_mitigation"]
  datasetGeneratorId := "telecom_sip_session_setup_generator"

/-- Both templates collect every metric. -/
def allMetrics : List MetricName :=
  [.blockRate, .validAcceptanceRate, .falsePositiveRate, .falseNegativeRate, .parserReachRate,
    .meanLatencyMs, .logCompletenessRate]

def vpnSchemaCanonicalisationV1 : ValidationTemplate where
  templateId := "vpn_schema_canonicalisation"
  version := "1.0.0"
  domainPackId := "vpn"
  requiredInputFields :=
    ["method", "path", "declared_content_length", "actual_body_length", "encoding"]
  allowedBaselineStrategies := ["weak_schema_length_baseline"]
  allowedMitigationStrategies := ["strict_schema_canonicalisation_mitigation"]
  metricsToCollect := allMetrics
  safetyLevel := .syntheticOnly

def telecomGrammarStateMachineV1 : ValidationTemplate where
  templateId := "telecom_grammar_state_machine"
  version := "1.0.0"
  domainPackId := "telecom"
  requiredInputFields :=
    ["method", "session_state", "headers", "sequence_number", "expected_sequence_number"]
  allowedBaselineStrategies := ["weak_mandatory_field_state_baseline"]
  allowedMitigationStrategies := ["strict_grammar_state_machine_mitigation"]
  metricsToCollect := allMetrics
  safetyLevel := .syntheticOnly

/-- Why a draft cannot be built. -/
inductive BuildError
  | unknownDomainPack (message : String)
  | unknownTemplate (message : String)
  | builder (message : String)
  | validation (error : ValidationError)
  | internal (message : String)

def domainPackRegistry : List DomainPack := [vpnDomainPack, telecomDomainPack]

def templateRegistry : List ValidationTemplate :=
  [telecomGrammarStateMachineV1, vpnSchemaCanonicalisationV1]

def resolveDomainPack (packId : String) : Except BuildError DomainPack :=
  match domainPackRegistry.find? (·.packId = packId) with
  | some pack => .ok pack
  | none =>
      .error (.unknownDomainPack (s!"no registered domain pack for id '{packId}'; known packs: " ++
        ExperimentDefinition.listText (sortTexts (domainPackRegistry.map (·.packId)))))

def resolveTemplate (templateId version : String) : Except BuildError ValidationTemplate :=
  match templateRegistry.find? fun template =>
      template.templateId = templateId ∧ template.version = version with
  | some template => .ok template
  | none =>
      .error (.unknownTemplate
        (s!"no registered template '{templateId}' version '{version}'; known versions: " ++
          ExperimentDefinition.listText (sortTexts
            ((templateRegistry.filter (·.templateId = templateId)).map (·.version)))))

end ZeroShield.Studio
