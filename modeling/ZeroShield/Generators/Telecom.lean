import ZeroShield.Foundation.Text
import ZeroShield.Generators.Base

/-!
# Messages which set up a session
-/

namespace ZeroShield.Generators

open Foundation Models

/-- A valid configuration. -/
structure TelecomGeneratorConfig where
  validCount : ℕ := 4
  boundaryCount : ℕ := 1
  oversizedFieldCount : ℕ := 2
  missingHeaderCount : ℕ := 2
  duplicateIdentityCount : ℕ := 2
  mismatchedLengthCount : ℕ := 2
  invalidSequenceCount : ℕ := 2
  invalidTransitionCount : ℕ := 2
  maxSdpAttrValueLength : ℕ := 256
  maxBodyLength : ℕ := 4096
  validCount_le : validCount ≤ 50 := by decide
  boundaryCount_le : boundaryCount ≤ 10 := by decide
  oversizedFieldCount_le : oversizedFieldCount ≤ 20 := by decide
  missingHeaderCount_le : missingHeaderCount ≤ 20 := by decide
  duplicateIdentityCount_le : duplicateIdentityCount ≤ 20 := by decide
  mismatchedLengthCount_le : mismatchedLengthCount ≤ 20 := by decide
  invalidSequenceCount_le : invalidSequenceCount ≤ 20 := by decide
  invalidTransitionCount_le : invalidTransitionCount ≤ 20 := by decide
  maxSdpAttrValueLength_pos : 0 < maxSdpAttrValueLength := by decide
  maxBodyLength_pos : 0 < maxBodyLength := by decide

namespace TelecomDatasetGenerator

def legalTransitions : List (String × String) :=
  [("INIT", "INVITE"), ("RINGING", "ACK"), ("ESTABLISHED", "BYE")]

def illegalPairs : List (String × String) :=
  [("INIT", "ACK"), ("INIT", "BYE"), ("ESTABLISHED", "INVITE")]

def mandatoryHeaders : List String := ["Call-ID", "From", "To"]

def headers : List (String × String) :=
  [("Call-ID", "call-0001"), ("From", "sip:alice@ims.example.local"),
    ("To", "sip:bob@ims.example.local")]

def baseRequest (state method : String) (sequence expectedSequence : ℤ) : List (String × Json) :=
  [("method", .str method), ("session_state", .str state), ("headers", pairList headers),
    ("sequence_number", .int sequence), ("expected_sequence_number", .int expectedSequence),
    ("sdp_attributes", pairList [("accept-type", "audio/AMR")]),
    ("declared_body_length", .int 32), ("actual_body_length", .int 32)]

def validCase (index : ℕ) : TestCase :=
  let transition := cycled legalTransitions index
  let sequence : ℤ := index + 1
  testCase s!"TEL-GEN-VALID-{padded 3 (index + 1)}" .valid
    (baseRequest transition.1 transition.2 sequence sequence)
    .accepted "deterministic synthetic valid session-setup message"

def boundaryCases (maxSdpAttrValueLength index : ℕ) : List TestCase :=
  let atLimit := repeated 'a' maxSdpAttrValueLength
  let overLimit := repeated 'a' (maxSdpAttrValueLength + 1)
  let base := baseRequest "INIT" "INVITE" 1 1
  [testCase s!"TEL-GEN-BOUNDARY-AT-{padded 3 (index + 1)}" .boundary
      (assign "sdp_attributes" (pairList [("video-configuration", atLimit)]) base) .accepted
      s!"SDP attribute value exactly at the configured maximum ({maxSdpAttrValueLength})",
    testCase s!"TEL-GEN-BOUNDARY-OVER-{padded 3 (index + 1)}" .boundary
      (assign "sdp_attributes" (pairList [("video-configuration", overLimit)]) base) .blocked
      s!"SDP attribute value one over the configured maximum ({maxSdpAttrValueLength})"]

def oversizedCase (maxSdpAttrValueLength index draw : ℕ) : TestCase :=
  let oversizedLength : ℤ := maxSdpAttrValueLength + 1 + draw
  testCase s!"TEL-GEN-OVERSIZED-{padded 3 (index + 1)}" .malformed
    (assign "sdp_attributes" (pairList [("accept-type", repeated 'a' oversizedLength)])
      (baseRequest "INIT" "INVITE" 1 1))
    .blocked "SDP attribute value over the configured maximum"

def missingHeaderCase (index : ℕ) : TestCase :=
  let missing := cycled mandatoryHeaders index
  testCase s!"TEL-GEN-MISSING-HEADER-{padded 3 (index + 1)}" .malformed
    (assign "headers" (pairList (headers.filter (·.1 ≠ missing))) (baseRequest "INIT" "INVITE" 1 1))
    .blocked s!"mandatory header '{missing}' absent"

def duplicateIdentityCase (index : ℕ) : TestCase :=
  let field := cycled mandatoryHeaders index
  testCase s!"TEL-GEN-DUPLICATE-IDENTITY-{padded 3 (index + 1)}" .malformed
    (assign "headers" (pairList (headers ++ [(field, s!"synthetic-conflicting-{lower field}")]))
      (baseRequest "INIT" "INVITE" 1 1))
    .blocked s!"duplicate '{field}' header with conflicting value"

def mismatchedLengthCase (index draw : ℕ) : TestCase :=
  let declared := 32
  testCase s!"TEL-GEN-MISMATCHED-LENGTH-{padded 3 (index + 1)}" .malformed
    (assign "actual_body_length" (.int (declared + 200 + draw))
      (assign "declared_body_length" (.int declared) (baseRequest "INIT" "INVITE" 1 1)))
    .blocked "declared/actual body length mismatch"

def invalidSequenceCase (index : ℕ) : TestCase :=
  testCase s!"TEL-GEN-INVALID-SEQUENCE-{padded 3 (index + 1)}" .malformed
    (baseRequest "INIT" "INVITE" 0 (5 + index))
    .blocked "sequence_number does not match expected_sequence_number"

def invalidTransitionCase (index : ℕ) : TestCase :=
  let transition := cycled illegalPairs index
  testCase s!"TEL-GEN-INVALID-TRANSITION-{padded 3 (index + 1)}" .malformed
    (baseRequest transition.1 transition.2 1 1)
    .blocked s!"illegal state transition: {transition.2} received in state {transition.1}"

section Build

variable (source : Random)

/-- The draws of the oversized cases, which are the first ones. -/
def oversizedDraws (seed : ℤ) (config : TelecomGeneratorConfig) : List ℕ :=
  let oversized : Rng source (List ℕ) := draws config.oversizedFieldCount (source.randint 0 500)
  (oversized.run (source.seeded seed)).1

def buildCases (config : TelecomGeneratorConfig) : Rng source (List TestCase) := do
  let valid := (List.range config.validCount).map validCase
  let boundary := (List.range config.boundaryCount).flatMap
    (boundaryCases config.maxSdpAttrValueLength)
  let oversized ← forRange config.oversizedFieldCount fun index => do
    return oversizedCase config.maxSdpAttrValueLength index (← source.randint 0 500)
  let missing := (List.range config.missingHeaderCount).map missingHeaderCase
  let duplicate := (List.range config.duplicateIdentityCount).map duplicateIdentityCase
  let mismatched ← forRange config.mismatchedLengthCount fun index => do
    return mismatchedLengthCase index (← source.randint 0 500)
  let sequences := (List.range config.invalidSequenceCount).map invalidSequenceCase
  let transitions := (List.range config.invalidTransitionCount).map invalidTransitionCase
  return valid ++ boundary ++ oversized ++ missing ++ duplicate ++ mismatched ++ sequences ++
    transitions

def buildTestSet (seed : ℤ) (config : TelecomGeneratorConfig) : TestSet where
  testSetId := s!"telecom-generated-{seed}"
  version := "1.0.0"
  domain := .telecom
  cases := ((buildCases source config).run (source.seeded seed)).1

end Build

end TelecomDatasetGenerator

/-- The generator of messages. -/
def telecomDatasetGenerator (source : Random) :
    DatasetGenerator source TelecomGeneratorConfig where
  generatorId := "telecom_sip_session_setup_generator"
  version := "1.0.0"
  buildTestSet := TelecomDatasetGenerator.buildTestSet source

end ZeroShield.Generators
