import ZeroShield.Foundation.Text
import ZeroShield.Generators.Base

/-!
# Requests before authentication
-/

namespace ZeroShield.Generators

open Foundation Models

/-- A valid configuration. -/
structure VPNGeneratorConfig where
  validCount : ℕ := 4
  boundaryCount : ℕ := 1
  oversizedCount : ℕ := 2
  duplicateFieldCount : ℕ := 2
  mismatchedLengthCount : ℕ := 2
  unsupportedEncodingCount : ℕ := 2
  invalidPathCount : ℕ := 2
  maxPathLength : ℕ := 256
  maxBodyLength : ℕ := 8192
  maxHeaderValueLength : ℕ := 512
  validCount_le : validCount ≤ 50 := by decide
  boundaryCount_le : boundaryCount ≤ 10 := by decide
  oversizedCount_le : oversizedCount ≤ 20 := by decide
  duplicateFieldCount_le : duplicateFieldCount ≤ 20 := by decide
  mismatchedLengthCount_le : mismatchedLengthCount ≤ 20 := by decide
  unsupportedEncodingCount_le : unsupportedEncodingCount ≤ 20 := by decide
  invalidPathCount_le : invalidPathCount ≤ 20 := by decide
  maxPathLength_pos : 0 < maxPathLength := by decide
  maxBodyLength_pos : 0 < maxBodyLength := by decide
  maxHeaderValueLength_pos : 0 < maxHeaderValueLength := by decide

namespace VPNDatasetGenerator

def validPaths : List String :=
  ["/remote/login", "/remote/logincheck", "/remote/fgt_lang", "/remote/index"]

def unsupportedEncodings : List String := ["utf-7", "cesu-8", "unspecified-binary"]

def pathTraversalPatterns : List String :=
  ["/remote/../../internal/synthetic-config", "/remote/%2e%2e/%2e%2e/internal/synthetic-config",
    "/remote/login%00.synthetic"]

def baseRequest (path : String) : List (String × Json) :=
  [("method", .str "GET"), ("path", .str path),
    ("headers", pairList [("Host", "vpn.example.local")]), ("declared_content_length", .int 0),
    ("actual_body_length", .int 0), ("encoding", .str "utf-8")]

def validCase (index : ℕ) (draw : ℚ) : TestCase :=
  testCase s!"VPN-GEN-VALID-{padded 3 (index + 1)}" .valid
    [("method", .str (if draw < 1 / 2 then "GET" else "POST")),
      ("path", .str (cycled validPaths index)),
      ("headers", pairList [("Host", "vpn.example.local")]), ("declared_content_length", .int 0),
      ("actual_body_length", .int 0), ("encoding", .str "utf-8")]
    .accepted "deterministic synthetic valid pre-auth request"

def boundaryCases (maxPathLength index : ℕ) : List TestCase :=
  let stem := "/remote/"
  let atLimitPath := stem ++ repeated 'a' (maxPathLength - stem.length)
  let overLimitPath := stem ++ repeated 'a' (maxPathLength - stem.length + 1)
  [testCase s!"VPN-GEN-BOUNDARY-AT-{padded 3 (index + 1)}" .boundary (baseRequest atLimitPath)
      .accepted s!"total path length exactly at the configured maximum ({maxPathLength})",
    testCase s!"VPN-GEN-BOUNDARY-OVER-{padded 3 (index + 1)}" .boundary (baseRequest overLimitPath)
      .blocked s!"total path length one over the configured maximum ({maxPathLength})"]

def oversizedCase (maxBodyLength index draw : ℕ) : TestCase :=
  let oversizedLength := Json.int (maxBodyLength + 1 + draw)
  testCase s!"VPN-GEN-OVERSIZED-{padded 3 (index + 1)}" .malformed
    (assign "actual_body_length" oversizedLength
      (assign "declared_content_length" oversizedLength (baseRequest "/remote/login")))
    .blocked "declared/actual body length over the configured maximum"

def duplicateCase (index : ℕ) : TestCase :=
  testCase s!"VPN-GEN-DUPLICATE-{padded 3 (index + 1)}" .malformed
    (assign "headers"
      (pairList [("Host", "vpn.example.local"), ("Host", "internal.synthetic.local")])
      (baseRequest "/remote/login"))
    .blocked "duplicate header field with conflicting values"

def mismatchedLengthCase (index draw : ℕ) : TestCase :=
  let declared := 42
  testCase s!"VPN-GEN-MISMATCHED-LENGTH-{padded 3 (index + 1)}" .malformed
    (assign "actual_body_length" (.int (declared + 100 + draw))
      (assign "declared_content_length" (.int declared) (baseRequest "/remote/login")))
    .blocked "declared/actual body length mismatch"

def unsupportedEncodingCase (index : ℕ) : TestCase :=
  let encoding := cycled unsupportedEncodings index
  testCase s!"VPN-GEN-UNSUPPORTED-ENCODING-{padded 3 (index + 1)}" .malformed
    (assign "encoding" (.str encoding) (baseRequest "/remote/login"))
    .blocked s!"unsupported declared encoding ({encoding})"

def invalidPathCase (index : ℕ) : TestCase :=
  testCase s!"VPN-GEN-INVALID-PATH-{padded 3 (index + 1)}" .malformed
    (baseRequest (cycled pathTraversalPatterns index))
    .blocked "synthetic path-traversal-shaped pattern, no real filesystem target"

section Build

variable (source : Random)

/-- The draws of the oversized cases, which follow one draw for each valid case. -/
def oversizedDraws (seed : ℤ) (config : VPNGeneratorConfig) : List ℕ :=
  let valid : Rng source (List ℚ) := draws config.validCount source.random
  let oversized : Rng source (List ℕ) := draws config.oversizedCount (source.randint 0 1000)
  (oversized.run (valid.run (source.seeded seed)).2).1

def buildCases (config : VPNGeneratorConfig) : Rng source (List TestCase) := do
  let valid ← forRange config.validCount fun index => do
    return validCase index (← source.random)
  let boundary := (List.range config.boundaryCount).flatMap (boundaryCases config.maxPathLength)
  let oversized ← forRange config.oversizedCount fun index => do
    return oversizedCase config.maxBodyLength index (← source.randint 0 1000)
  let duplicate := (List.range config.duplicateFieldCount).map duplicateCase
  let mismatched ← forRange config.mismatchedLengthCount fun index => do
    return mismatchedLengthCase index (← source.randint 0 500)
  let unsupported := (List.range config.unsupportedEncodingCount).map unsupportedEncodingCase
  let invalid := (List.range config.invalidPathCount).map invalidPathCase
  return valid ++ boundary ++ oversized ++ duplicate ++ mismatched ++ unsupported ++ invalid

def buildTestSet (seed : ℤ) (config : VPNGeneratorConfig) : TestSet where
  testSetId := s!"vpn-generated-{seed}"
  version := "1.0.0"
  domain := .vpn
  cases := ((buildCases source config).run (source.seeded seed)).1

end Build

end VPNDatasetGenerator

/-- The generator of requests. -/
def vpnDatasetGenerator (source : Random) : DatasetGenerator source VPNGeneratorConfig where
  generatorId := "vpn_pre_auth_request_generator"
  version := "1.0.0"
  buildTestSet := VPNDatasetGenerator.buildTestSet source

end ZeroShield.Generators
