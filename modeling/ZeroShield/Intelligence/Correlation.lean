import ZeroShield.Intelligence.Store
import ZeroShield.Models.Vulnerability

/-!
# Correlation of vulnerabilities

The similarity of two vulnerabilities is the sum of weighted features, each of which is explained.
-/

namespace ZeroShield.Intelligence

open Foundation Models StringEnum

/-- The most that each feature contributes. -/
structure CorrelationWeights where
  cweOverlapMax : ℚ := 25
  vendorMatchFlat : ℚ := 15
  domainMatchFlat : ℚ := 10
  trustBoundaryMatchFlat : ℚ := 10
  textSimilarityMax : ℚ := 20
  sharedExperimentFlat : ℚ := 20

def CorrelationWeights.totalMax (weights : CorrelationWeights) : ℚ :=
  weights.cweOverlapMax + weights.vendorMatchFlat + weights.domainMatchFlat +
    weights.trustBoundaryMatchFlat + weights.textSimilarityMax + weights.sharedExperimentFlat

def caveat : String :=
  "Similarity is a structured/textual signal, not proof of identical root cause."

structure CorrelationResult where
  cveId : String
  score : ℚ
  explanation : List String
  sharedExperimentIds : List String

/-- Library functions on texts. -/
structure CorrelationLibrary where
  lower : String → String
  /-- How similar two texts are, between zero and one. -/
  ratio : String → String → ℚ
  /-- A list of texts as it is written. -/
  repr : List String → String

/-- A sorted list without repetitions, of what two lists share. -/
def sharedTexts (first second : List String) : List String :=
  (first.dedup.filter (· ∈ second)).insertionSort (· ≤ ·)

section Correlate

variable (library : CorrelationLibrary) (weights : CorrelationWeights)

def cweOverlap (first second : List String) : ℚ × String :=
  if first = [] ∨ second = [] then
    (0, s!"No CWE data to compare on one or both sides: +0.0/{fixed 1 weights.cweOverlapMax}")
  else
    let overlap := sharedTexts first second
    let jaccard : ℚ := overlap.length / (first ++ second).dedup.length
    let points := jaccard * weights.cweOverlapMax
    let shown := if overlap = [] then "(none)" else library.repr overlap
    (points, s!"CWE overlap {shown} (Jaccard {fixed 2 jaccard}): " ++
      s!"+{fixed 1 points}/{fixed 1 weights.cweOverlapMax}")

def textSimilarity (first second : Option String) : ℚ × String :=
  match first, second with
  | some first, some second =>
      if first = "" ∨ second = "" then
        (0, s!"No description to compare on one or both sides: " ++
          s!"+0.0/{fixed 1 weights.textSimilarityMax}")
      else
        let ratio := library.ratio (library.lower first) (library.lower second)
        let points := ratio * weights.textSimilarityMax
        (points, s!"Description text similarity {fixed 2 ratio}: " ++
          s!"+{fixed 1 points}/{fixed 1 weights.textSimilarityMax}")
  | _, _ =>
      (0, s!"No description to compare on one or both sides: " ++
        s!"+0.0/{fixed 1 weights.textSimilarityMax}")

def vendorMatch (first second : Option String) : ℚ × String :=
  match first, second with
  | some first, some second =>
      if first ≠ "" ∧ second ≠ "" ∧
          library.lower (strip first) = library.lower (strip second) then
        (weights.vendorMatchFlat, s!"Same vendor ({first}): +{fixed 1 weights.vendorMatchFlat}")
      else (0, s!"Different or unknown vendor: +0.0/{fixed 1 weights.vendorMatchFlat}")
  | _, _ => (0, s!"Different or unknown vendor: +0.0/{fixed 1 weights.vendorMatchFlat}")

def domainMatch (first second : Option Domain) : ℚ × String :=
  match first with
  | none => (0, s!"Different or unknown domain: +0.0/{fixed 1 weights.domainMatchFlat}")
  | some domain =>
      if second = some domain then
        (weights.domainMatchFlat,
          s!"Same domain ({value domain}): +{fixed 1 weights.domainMatchFlat}")
      else (0, s!"Different or unknown domain: +0.0/{fixed 1 weights.domainMatchFlat}")

def trustBoundaryMatch (first second : Option ZeroClickRelevance) : ℚ × String :=
  match first with
  | none =>
      (0, s!"Zero-interaction/pre-auth relevance differs or unknown: " ++
        s!"+0.0/{fixed 1 weights.trustBoundaryMatchFlat}")
  | some relevance =>
      if second = some relevance then
        (weights.trustBoundaryMatchFlat,
          s!"Same zero-interaction/pre-auth relevance ({value relevance}): " ++
            s!"+{fixed 1 weights.trustBoundaryMatchFlat}")
      else
        (0, s!"Zero-interaction/pre-auth relevance differs or unknown: " ++
          s!"+0.0/{fixed 1 weights.trustBoundaryMatchFlat}")

def sharedExperiment (shared : List String) : ℚ × String :=
  if shared = [] then
    (0, s!"No shared experiment coverage: +0.0/{fixed 1 weights.sharedExperimentFlat}")
  else
    (weights.sharedExperimentFlat,
      s!"Already linked to a shared experiment {library.repr shared}: " ++
        s!"+{fixed 1 weights.sharedExperimentFlat}")

/-- The similarity of a candidate to a subject. -/
def correlate (subject candidate : Vulnerability)
    (subjectExperimentIds candidateExperimentIds : List String) : CorrelationResult :=
  let shared := sharedTexts subjectExperimentIds candidateExperimentIds
  let features :=
    [cweOverlap library weights subject.cweIds candidate.cweIds,
      vendorMatch library weights subject.vendor candidate.vendor,
      domainMatch weights subject.domainGuess candidate.domainGuess,
      trustBoundaryMatch weights subject.zeroClickRelevance candidate.zeroClickRelevance,
      textSimilarity library weights subject.description candidate.description,
      sharedExperiment library weights shared]
  let total := min (features.map (·.1)).sum weights.totalMax
  { cveId := candidate.cveId
    score := roundHalfEven (total * 10) / 10
    explanation := features.map (·.2) ++
      [s!"Total: {fixed 1 total}/{fixed 0 weights.totalMax}. {caveat}"]
    sharedExperimentIds := shared }

/-- The candidates which are most similar to a subject, best first. -/
def rankCorrelations (subject : Vulnerability) (candidates : List Vulnerability)
    (subjectExperimentIds : List String) (candidateExperimentIds : String → List String)
    (minScore : ℚ) (limit : ℕ) : List CorrelationResult :=
  let results := (candidates.filter (·.cveId ≠ subject.cveId)).map fun candidate =>
    correlate library weights subject candidate subjectExperimentIds
      (candidateExperimentIds candidate.cveId)
  ((results.filter fun result => minScore ≤ result.score).insertionSort
    fun left right => right.score ≤ left.score).take limit

variable {library weights}

end Correlate

/-! ## Queries -/

namespace Store

variable (store : Store)

/-- The vulnerabilities of a domain, or all, last updated first. -/
def listVulnerabilities (domain : Option Domain) (limit : ℕ) : List Vulnerability :=
  ((store.vulnerabilities.rows.filter fun vulnerability =>
      domain = none ∨ vulnerability.domainGuess = domain).insertionSort
    fun left right => right.lastUpdatedAt ≤ left.lastUpdatedAt).take limit

/-- Whether a time is not earlier than another one, where a missing time is the earliest. -/
def notEarlier : Option DateTime → Option DateTime → Bool
  | _, none => true
  | none, some _ => false
  | some left, some right => right ≤ left

/-- The advisories of a vulnerability, last published first and those without a date last. -/
def getAdvisoriesForCve (cveId : String) : List VendorAdvisory :=
  (store.advisories.rows.filter (·.cveId = some cveId)).insertionSort fun left right =>
    notEarlier left.publishedAt right.publishedAt = true

end Store

end ZeroShield.Intelligence
