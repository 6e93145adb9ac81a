import ZeroShield.Models.Shared

/-!
# Vulnerability intelligence

The merged view of a vulnerability, the latest contribution of each source and the history of
field changes.
-/

namespace ZeroShield.Models

/-- A number which, if given, lies between zero and a bound. -/
def requireUpTo (name : String) (high : ℚ) (value : Option ℚ) : List FieldError :=
  match value with
  | none => []
  | some value =>
      require (0 ≤ value) [name] .greaterThanEqual ++
        require (value ≤ high) [name] .lessThanEqual

/-- The merged view of a vulnerability across all sources. -/
structure Vulnerability where
  cveId : String
  description : Option String
  publishedAt : Option DateTime
  lastModifiedAt : Option DateTime
  cvssScore : Option ℚ
  cvssVector : Option String
  cvssVersion : Option String
  epssScore : Option ℚ
  epssPercentile : Option ℚ
  epssDate : Option Date
  kevListed : Bool
  kevDateAdded : Option Date
  kevDueDate : Option Date
  kevKnownRansomware : Option String
  cweIds : List String
  vendor : Option String
  domainGuess : Option Domain
  zeroClickRelevance : Option ZeroClickRelevance
  references : List HttpUrl
  sources : List VulnerabilitySourceName
  firstSeenAt : DateTime
  lastUpdatedAt : DateTime
  deriving DecidableEq

/-- The errors reported for a vulnerability whose references were read. -/
def Vulnerability.errors (vulnerability : Vulnerability) : List FieldError :=
  require (isCveId vulnerability.cveId) ["cve_id"] .stringPatternMismatch ++
    requireUpTo "cvss_score" 10 vulnerability.cvssScore ++
    requireUpTo "epss_score" 1 vulnerability.epssScore ++
    requireUpTo "epss_percentile" 1 vulnerability.epssPercentile

/-- What one source currently says about a vulnerability. -/
structure VulnerabilitySourceRecord where
  cveId : String
  source : VulnerabilitySourceName
  sourceIdentifier : Option String
  description : Option String
  publishedAt : Option DateTime
  lastModifiedAt : Option DateTime
  cvssScore : Option ℚ
  cvssVector : Option String
  cvssVersion : Option String
  epssScore : Option ℚ
  epssPercentile : Option ℚ
  kevListed : Option Bool
  kevDateAdded : Option Date
  kevDueDate : Option Date
  cweIds : List String
  vendor : Option String
  references : List String
  firstSeenAt : DateTime
  lastSeenAt : DateTime
  deriving DecidableEq

/-- The errors reported for a source record. -/
def VulnerabilitySourceRecord.errors (record : VulnerabilitySourceRecord) : List FieldError :=
  require (isCveId record.cveId) ["cve_id"] .stringPatternMismatch ++
    requireUpTo "cvss_score" 10 record.cvssScore ++
    requireUpTo "epss_score" 1 record.epssScore ++
    requireUpTo "epss_percentile" 1 record.epssPercentile

/-- One change of one field. -/
structure VulnerabilityHistoryEntry where
  cveId : String
  source : VulnerabilitySourceName
  field : String
  oldValue : Option String
  newValue : Option String
  observedAt : DateTime
  deriving DecidableEq, Repr

/-- The errors reported for a history entry. -/
def VulnerabilityHistoryEntry.errors (entry : VulnerabilityHistoryEntry) : List FieldError :=
  require (isCveId entry.cveId) ["cve_id"] .stringPatternMismatch ++
    requireText "field" entry.field

/-- An advisory of a vendor. -/
structure VendorAdvisory where
  advisoryId : String
  source : VulnerabilitySourceName
  cveId : Option String
  title : String
  summary : Option String
  severity : Option String
  publishedAt : Option DateTime
  updatedAt : Option DateTime
  references : List String
  deriving DecidableEq

end ZeroShield.Models
