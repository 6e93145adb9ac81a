import ZeroShield.Foundation.Decimal
import ZeroShield.Foundation.DynamicValues
import ZeroShield.Foundation.Fallible
import ZeroShield.Intelligence.Dedup

/-!
# Normalising upstream records

The records of each source are mapped to one common shape.  The fields of a record may have any
type; what is not checked here is checked when the contribution is validated.
-/

namespace ZeroShield.Intelligence

open Foundation Models StringEnum

/-- A point in time with the date at the offset in which it is written. -/
structure Moment where
  time : DateTime
  date : Date

/-- Library functions of the language. -/
structure Library where
  repr : Json → String
  /-- Read a point in time; one without an offset is in UTC. -/
  datetimeFromisoformat : String → Option Moment
  dateFromisoformat : String → Option Date

/-- One item of a source, of which only the shape is known. -/
structure RawIntelligenceRecord where
  source : VulnerabilitySourceName
  externalId : String
  raw : List (String × Json)

/-- Why a record is not normalised; only the first two are expected. -/
inductive NormaliseFailure
  | normalisation (source : VulnerabilitySourceName) (externalId reason : String)
  | validation (error : ValidationError)
  | typeError
  | overflowError

/-- A contribution of which not every field has been checked. -/
structure RawContribution where
  cveId : String
  source : VulnerabilitySourceName
  sourceIdentifier : Json := .null
  description : Json := .null
  publishedAt : Option DateTime := none
  lastModifiedAt : Option DateTime := none
  cvssScore : Json := .null
  cvssVector : Json := .null
  cvssVersion : Option String := none
  epssScore : Option Number := none
  epssPercentile : Option Number := none
  epssDate : Option Date := none
  kevListed : Option Bool := none
  kevDateAdded : Option Date := none
  kevDueDate : Option Date := none
  kevKnownRansomware : Option String := none
  cweIds : List String := []
  vendor : Option String := none
  products : List (String × String × Option String) := []
  references : List String := []

/-- A value as part of a text. -/
def Library.str (library : Library) : Json → String
  | .str text => text
  | other => library.repr other

/-- The items of a value, where null and other empty values have none. -/
def iterate (value : Json) : Except NormaliseFailure (List Json) :=
  value.itemsOrNone.elim (.error .typeError) .ok

/-- The texts among the items of a value. -/
def textsOf (value : Json) : Except NormaliseFailure (List String) := do
  return (← iterate value).filterMap Json.text?

/-- The pattern `^CVE-\d{4}-\d{4,7}$`, which a final line feed also matches. -/
def matchesCveId (text : String) : Bool :=
  isCveId (String.ofList (if text.toList.getLast? = some '\n' then text.toList.dropLast
    else text.toList))

/-- The address at the start of a text, as the pattern `https?://[^\s)\]]+` matches it. -/
def urlAt (text : List Char) : Option (List Char) :=
  let scheme :=
    if "https://".toList <+: text then "https://".toList
    else if "http://".toList <+: text then "http://".toList
    else []
  let rest := (text.drop scheme.length).takeWhile fun c => !(isWhiteSpace c || c = ')' || c = ']')
  if scheme = [] ∨ rest = [] then none else some (scheme ++ rest)

/-- What a pattern matches in a text after a number of characters. -/
def findAll (matchAt : List Char → Option (List Char)) : ℕ → List Char → List String
  | _, [] => []
  | skipped + 1, _ :: rest => findAll matchAt skipped rest
  | 0, c :: rest =>
      match matchAt (c :: rest) with
      | none => findAll matchAt 0 rest
      | some found => String.ofList found :: findAll matchAt (found.length - 1) rest

section Mappers

variable (library : Library) (record : RawIntelligenceRecord)

/-- The identifier which every contribution needs. -/
def requireCveId (candidate : Json) : Except NormaliseFailure String :=
  let missing := .error (.normalisation record.source record.externalId
    s!"missing or malformed CVE ID: {library.repr candidate}")
  if !candidate.truthy then missing
  else
    match candidate with
    | .str text => if matchesCveId text then .ok text else missing
    | _ => .error .typeError

/-- Read a point in time, in which `Z` stands for UTC. -/
def parseMoment : Json → Option Moment
  | .str text =>
      if text = "" then none
      else
        library.datetimeFromisoformat (String.ofList
          (text.toList.flatMap fun c => if c = 'Z' then "+00:00".toList else [c]))
  | _ => none

def parseDatetime (value : Json) : Option DateTime :=
  (parseMoment library value).map (·.time)

/-- Read the date of a point in time, or a date. -/
def parseDate : Json → Option Date
  | .str text =>
      if 'T' ∈ text.toList then
        ((parseMoment library (.str text)).map (·.date)).or (library.dateFromisoformat text)
      else library.dateFromisoformat text
  | _ => none

/-! ## The national vulnerability database -/

/-- The versions of scores in the order in which they are preferred. -/
def cvssKeys : List (String × String) :=
  [("cvssMetricV31", "3.1"), ("cvssMetricV30", "3.0"), ("cvssMetricV2", "2.0")]

/-- The score data of the first entry of a version. -/
def cvssData (metrics : List (String × Json)) (key : String) : Option (List (String × Json)) :=
  match Json.get metrics key with
  | .arr (.obj entry :: _) => (Json.get entry "cvssData").fields?
  | _ => none

/-- The range of versions which a match states. -/
def cpeVersionRange (fields : List (String × Json)) : Option String :=
  let bounds := [("versionStartIncluding", ">="), ("versionStartExcluding", ">"),
      ("versionEndIncluding", "<="), ("versionEndExcluding", "<")].filterMap fun (key, label) =>
    let value := Json.get fields key
    if value.truthy then some (label ++ library.str value) else none
  if bounds = [] then none else some (String.intercalate " " bounds)

/-- The vulnerable matches of all nodes with the product which they name. -/
def vulnerableMatches (raw : List (String × Json)) :
    Except NormaliseFailure (List (List (String × Json) × String)) := do
  let configurations ← iterate (Json.get raw "configurations")
  let nodes ← (configurations.filterMap Json.fields?).mapM fun configuration =>
    iterate (Json.get configuration "nodes")
  let found ← (nodes.flatten.filterMap Json.fields?).mapM fun node =>
    iterate (Json.get node "cpeMatch")
  return (found.flatten.filterMap Json.fields?).filterMap fun fields =>
    if ((fields.lookup "vulnerable").getD (.bool true)).truthy then
      (Json.get fields "criteria").text?.map fun criteria => (fields, criteria)
    else none

/-- The product of a match, from the parts of its name between colons. -/
def productOf (found : List (String × Json) × String) : Option (String × String × Option String) :=
  match (found.2.toList.splitOn ':').map String.ofList with
  | _ :: _ :: _ :: vendor :: product :: _ :: _ =>
      some (vendor, product, cpeVersionRange library found.1)
  | _ => none

/-- The products of a record, and the first vendor which is not empty. -/
def extractNvdProducts (raw : List (String × Json)) :
    Except NormaliseFailure (Option String × List (String × String × Option String)) := do
  let found ← vulnerableMatches raw
  let products := found.filterMap (productOf library)
  return (products.foldl (fun vendor product => orElseText vendor (some product.1)) none, products)

/-- The English description. -/
def englishDescription (descriptions : List Json) : Json :=
  match (descriptions.filterMap Json.fields?).find? fun fields =>
      Json.get fields "lang" = .str "en" with
  | none => .null
  | some fields => Json.get fields "value"

/-- The weaknesses which a record names. -/
def weaknessIds (weaknesses : List Json) : Except NormaliseFailure (List String) := do
  let descriptions ← (weaknesses.filterMap Json.fields?).mapM fun weakness =>
    iterate (Json.get weakness "description")
  return (descriptions.flatten.filterMap Json.fields?).filterMap fun fields =>
    (Json.get fields "value").text?

def normaliseNvd : Except NormaliseFailure RawContribution := do
  let raw := record.raw
  let cveId ← requireCveId library record (Json.get raw "id")
  let descriptions ← iterate (Json.get raw "descriptions")
  let metrics := (Json.get raw "metrics").fields?.getD []
  let cvss := cvssKeys.findSome? fun (key, version) =>
    (cvssData metrics key).map fun data => (data, version)
  let cweIds ← weaknessIds (← iterate (Json.get raw "weaknesses"))
  let references ← iterate (Json.get raw "references")
  let (vendor, products) ← extractNvdProducts library raw
  return {
    cveId
    source := record.source
    sourceIdentifier := Json.get raw "sourceIdentifier"
    description := englishDescription descriptions
    publishedAt := parseDatetime library (Json.get raw "published")
    lastModifiedAt := parseDatetime library (Json.get raw "lastModified")
    cvssScore := (cvss.map fun (data, _) => Json.get data "baseScore").getD .null
    cvssVector := (cvss.map fun (data, _) => Json.get data "vectorString").getD .null
    cvssVersion := cvss.map (·.2)
    cweIds
    vendor
    products
    references := (references.filterMap Json.fields?).filterMap fun fields =>
      (Json.get fields "url").text? }

/-! ## Known exploited vulnerabilities and exploit predictions -/

def normaliseCisaKev : Except NormaliseFailure RawContribution := do
  let raw := record.raw
  let cveId ← requireCveId library record (Json.get raw "cveID")
  let vendor := (Json.get raw "vendorProject").text?
  let product := (Json.get raw "product").text?
  let notes := Json.get raw "notes"
  let references ←
    if notes.truthy then
      notes.text?.elim (.error .typeError) fun text => .ok (findAll urlAt 0 text.toList)
    else .ok []
  let cweIds ← textsOf (Json.get raw "cwes")
  return {
    cveId
    source := record.source
    description := ((Json.get raw "shortDescription").text?.map Json.str).getD .null
    kevListed := some true
    kevDateAdded := parseDate library (Json.get raw "dateAdded")
    kevDueDate := parseDate library (Json.get raw "dueDate")
    kevKnownRansomware := (Json.get raw "knownRansomwareCampaignUse").text?
    cweIds
    vendor
    products :=
      match vendor, product with
      | some vendor, some product =>
          if vendor ≠ "" ∧ product ≠ "" then [(vendor, product, none)] else []
      | _, _ => []
    references }

/-- Read a number from a text or a number. -/
def toFloat : Json → Except NormaliseFailure (Option Number)
  | .str text => .ok (float text)
  | .int value =>
      if floatBound ≤ value.natAbs then .error .overflowError
      else .ok (some (.finite (nearestDouble value)))
  | .bool value => .ok (some (.finite (if value then 1 else 0)))
  | .float value => .ok (some (.finite value))
  | _ => .ok none

def normaliseEpss : Except NormaliseFailure RawContribution := do
  let raw := record.raw
  let cveId ← requireCveId library record (Json.get raw "cve")
  let epssScore ← toFloat (Json.get raw "epss")
  let epssPercentile ← toFloat (Json.get raw "percentile")
  return {
    cveId
    source := record.source
    epssScore
    epssPercentile
    epssDate := parseDate library (Json.get raw "date") }

/-- Map a record by its source. -/
def normalise : Except NormaliseFailure RawContribution :=
  match record.source with
  | .nvd => normaliseNvd library record
  | .cisaKev => normaliseCisaKev library record
  | .epss => normaliseEpss library record
  | source => .error (.normalisation source record.externalId
      s!"no normaliser registered for source {value source}")

/-! ## Advisories -/

/-- Where the score of an advisory was found. -/
inductive CvssOrigin
  | v4
  | v3
  | legacy
  deriving DecidableEq

/-- The score entry of a version, if it states a score. -/
def scoredEntry (severities : List (String × Json)) (key : String) :
    Option (List (String × Json)) :=
  (Json.get severities key).fields?.filter fun entry => Json.get entry "score" ≠ .null

/-- The score entry of an advisory. -/
def advisoryCvss (raw : List (String × Json)) : Option (CvssOrigin × List (String × Json)) :=
  let severities := (Json.get raw "cvss_severities").fields?.getD []
  ((scoredEntry severities "cvss_v4").map fun entry => (.v4, entry)).or
    (((scoredEntry severities "cvss_v3").map fun entry => (.v3, entry)).or
      ((Json.get raw "cvss").fields?.map fun entry => (.legacy, entry)))

/-- The version is told by whether the entry is that of the fourth version; an entry which is
missing is null, and so is a fourth version which is missing. -/
def advisoryCvssVersion (raw : List (String × Json)) : String :=
  let severities := (Json.get raw "cvss_severities").fields?.getD []
  match advisoryCvss raw with
  | some (.v4, _) => "4.0"
  | some _ => "3.1"
  | none => if Json.get severities "cvss_v4" = .null then "4.0" else "3.1"

/-- The identifier of the vulnerability to which an advisory is linked. -/
def advisoryCveId (raw : List (String × Json)) : Option String :=
  (Json.get raw "cve_id").text?.filter fun text => matchesCveId text

/-- Validate an advisory whose title may have any type. -/
def validateAdvisory (advisory : VendorAdvisory) (title : Json) :
    Except NormaliseFailure VendorAdvisory :=
  let errors := requireText "advisory_id" advisory.advisoryId ++
    (match advisory.cveId with
      | none => []
      | some cveId => require (isCveId cveId) ["cve_id"] .stringPatternMismatch) ++
    (match title with
      | .str text => requireText "title" text
      | _ => [⟨["title"], .stringType⟩])
  if errors = [] then .ok { advisory with title := (title.text?).getD "" }
  else .error (.validation ⟨"VendorAdvisory", errors⟩)

def normaliseVendorAdvisory :
    Except NormaliseFailure (VendorAdvisory × Option RawContribution) := do
  if record.source ≠ .githubAdvisory then
    .error (.normalisation record.source record.externalId
      "not a recognised vendor advisory source")
  else
    let raw := record.raw
    let advisoryId := if record.externalId = "" then "UNKNOWN" else record.externalId
    let references ← textsOf (Json.get raw "references")
    let summary := Json.get raw "summary"
    let advisory ← validateAdvisory
      { advisoryId
        source := record.source
        cveId := advisoryCveId raw
        title := ""
        summary := (Json.get raw "description").text?
        severity := (Json.get raw "severity").text?
        publishedAt := parseDatetime library (Json.get raw "published_at")
        updatedAt := parseDatetime library (Json.get raw "updated_at")
        references }
      (if summary.truthy then summary else .str advisoryId)
    match advisoryCveId raw with
    | none => return (advisory, none)
    | some cveId =>
        let weaknesses ← iterate (Json.get raw "cwes")
        let cvss := advisoryCvss raw
        return (advisory, some {
          cveId
          source := record.source
          sourceIdentifier := .str advisoryId
          description := (summary.text?.map Json.str).getD .null
          publishedAt := advisory.publishedAt
          lastModifiedAt := advisory.updatedAt
          cvssScore := (cvss.map fun (_, entry) => Json.get entry "score").getD .null
          cvssVector := (cvss.map fun (_, entry) => Json.get entry "vector_string").getD .null
          cvssVersion := some (advisoryCvssVersion raw)
          cweIds := ((weaknesses.filterMap Json.fields?).filterMap fun fields =>
            (Json.get fields "cwe_id").text?).filter (· ≠ "")
          references })

end Mappers

end ZeroShield.Intelligence
