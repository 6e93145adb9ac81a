import ZeroShield.Foundation.Json
import ZeroShield.Foundation.Reading
import ZeroShield.Models.Shared

/-!
# Assessments of the research analyst

The records in which the output of a language model is read.  Each of them forbids unknown fields,
and the fields which say who made an assessment, and when, are not asked of the model.
-/

namespace ZeroShield.Analyst

open Foundation Models

/-! ## Reading fields -/

/-- A value of a payload: parsed JSON, or a time set by the application. -/
inductive PayloadValue
  | json (value : Json)
  | time (value : DateTime)

abbrev Payload := Dict PayloadValue

/-- What is wrong with a field of a payload. -/
inductive PayloadProblem
  | missing
  | extraForbidden
  | stringType
  | stringTooShort
  | floatType
  | floatParsing
  | greaterThanEqual
  | lessThanEqual
  | listType
  | tooShort
  | datetimeParsing
  deriving DecidableEq, Repr

/-- A problem at a field path. -/
structure PayloadError where
  loc : List String
  problem : PayloadProblem
  deriving DecidableEq, Repr

abbrev PayloadReading := Reading PayloadError

/-- How the texts of numbers and times are read and written. -/
structure Formats where
  /-- Read the text of a number. -/
  readFloat : String → Option ℚ
  /-- Read a time from its JSON. -/
  readDatetime : Json → Option DateTime
  /-- Write a number. -/
  floatText : ℚ → String
  /-- Write a text between quotes. -/
  reprText : String → String

/-- Read a field, which has a default or is required. -/
def readField {α : Type} (read : List String → PayloadValue → PayloadReading α) (default : Option α)
    (payload : Payload) (name : String) : PayloadReading α :=
  match payload.get name, default with
  | some value, _ => read [name] value
  | none, some value => pure value
  | none, none => Reading.reject ⟨[name], .missing⟩

def asText (minLength : ℕ) (loc : List String) : PayloadValue → PayloadReading String
  | .json (.str text) =>
      if text.length < minLength then Reading.reject ⟨loc, .stringTooShort⟩ else pure text
  | _ => Reading.reject ⟨loc, .stringType⟩

def asOptionalText (loc : List String) : PayloadValue → PayloadReading (Option String)
  | .json .null => pure none
  | value => some <$> asText 0 loc value

/-- A number; integers, truth values and the texts of numbers count as numbers. -/
def asNumber (formats : Formats) (low high : ℚ) (loc : List String) :
    PayloadValue → PayloadReading ℚ
  | .json (.float value) => bounded value
  | .json (.int value) => bounded value
  | .json (.bool value) => bounded (if value then 1 else 0)
  | .json (.str text) =>
      match formats.readFloat text with
      | some value => bounded value
      | none => Reading.reject ⟨loc, .floatParsing⟩
  | _ => Reading.reject ⟨loc, .floatType⟩
where
  bounded (value : ℚ) : PayloadReading ℚ :=
    if high < value then Reading.reject ⟨loc, .lessThanEqual⟩
    else if value < low then Reading.reject ⟨loc, .greaterThanEqual⟩
    else pure value

/-- The items of a list, each at its position. -/
def asItems (loc : List String) : ℕ → List Json → PayloadReading (List String)
  | _, [] => pure []
  | position, item :: items =>
      List.cons <$> asText 0 (loc ++ [toString position]) (.json item) <*>
        asItems loc (position + 1) items

def asTexts (minLength : ℕ) (loc : List String) : PayloadValue → PayloadReading (List String)
  | .json (.arr items) =>
      if items.length < minLength then Reading.reject ⟨loc, .tooShort⟩ else asItems loc 0 items
  | _ => Reading.reject ⟨loc, .listType⟩

def asDatetime (formats : Formats) (loc : List String) : PayloadValue → PayloadReading DateTime
  | .time value => pure value
  | .json value =>
      match formats.readDatetime value with
      | some time => pure time
      | none => Reading.reject ⟨loc, .datetimeParsing⟩

/-- A required text. -/
def text (payload : Payload) (name : String) : PayloadReading String :=
  readField (asText 0) none payload name

/-- A list of texts which is empty if it is not given. -/
def texts (payload : Payload) (name : String) : PayloadReading (List String) :=
  readField (asTexts 0) (some []) payload name

/-! ## The assessments -/

/-- What every assessment says. -/
structure AIAssessmentBase where
  confidence : ℚ
  rationale : String
  sourceIds : List String
  provider : String
  model : String
  generatedAt : DateTime
  deriving DecidableEq

structure FailurePatternAssessment extends AIAssessmentBase where
  cveId : String
  domain : Option String
  failurePattern : String
  supportingEvidence : List String
  deriving DecidableEq

structure MitigationGapAssessment extends AIAssessmentBase where
  cveId : String
  gaps : List String
  deriving DecidableEq

structure SimilarVulnerabilityRecommendation extends AIAssessmentBase where
  cveId : String
  similarCveIds : List String
  caveat : String
  deriving DecidableEq

structure ValidationTemplateRecommendation extends AIAssessmentBase where
  cveId : String
  domainPackId : String
  templateId : String
  templateVersion : String
  deriving DecidableEq

structure ExperimentDraftSuggestion extends AIAssessmentBase where
  cveId : String
  title : String
  researchQuestion : String
  hypothesis : String
  trustBoundary : String
  vendorMitigation : String
  mitigationGap : String
  deriving DecidableEq

structure RegressionExplanation extends AIAssessmentBase where
  controlId : String
  explanation : String
  deriving DecidableEq

/-! ## The schemas -/

/-- A field of a schema. -/
structure Property where
  name : String
  required : Bool := true
  deriving DecidableEq

/-- The fields which the application sets itself. -/
def metadataFields : List String :=
  ["provider", "model", "generated_at"]

def baseProperties : List Property :=
  [{ name := "confidence" }, { name := "rationale" }, { name := "source_ids", required := false },
    { name := "provider" }, { name := "model" }, { name := "generated_at" }]

variable (formats : Formats)

def readBase (payload : Payload) : PayloadReading AIAssessmentBase :=
  AIAssessmentBase.mk <$> readField (asNumber formats 0 1) none payload "confidence" <*>
    readField (asText 1) none payload "rationale" <*>
    texts payload "source_ids" <*>
    text payload "provider" <*>
    text payload "model" <*>
    readField (asDatetime formats) none payload "generated_at"

/-- A kind of assessments: what every assessment says, its subject, and fields of its own. -/
structure Schema (Own α : Type) where
  title : String
  /-- The field which names the subject. -/
  subjectName : String
  /-- The fields which follow the subject. -/
  ownProperties : List Property
  readOwn : Payload → PayloadReading Own
  make : AIAssessmentBase → String → Own → α

namespace Schema

variable {Own α : Type} (schema : Schema Own α)

def properties : List Property :=
  baseProperties ++ { name := schema.subjectName } :: schema.ownProperties

/-- The fields which are asked of the model. -/
def aiOutputSchema : List Property :=
  schema.properties.filter (·.name ∉ metadataFields)

/-- Unknown fields are errors. -/
def forbidExtra (payload : Payload) : PayloadReading Unit :=
  match (payload.rows.map (·.1)).filter (· ∉ schema.properties.map (·.name)) with
  | [] => pure ()
  | name :: names => Except.error ((name :: names).map fun name => ⟨[name], .extraForbidden⟩)

def modelValidate (payload : Payload) : PayloadReading α :=
  (fun base subject own _ => schema.make base subject own) <$> readBase formats payload <*>
    text payload schema.subjectName <*> schema.readOwn payload <*> schema.forbidExtra payload

variable {schema} {formats}

/-- A valid assessment is made of what its fields were read as. -/
theorem modelValidate_parts {payload : Payload} {assessment : α}
    (valid : (schema.modelValidate formats payload).Reads assessment) :
    ∃ base subject own, (readBase formats payload).Reads base ∧
      (text payload schema.subjectName).Reads subject ∧
        schema.make base subject own = assessment := by
  obtain ⟨_, _, withOwn, -, rfl⟩ := Reading.reads_seq.mp valid
  obtain ⟨_, own, withSubject, -, rfl⟩ := Reading.reads_seq.mp withOwn
  obtain ⟨_, subject, withBase, readSubject, rfl⟩ := Reading.reads_seq.mp withSubject
  obtain ⟨base, readBase, rfl⟩ := Reading.reads_map.mp withBase
  exact ⟨base, subject, own, readBase, readSubject, rfl⟩

end Schema

/-! ## What is read -/

section Reads

variable {payload : Payload} {name : String}

theorem readField_of_get {α : Type} {read : List String → PayloadValue → PayloadReading α}
    {default : Option α} {value : PayloadValue} (stored : payload.get name = some value) :
    readField read default payload name = read [name] value := by
  simp [readField, stored]

theorem reads_text_of_get {given value : String}
    (stored : payload.get name = some (.json (.str given)))
    (reads : (text payload name).Reads value) : value = given := by
  rw [text, readField_of_get stored] at reads
  exact (Reading.reads_pure.mp reads).symm

/-- The application's own entries are what an assessment says about its making. -/
theorem readBase_stamps {formats : Formats} {provider model : String} {now : DateTime}
    {base : AIAssessmentBase} (providerStored : payload.get "provider" =
      some (.json (.str provider)))
    (modelStored : payload.get "model" = some (.json (.str model)))
    (timeStored : payload.get "generated_at" = some (.time now))
    (reads : (readBase formats payload).Reads base) :
    base.provider = provider ∧ base.model = model ∧ base.generatedAt = now := by
  obtain ⟨_, time, withModel, readTime, rfl⟩ := Reading.reads_seq.mp reads
  obtain ⟨_, modelRead, withProvider, readModel, rfl⟩ := Reading.reads_seq.mp withModel
  obtain ⟨_, providerRead, withSources, readProvider, rfl⟩ := Reading.reads_seq.mp withProvider
  obtain ⟨_, sources, withRationale, -, rfl⟩ := Reading.reads_seq.mp withSources
  obtain ⟨_, rationale, withConfidence, -, rfl⟩ := Reading.reads_seq.mp withRationale
  obtain ⟨confidence, -, rfl⟩ := Reading.reads_map.mp withConfidence
  rw [readField_of_get timeStored] at readTime
  exact ⟨reads_text_of_get providerStored readProvider, reads_text_of_get modelStored readModel,
    (Reading.reads_pure.mp readTime).symm⟩

end Reads

/-! ## The six schemas -/

def failurePatternAssessment :
    Schema (Option String × String × List String) FailurePatternAssessment where
  title := "FailurePatternAssessment"
  subjectName := "cve_id"
  ownProperties := [{ name := "domain", required := false }, { name := "failure_pattern" },
    { name := "supporting_evidence", required := false }]
  readOwn payload := (·, ·, ·) <$> readField asOptionalText (some none) payload "domain" <*>
    text payload "failure_pattern" <*> texts payload "supporting_evidence"
  make base cveId := fun (domain, failurePattern, supportingEvidence) =>
    { toAIAssessmentBase := base, cveId, domain, failurePattern, supportingEvidence }

def mitigationGapAssessment : Schema (List String) MitigationGapAssessment where
  title := "MitigationGapAssessment"
  subjectName := "cve_id"
  ownProperties := [{ name := "gaps" }]
  readOwn payload := readField (asTexts 1) none payload "gaps"
  make base cveId gaps := { toAIAssessmentBase := base, cveId, gaps }

def similarVulnerabilityRecommendation :
    Schema (List String × String) SimilarVulnerabilityRecommendation where
  title := "SimilarVulnerabilityRecommendation"
  subjectName := "cve_id"
  ownProperties := [{ name := "similar_cve_ids", required := false },
    { name := "caveat", required := false }]
  readOwn payload := (·, ·) <$> texts payload "similar_cve_ids" <*>
    readField (asText 0)
      (some "Similarity is a structured/textual signal, not proof of identical root cause.")
      payload "caveat"
  make base cveId := fun (similarCveIds, caveat) =>
    { toAIAssessmentBase := base, cveId, similarCveIds, caveat }

def validationTemplateRecommendation :
    Schema (String × String × String) ValidationTemplateRecommendation where
  title := "ValidationTemplateRecommendation"
  subjectName := "cve_id"
  ownProperties := [{ name := "domain_pack_id" }, { name := "template_id" },
    { name := "template_version" }]
  readOwn payload := (·, ·, ·) <$> text payload "domain_pack_id" <*>
    text payload "template_id" <*> text payload "template_version"
  make base cveId := fun (domainPackId, templateId, templateVersion) =>
    { toAIAssessmentBase := base, cveId, domainPackId, templateId, templateVersion }

def experimentDraftSuggestion :
    Schema (String × String × String × String × String × String) ExperimentDraftSuggestion where
  title := "ExperimentDraftSuggestion"
  subjectName := "cve_id"
  ownProperties := [{ name := "title" }, { name := "research_question" }, { name := "hypothesis" },
    { name := "trust_boundary" }, { name := "vendor_mitigation" }, { name := "mitigation_gap" }]
  readOwn payload := (·, ·, ·, ·, ·, ·) <$> text payload "title" <*>
    text payload "research_question" <*> text payload "hypothesis" <*>
    text payload "trust_boundary" <*> text payload "vendor_mitigation" <*>
    text payload "mitigation_gap"
  make base cveId :=
    fun (title, researchQuestion, hypothesis, trustBoundary, vendorMitigation, mitigationGap) =>
      { toAIAssessmentBase := base, cveId, title, researchQuestion, hypothesis, trustBoundary
        vendorMitigation, mitigationGap }

def regressionExplanation : Schema String RegressionExplanation where
  title := "RegressionExplanation"
  subjectName := "control_id"
  ownProperties := [{ name := "explanation" }]
  readOwn payload := text payload "explanation"
  make base controlId explanation := { toAIAssessmentBase := base, controlId, explanation }

end ZeroShield.Analyst
