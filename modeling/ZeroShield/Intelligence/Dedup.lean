import ZeroShield.Foundation.Fallible
import ZeroShield.Foundation.Register
import ZeroShield.Models.Vulnerability
import Mathlib.Data.List.Sort
import Mathlib.Data.String.Basic

/-!
# Merging contributions

One source's contribution is merged into the stored view of a vulnerability.  Shared fields are
decided by the priority of their sources; the owner of a field which is present is taken to be the
source of highest priority.
-/

namespace ZeroShield.Intelligence

open Foundation Models StringEnum

/-- Library functions on texts. -/
structure Texts where
  /-- Validate an address. -/
  parseUrl : String → Option HttpUrl
  /-- Write a number. -/
  number : ℚ → String

/-- What one source says about a vulnerability, in the common shape. -/
structure NormalisedContribution where
  cveId : String
  source : VulnerabilitySourceName
  sourceIdentifier : Option String := none
  description : Option String := none
  publishedAt : Option DateTime := none
  lastModifiedAt : Option DateTime := none
  cvssScore : Option ℚ := none
  /-- The text of a score which is not given as a number with a fraction. -/
  cvssScoreText : Option String := none
  cvssVector : Option String := none
  cvssVersion : Option String := none
  epssScore : Option ℚ := none
  epssPercentile : Option ℚ := none
  epssDate : Option Date := none
  kevListed : Option Bool := none
  kevDateAdded : Option Date := none
  kevDueDate : Option Date := none
  kevKnownRansomware : Option String := none
  cweIds : List String := []
  vendor : Option String := none
  products : List (String × String × Option String) := []
  references : List String := []
  zeroClickRelevance : Option ZeroClickRelevance := none
  deriving DecidableEq

/-- The text of the contributed score. -/
def NormalisedContribution.scoreText (contribution : NormalisedContribution) (texts : Texts)
    (score : ℚ) : String :=
  contribution.cvssScoreText.getD (texts.number score)

/-- The rank of a source; a lower number is a higher priority. -/
def sourcePriority : String → ℕ
  | "nvd" => 0
  | "github_advisory" => 1
  | "cisa_kev" => 2
  | "epss" => 3
  | "manual_import" => 4
  | _ => 99

/-- Whether the second value wins over the first. -/
def better {α : Type} (sourceA : Option String) (valueA : Option α) (sourceB : String)
    (valueB : Option α) : Bool :=
  match valueB, valueA, sourceA with
  | none, _, _ => false
  | some _, none, _ => true
  | some _, some _, none => true
  | some _, some _, some owner => sourcePriority sourceB < sourcePriority owner

/-- An optional text which is given and not empty. -/
def isTruthy (text : Option String) : Bool :=
  text.any (· ≠ "")

/-- The first given and non-empty text, or the second. -/
def orElseText (first second : Option String) : Option String :=
  if isTruthy first then first else second

/-- A truth value as a text. -/
def boolText (flag : Bool) : String :=
  if flag then "True" else "False"

/-- A relevance with the name of its class. -/
def memberText : ZeroClickRelevance → String
  | .high => "ZeroClickRelevance.HIGH"
  | .medium => "ZeroClickRelevance.MEDIUM"
  | .low => "ZeroClickRelevance.LOW"

/-- A reference before validation: a stored address or a contributed text. -/
inductive Reference
  | url (url : HttpUrl)
  | text (text : String)
  deriving DecidableEq

section Merge

variable (contribution : NormalisedContribution) (now : DateTime)

/-- The history entry of a field whose value changes to a given one. -/
def track {α : Type} [DecidableEq α] (oldText text : α → String) (field : String)
    (old new : Option α) : List VulnerabilityHistoryEntry :=
  match new with
  | none => []
  | some value =>
      if old = some value then []
      else
        [{ cveId := contribution.cveId
           source := contribution.source
           field
           oldValue := old.map oldText
           newValue := some (text value)
           observedAt := now }]

/-- Whether the contribution's value of a text field is taken; a field with a text belongs to the
source of highest priority. -/
def takesText (held offered : Option String) : Bool :=
  better (if isTruthy held then some "nvd" else none) held (value contribution.source) offered

/-- Whether the contribution's score is taken. -/
def takesScore (held : Option ℚ) : Bool :=
  better (if held.isSome then some "nvd" else none) held (value contribution.source)
    contribution.cvssScore

variable (texts : Texts) (existing : Option Vulnerability)

/-- The entries recorded for the contribution, in the order of the fields. -/
def historyEntries : List VulnerabilityHistoryEntry :=
  let description := existing.bind (·.description)
  let cvssScore := existing.bind (·.cvssScore)
  let kevListed := existing.any (·.kevListed)
  (if takesText contribution description contribution.description then
      track contribution now id id "description" description contribution.description
    else []) ++
  (if takesScore contribution cvssScore then
      track contribution now texts.number (contribution.scoreText texts) "cvss_score" cvssScore
        contribution.cvssScore
    else []) ++
  track contribution now texts.number texts.number "epss_score" (existing.bind (·.epssScore))
    contribution.epssScore ++
  (if contribution.kevListed = some true then
      track contribution now boolText boolText "kev_listed" (some kevListed) (some true) ++
      track contribution now isoDate isoDate "kev_date_added" (existing.bind (·.kevDateAdded))
        contribution.kevDateAdded ++
      track contribution now isoDate isoDate "kev_due_date" (existing.bind (·.kevDueDate))
        contribution.kevDueDate
    else []) ++
  -- The stored member is written with its class name, the new one as its value.
  track contribution now memberText value "zero_click_relevance"
    (existing.bind (·.zeroClickRelevance)) contribution.zeroClickRelevance

/-- The references of both sides without repetitions; a stored address never equals a text. -/
def mergedReferences : List Reference :=
  let stored := (existing.map Vulnerability.references).getD []
  (stored.map Reference.url ++ contribution.references.map Reference.text).eraseDups

/-- Validate the references, each under its position. -/
def readReferences : List Reference → List (Option HttpUrl) :=
  List.map fun reference =>
    match reference with
    | .url url => some url
    | .text text => texts.parseUrl text

/-- The errors of references which could not be read. -/
def referenceErrors (read : List (Option HttpUrl)) : List FieldError :=
  read.zipIdx.flatMap fun (reference, index) =>
    require reference.isSome ["references", toString index] .urlParsing

/-- The earlier of two times, if given. -/
def earliest (held offered : Option DateTime) : Option DateTime :=
  match held, offered with
  | held, none => held
  | none, offered => offered
  | some held, some offered => some (if offered < held then offered else held)

/-- The later of two times, if given. -/
def latest (held offered : Option DateTime) : Option DateTime :=
  match held, offered with
  | held, none => held
  | none, offered => offered
  | some held, some offered => some (if held < offered then offered else held)

/-- The merged view, before it is validated. -/
def mergedVulnerability (references : List HttpUrl) : Vulnerability :=
  let description := existing.bind (·.description)
  let vendor := existing.bind (·.vendor)
  let takesCvss := takesScore contribution (existing.bind (·.cvssScore))
  let takesEpss := contribution.epssScore.isSome
  let takesKev : Bool := contribution.kevListed = some true
  { cveId := contribution.cveId
    description :=
      if takesText contribution description contribution.description then contribution.description
      else description
    publishedAt := earliest (existing.bind (·.publishedAt)) contribution.publishedAt
    lastModifiedAt := latest (existing.bind (·.lastModifiedAt)) contribution.lastModifiedAt
    cvssScore :=
      if takesCvss then contribution.cvssScore else existing.bind (·.cvssScore)
    cvssVector :=
      if takesCvss then contribution.cvssVector else existing.bind (·.cvssVector)
    cvssVersion :=
      if takesCvss then contribution.cvssVersion else existing.bind (·.cvssVersion)
    epssScore :=
      if takesEpss then contribution.epssScore else existing.bind (·.epssScore)
    epssPercentile :=
      if takesEpss then contribution.epssPercentile else existing.bind (·.epssPercentile)
    epssDate :=
      if takesEpss then contribution.epssDate else existing.bind (·.epssDate)
    kevListed := takesKev || existing.any (·.kevListed)
    kevDateAdded :=
      if takesKev then contribution.kevDateAdded.or (existing.bind (·.kevDateAdded))
      else existing.bind (·.kevDateAdded)
    kevDueDate :=
      if takesKev then contribution.kevDueDate.or (existing.bind (·.kevDueDate))
      else existing.bind (·.kevDueDate)
    kevKnownRansomware :=
      if takesKev then
        orElseText contribution.kevKnownRansomware (existing.bind (·.kevKnownRansomware))
      else existing.bind (·.kevKnownRansomware)
    cweIds :=
      ((existing.map Vulnerability.cweIds).getD [] ++
        contribution.cweIds).dedup.insertionSort (· ≤ ·)
    vendor :=
      if takesText contribution vendor contribution.vendor then contribution.vendor else vendor
    domainGuess := existing.bind (·.domainGuess)
    zeroClickRelevance :=
      contribution.zeroClickRelevance.or (existing.bind (·.zeroClickRelevance))
    references
    sources :=
      ((existing.map Vulnerability.sources).getD [] ++ [contribution.source]).dedup.insertionSort
        fun left right => value left ≤ value right
    firstSeenAt := (existing.map Vulnerability.firstSeenAt).getD now
    lastUpdatedAt := now }

/-- The source's own record of the contribution. -/
def sourceRecord : VulnerabilitySourceRecord where
  cveId := contribution.cveId
  source := contribution.source
  sourceIdentifier := contribution.sourceIdentifier
  description := contribution.description
  publishedAt := contribution.publishedAt
  lastModifiedAt := contribution.lastModifiedAt
  cvssScore := contribution.cvssScore
  cvssVector := contribution.cvssVector
  cvssVersion := contribution.cvssVersion
  epssScore := contribution.epssScore
  epssPercentile := contribution.epssPercentile
  kevListed := contribution.kevListed
  kevDateAdded := contribution.kevDateAdded
  kevDueDate := contribution.kevDueDate
  cweIds := contribution.cweIds
  vendor := contribution.vendor
  references := contribution.references
  firstSeenAt := now
  lastSeenAt := now

end Merge

/-- The outcome of merging one contribution. -/
structure MergeResult where
  vulnerability : Vulnerability
  history : List VulnerabilityHistoryEntry
  sourceRecord : VulnerabilitySourceRecord
  products : List (String × String × Option String)
  isNew : Bool

/-- Merge a contribution into the stored view, if there is one.  Nothing is merged when an entry,
the merged view or the source's record is invalid. -/
def merge (texts : Texts) (existing : Option Vulnerability) (contribution : NormalisedContribution)
    (now : DateTime) : Except ValidationError MergeResult :=
  let history := historyEntries contribution now texts existing
  match history.find? fun entry => entry.errors ≠ [] with
  | some entry => .error ⟨"VulnerabilityHistoryEntry", entry.errors⟩
  | none =>
      let references := readReferences texts (mergedReferences contribution existing)
      let vulnerability :=
        mergedVulnerability contribution now existing (references.filterMap id)
      let record := sourceRecord contribution now
      if vulnerability.errors ++ referenceErrors references ≠ [] then
        .error ⟨"Vulnerability", vulnerability.errors ++ referenceErrors references⟩
      else if record.errors ≠ [] then
        .error ⟨"VulnerabilitySourceRecord", record.errors⟩
      else
        .ok
          { vulnerability
            history
            sourceRecord := record
            products := contribution.products
            isNew := existing.isNone }

/-! ## Fields as registers -/

/-- A text field is a register which settles on the first non-empty text. -/
theorem text_eq_offer (contribution : NormalisedContribution) (held offered : Option String) :
    (if takesText contribution held offered then offered else held) =
      Register.offer (· ≠ "") held offered := by
  cases offered with
  | none => simp [takesText, better]
  | some text =>
      cases held with
      | none => simp [takesText, better, Register.offer]
      | some current =>
          by_cases empty : current = "" <;>
            simp [takesText, better, isTruthy, Register.offer, empty, sourcePriority]

/-- The score is a register which settles on the first score. -/
theorem takesScore_eq (contribution : NormalisedContribution) (held : Option ℚ) :
    takesScore contribution held = (contribution.cvssScore.isSome && held.isNone) := by
  cases offered : contribution.cvssScore <;> cases held <;>
    simp [takesScore, better, offered, sourcePriority]

/-- The score of a contribution with the vector and the version given with it. -/
def offeredCvss (contribution : NormalisedContribution) :
    Option (ℚ × Option String × Option String) :=
  contribution.cvssScore.map fun score =>
    (score, contribution.cvssVector, contribution.cvssVersion)

/-- The score of a view with its vector and its version. -/
def heldCvss (vulnerability : Vulnerability) : Option (ℚ × Option String × Option String) :=
  vulnerability.cvssScore.map fun score =>
    (score, vulnerability.cvssVector, vulnerability.cvssVersion)

/-- A view without a score has neither a vector nor a version. -/
def ScoreComplete (vulnerability : Vulnerability) : Prop :=
  vulnerability.cvssScore = none →
    vulnerability.cvssVector = none ∧ vulnerability.cvssVersion = none

theorem cvssVector_of_complete {vulnerability : Vulnerability}
    (complete : ScoreComplete vulnerability) :
    vulnerability.cvssVector = (heldCvss vulnerability).bind (·.2.1) ∧
      vulnerability.cvssVersion = (heldCvss vulnerability).bind (·.2.2) := by
  cases scored : vulnerability.cvssScore with
  | none => simpa [heldCvss, scored] using complete scored
  | some score => simp [heldCvss, scored]

section MergeSpec

variable {texts : Texts} {existing : Option Vulnerability} {contribution : NormalisedContribution}
  {now : DateTime} {result : MergeResult}

/-- What a successful merge returns. -/
theorem merge_spec (merged : merge texts existing contribution now = .ok result) :
    (∃ references, result.vulnerability =
        mergedVulnerability contribution now existing references) ∧
      result.history = historyEntries contribution now texts existing ∧
      result.vulnerability.errors = [] := by
  unfold merge at merged
  dsimp only at merged
  split at merged
  case h_1 => cases merged
  case h_2 =>
    split at merged
    case isTrue => cases merged
    case isFalse clean =>
      split at merged
      case isTrue => cases merged
      case isFalse =>
        cases merged
        refine ⟨⟨_, rfl⟩, rfl, ?_⟩
        exact (List.append_eq_nil_iff.mp (not_not.mp clean)).1

theorem merge_description (merged : merge texts existing contribution now = .ok result) :
    result.vulnerability.description =
      Register.offer (· ≠ "") (existing.bind (·.description)) contribution.description := by
  obtain ⟨⟨references, view⟩, -, -⟩ := merge_spec merged
  rw [view, ← text_eq_offer contribution]
  rfl

theorem merge_vendor (merged : merge texts existing contribution now = .ok result) :
    result.vulnerability.vendor =
      Register.offer (· ≠ "") (existing.bind (·.vendor)) contribution.vendor := by
  obtain ⟨⟨references, view⟩, -, -⟩ := merge_spec merged
  rw [view, ← text_eq_offer contribution]
  rfl

theorem merge_epssScore (merged : merge texts existing contribution now = .ok result) :
    result.vulnerability.epssScore =
      Register.offer (fun _ => false) (existing.bind (·.epssScore)) contribution.epssScore := by
  obtain ⟨⟨references, view⟩, -, -⟩ := merge_spec merged
  rw [view]
  cases offered : contribution.epssScore <;>
    simp [mergedVulnerability, offered, Register.offer]

theorem merge_cvss (merged : merge texts existing contribution now = .ok result) :
    heldCvss result.vulnerability =
      Register.offer (fun _ => true) (existing.bind heldCvss) (offeredCvss contribution) := by
  obtain ⟨⟨references, view⟩, -, -⟩ := merge_spec merged
  have taken := takesScore_eq contribution (existing.bind (·.cvssScore))
  rw [view, heldCvss]
  simp only [mergedVulnerability, taken]
  cases offered : contribution.cvssScore with
  | none => cases existing <;> simp [offeredCvss, heldCvss, offered]
  | some score =>
      cases existing with
      | none => simp [offeredCvss, offered, Register.offer]
      | some vulnerability =>
          cases held : vulnerability.cvssScore <;>
            simp [offeredCvss, heldCvss, offered, held, Register.offer]

theorem merge_cvssScore (merged : merge texts existing contribution now = .ok result) :
    result.vulnerability.cvssScore =
      Register.offer (fun _ => true) (existing.bind (·.cvssScore)) contribution.cvssScore := by
  obtain ⟨⟨references, view⟩, -, -⟩ := merge_spec merged
  rw [view]
  simp only [mergedVulnerability, takesScore_eq]
  cases contribution.cvssScore <;> cases existing.bind (·.cvssScore) <;> simp [Register.offer]

theorem merge_scoreComplete (merged : merge texts existing contribution now = .ok result)
    (complete : ∀ vulnerability, existing = some vulnerability → ScoreComplete vulnerability) :
    ScoreComplete result.vulnerability := by
  obtain ⟨⟨references, view⟩, -, -⟩ := merge_spec merged
  have taken := takesScore_eq contribution (existing.bind (·.cvssScore))
  rw [view]
  intro unscored
  simp only [mergedVulnerability, taken] at unscored ⊢
  cases offered : contribution.cvssScore with
  | none =>
      cases existing with
      | none => simp
      | some vulnerability =>
          simp only [offered, Option.isSome_none, Bool.false_and, Bool.false_eq_true, if_false,
            Option.bind_some] at unscored ⊢
          exact complete vulnerability rfl unscored
  | some score =>
      cases held : existing.bind (·.cvssScore) <;> simp [offered, held] at unscored

end MergeSpec

/-! ## Which contributions are accepted -/

/-- A contribution which passes validation. -/
structure Acceptable (texts : Texts) (contribution : NormalisedContribution) : Prop where
  cveId : isCveId contribution.cveId = true
  cvssScore : requireUpTo "cvss_score" 10 contribution.cvssScore = []
  epssScore : requireUpTo "epss_score" 1 contribution.epssScore = []
  epssPercentile : requireUpTo "epss_percentile" 1 contribution.epssPercentile = []
  references : ∀ text ∈ contribution.references, (texts.parseUrl text).isSome = true

theorem track_valid {contribution : NormalisedContribution} {now : DateTime} {α : Type}
    [DecidableEq α] {oldText text : α → String} {field : String} {old new : Option α}
    (cveId : isCveId contribution.cveId = true) (named : field ≠ "") :
    ∀ entry ∈ track contribution now oldText text field old new, entry.errors = [] := by
  intro entry member
  unfold track at member
  split at member
  case h_1 => cases member
  case h_2 =>
    split at member
    case isTrue => cases member
    case isFalse =>
      rw [List.mem_singleton] at member
      subst member
      simp [VulnerabilityHistoryEntry.errors, cveId, named]

theorem historyEntries_valid {contribution : NormalisedContribution} {now : DateTime}
    {texts : Texts} {existing : Option Vulnerability} (cveId : isCveId contribution.cveId = true) :
    ∀ entry ∈ historyEntries contribution now texts existing, entry.errors = [] := by
  intro entry member
  simp only [historyEntries, List.mem_append] at member
  rcases member with (((member | member) | member) | member) | member
  · split at member
    · exact track_valid cveId (by decide) entry member
    · cases member
  · split at member
    · exact track_valid cveId (by decide) entry member
    · cases member
  · exact track_valid cveId (by decide) entry member
  · split at member
    · simp only [List.mem_append] at member
      rcases member with (member | member) | member
      all_goals exact track_valid cveId (by decide) entry member
    · cases member
  · exact track_valid cveId (by decide) entry member

theorem referenceErrors_eq_nil {texts : Texts} {references : List Reference}
    (readable : ∀ text, Reference.text text ∈ references → (texts.parseUrl text).isSome = true) :
    referenceErrors (readReferences texts references) = [] := by
  refine List.flatMap_eq_nil_iff.mpr fun ⟨read, index⟩ member => ?_
  obtain ⟨reference, present, rfl⟩ := List.mem_map.mp (List.fst_mem_of_mem_zipIdx member)
  rw [require_eq_nil]
  cases reference with
  | url url => rfl
  | text text => exact readable text present

theorem mergedVulnerability_valid {texts : Texts} {existing : Option Vulnerability}
    {contribution : NormalisedContribution} {now : DateTime}
    (stored : ∀ vulnerability, existing = some vulnerability → vulnerability.errors = [])
    (acceptable : Acceptable texts contribution) (references : List HttpUrl) :
    (mergedVulnerability contribution now existing references).errors = [] := by
  -- Each number is the contributed one or the stored one, and both are in range.
  have inRange (name : String) (high : ℚ) (takes : Bool) (offered : Option ℚ)
      (held : Vulnerability → Option ℚ) (offeredValid : requireUpTo name high offered = [])
      (heldValid : ∀ vulnerability, existing = some vulnerability →
        requireUpTo name high (held vulnerability) = []) :
      requireUpTo name high (if takes then offered else existing.bind held) = [] := by
    cases takes with
    | true => exact offeredValid
    | false =>
        cases found : existing with
        | none => rfl
        | some vulnerability => exact heldValid vulnerability found
  simp only [Vulnerability.errors, List.append_eq_nil_iff] at stored ⊢
  refine ⟨⟨⟨?_, ?_⟩, ?_⟩, ?_⟩
  · simpa [mergedVulnerability] using acceptable.cveId
  · exact inRange _ _ _ _ _ acceptable.cvssScore fun v found => (stored v found).1.1.2
  · exact inRange _ _ _ _ _ acceptable.epssScore fun v found => (stored v found).1.2
  · exact inRange _ _ _ _ _ acceptable.epssPercentile fun v found => (stored v found).2

/-- An acceptable contribution can be merged into every valid view. -/
theorem merge_isOk {texts : Texts} {existing : Option Vulnerability}
    {contribution : NormalisedContribution} {now : DateTime}
    (stored : ∀ vulnerability, existing = some vulnerability → vulnerability.errors = [])
    (acceptable : Acceptable texts contribution) :
    ∃ result, merge texts existing contribution now = .ok result := by
  have entries : (historyEntries contribution now texts existing).find?
      (fun entry => entry.errors ≠ []) = none := by
    refine List.find?_eq_none.mpr fun entry member => ?_
    simpa using historyEntries_valid acceptable.cveId entry member
  have references : referenceErrors (readReferences texts
      (mergedReferences contribution existing)) = [] := by
    refine referenceErrors_eq_nil fun text member => acceptable.references text ?_
    have listed := List.mem_eraseDups.mp member
    simpa using listed
  have view (urls : List HttpUrl) :
      (mergedVulnerability contribution now existing urls).errors = [] :=
    mergedVulnerability_valid stored acceptable urls
  have record : (sourceRecord contribution now).errors = [] := by
    simp [VulnerabilitySourceRecord.errors, sourceRecord, acceptable.cveId, acceptable.cvssScore,
      acceptable.epssScore, acceptable.epssPercentile]
  simp only [merge, entries, references, view, record, List.append_nil, ne_eq, not_true_eq_false,
    if_false]
  exact ⟨_, rfl⟩

end ZeroShield.Intelligence
