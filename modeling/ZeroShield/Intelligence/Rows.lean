import ZeroShield.Foundation.Table
import ZeroShield.Intelligence.Convergence
import ZeroShield.Models.Calendar

/-!
# Stored vulnerabilities

A vulnerability is stored with its dates, members and addresses as texts.  Reading it back
validates it again.
-/

namespace ZeroShield.Intelligence

open Foundation Models StringEnum

/-- A row of the table of vulnerabilities. -/
structure VulnerabilityRow where
  cveId : String
  description : Option String
  publishedAt : Option DateTime
  lastModifiedAt : Option DateTime
  cvssScore : Option ℚ
  cvssVector : Option String
  cvssVersion : Option String
  epssScore : Option ℚ
  epssPercentile : Option ℚ
  epssDate : Option String
  kevListed : Bool
  kevDateAdded : Option String
  kevDueDate : Option String
  kevKnownRansomware : Option String
  cweIds : List String
  vendor : Option String
  domainGuess : Option String
  zeroClickRelevance : Option String
  references : List String
  sources : List String
  firstSeenAt : DateTime
  lastUpdatedAt : DateTime
  deriving DecidableEq

/-- The row which is written for a vulnerability. -/
def vulnToOrm (vulnerability : Vulnerability) : VulnerabilityRow where
  cveId := vulnerability.cveId
  description := vulnerability.description
  publishedAt := vulnerability.publishedAt
  lastModifiedAt := vulnerability.lastModifiedAt
  cvssScore := vulnerability.cvssScore
  cvssVector := vulnerability.cvssVector
  cvssVersion := vulnerability.cvssVersion
  epssScore := vulnerability.epssScore
  epssPercentile := vulnerability.epssPercentile
  epssDate := vulnerability.epssDate.map isoDate
  kevListed := vulnerability.kevListed
  kevDateAdded := vulnerability.kevDateAdded.map isoDate
  kevDueDate := vulnerability.kevDueDate.map isoDate
  kevKnownRansomware := vulnerability.kevKnownRansomware
  cweIds := vulnerability.cweIds
  vendor := vulnerability.vendor
  domainGuess := vulnerability.domainGuess.map value
  zeroClickRelevance := vulnerability.zeroClickRelevance.map value
  references := vulnerability.references.map (·.text)
  sources := vulnerability.sources.map value
  firstSeenAt := vulnerability.firstSeenAt
  lastUpdatedAt := vulnerability.lastUpdatedAt

/-- Why a row cannot be read or a contribution cannot be merged. -/
inductive MergeError
  /-- A stored text is neither a date nor a member. -/
  | value (text : String)
  | validation (error : ValidationError)
  deriving DecidableEq

/-- Read a text column, in which an empty text counts as missing. -/
def readColumn {α : Type} (read : String → Option α) (column : Option String) :
    Except MergeError (Option α) :=
  match column with
  | none => .ok none
  | some text =>
      if text = "" then .ok none
      else
        match read text with
        | none => .error (.value text)
        | some value => .ok (some value)

/-- Read a list of members. -/
def readMembers {α : Type} [StringEnum α] : List String → Except MergeError (List α)
  | [] => .ok []
  | text :: column => do
      let member ←
        match parse text with
        | none => .error (.value text)
        | some member => .ok member
      return member :: (← readMembers column)

/-- Read and validate a row. -/
def vulnFromOrm (texts : Texts) (row : VulnerabilityRow) : Except MergeError Vulnerability := do
  let epssDate ← readColumn fromisoformat row.epssDate
  let kevDateAdded ← readColumn fromisoformat row.kevDateAdded
  let kevDueDate ← readColumn fromisoformat row.kevDueDate
  let domainGuess ← readColumn parse row.domainGuess
  let zeroClickRelevance ← readColumn parse row.zeroClickRelevance
  let sources ← readMembers row.sources
  let references := readReferences texts (row.references.map .text)
  let vulnerability : Vulnerability :=
    { cveId := row.cveId
      description := row.description
      publishedAt := row.publishedAt
      lastModifiedAt := row.lastModifiedAt
      cvssScore := row.cvssScore
      cvssVector := row.cvssVector
      cvssVersion := row.cvssVersion
      epssScore := row.epssScore
      epssPercentile := row.epssPercentile
      epssDate
      kevListed := row.kevListed
      kevDateAdded
      kevDueDate
      kevKnownRansomware := row.kevKnownRansomware
      cweIds := row.cweIds
      vendor := row.vendor
      domainGuess
      zeroClickRelevance
      references := references.filterMap id
      sources
      firstSeenAt := row.firstSeenAt
      lastUpdatedAt := row.lastUpdatedAt }
  let errors := vulnerability.errors ++ referenceErrors references
  if errors ≠ [] then .error (.validation ⟨"Vulnerability", errors⟩) else .ok vulnerability

/-! ## What is stored is read back -/

/-- A validated address is read back from its text as itself. -/
def Texts.ReadsBack (texts : Texts) : Prop :=
  ∀ text url, texts.parseUrl text = some url → texts.parseUrl url.text = some url

/-- A vulnerability which can be stored and read back. -/
structure Storable (texts : Texts) (vulnerability : Vulnerability) : Prop where
  valid : vulnerability.errors = []
  epssDate : ∀ date ∈ vulnerability.epssDate, InCalendar date
  kevDateAdded : ∀ date ∈ vulnerability.kevDateAdded, InCalendar date
  kevDueDate : ∀ date ∈ vulnerability.kevDueDate, InCalendar date
  references : ∀ url ∈ vulnerability.references, texts.parseUrl url.text = some url

section ReadBack

variable {texts : Texts}

theorem readColumn_map {α : Type} {read : String → Option α} {write : α → String}
    {column : Option α} (readable : ∀ value ∈ column, read (write value) = some value)
    (filled : ∀ value, write value ≠ "") :
    readColumn read (column.map write) = .ok column := by
  cases column with
  | none => rfl
  | some value => simp [readColumn, filled value, readable value rfl]

theorem readMembers_map {α : Type} [StringEnum α] (members : List α) :
    readMembers (members.map value) = .ok members := by
  induction members with
  | nil => rfl
  | cons member members ih =>
      rw [List.map_cons, readMembers, parse_value, ih]
      rfl

theorem readReferences_map {urls : List HttpUrl}
    (readable : ∀ url ∈ urls, texts.parseUrl url.text = some url) :
    readReferences texts ((urls.map (·.text)).map .text) = urls.map some := by
  rw [readReferences, List.map_map, List.map_map]
  exact List.map_congr_left readable

theorem referenceErrors_some (urls : List HttpUrl) : referenceErrors (urls.map some) = [] := by
  refine List.flatMap_eq_nil_iff.mpr fun ⟨read, index⟩ member => ?_
  obtain ⟨url, -, rfl⟩ := List.mem_map.mp (List.fst_mem_of_mem_zipIdx member)
  rw [require_eq_nil]
  rfl

theorem domain_value_ne_empty (domain : Domain) : value domain ≠ "" := by
  cases domain <;> decide

theorem relevance_value_ne_empty (relevance : ZeroClickRelevance) : value relevance ≠ "" := by
  cases relevance <;> decide

theorem vulnFromOrm_vulnToOrm {vulnerability : Vulnerability}
    (storable : Storable texts vulnerability) :
    vulnFromOrm texts (vulnToOrm vulnerability) = .ok vulnerability := by
  have epssDate := readColumn_map
    (fun date given => fromisoformat_isoDate (storable.epssDate date given)) isoDate_ne_empty
  have kevDateAdded := readColumn_map
    (fun date given => fromisoformat_isoDate (storable.kevDateAdded date given)) isoDate_ne_empty
  have kevDueDate := readColumn_map
    (fun date given => fromisoformat_isoDate (storable.kevDueDate date given)) isoDate_ne_empty
  have domainGuess := @readColumn_map _ parse value vulnerability.domainGuess
    (fun domain _ => parse_value domain) domain_value_ne_empty
  have relevance := @readColumn_map _ parse value vulnerability.zeroClickRelevance
    (fun relevance _ => parse_value relevance) relevance_value_ne_empty
  have references : (vulnerability.references.map some).filterMap id =
    vulnerability.references := by
    simp [List.filterMap_map]
  simp only [vulnFromOrm, vulnToOrm, epssDate, kevDateAdded, kevDueDate, domainGuess, relevance,
    readMembers_map, readReferences_map storable.references, references, referenceErrors_some,
    bind, Except.bind]
  have clean : ¬ vulnerability.errors ++ [] ≠ [] := by
    rw [List.append_nil, storable.valid]
    exact fun different => different rfl
  exact if_neg clean

/-- A value which is read from a column is read from a text. -/
theorem readColumn_eq_ok {α : Type} {read : String → Option α} {column : Option String}
    {found : Option α} (isRead : readColumn read column = .ok found) :
    ∀ value ∈ found, ∃ text, read text = some value := by
  intro value member
  cases column with
  | none =>
      cases isRead
      cases member
  | some text =>
      simp only [readColumn] at isRead
      split at isRead
      case isTrue =>
        cases isRead
        cases member
      case isFalse =>
        split at isRead
        case h_1 => cases isRead
        case h_2 given =>
          cases isRead
          cases member
          exact ⟨text, given⟩

/-- What is read from a row can be stored again. -/
theorem storable_of_vulnFromOrm {row : VulnerabilityRow} {vulnerability : Vulnerability}
    (readsBack : texts.ReadsBack) (isRead : vulnFromOrm texts row = .ok vulnerability) :
    Storable texts vulnerability := by
  obtain ⟨epssDate, isEpssDate, isRead⟩ := bind_eq_ok.mp isRead
  obtain ⟨kevDateAdded, isKevDateAdded, isRead⟩ := bind_eq_ok.mp isRead
  obtain ⟨kevDueDate, isKevDueDate, isRead⟩ := bind_eq_ok.mp isRead
  obtain ⟨domainGuess, -, isRead⟩ := bind_eq_ok.mp isRead
  obtain ⟨relevance, -, isRead⟩ := bind_eq_ok.mp isRead
  obtain ⟨sources, -, isRead⟩ := bind_eq_ok.mp isRead
  dsimp only at isRead
  split at isRead
  case isTrue => cases isRead
  case isFalse clean =>
    obtain ⟨valid, -⟩ := List.append_eq_nil_iff.mp (not_not.mp clean)
    cases isRead
    have calendar {column : Option String} {found : Option Date}
        (isFound : readColumn fromisoformat column = .ok found) :
        ∀ date ∈ found, InCalendar date := by
      intro date member
      obtain ⟨text, written⟩ := readColumn_eq_ok isFound date member
      exact inCalendar_of_fromisoformat written
    refine ⟨valid, calendar isEpssDate, calendar isKevDateAdded, calendar isKevDueDate, ?_⟩
    intro url member
    obtain ⟨found, listed, rfl⟩ := List.mem_filterMap.mp member
    obtain ⟨reference, stored, isUrl⟩ := List.mem_map.mp listed
    obtain ⟨text, -, rfl⟩ := List.mem_map.mp stored
    exact readsBack text url isUrl

end ReadBack

/-! ## What is merged can be stored -/

/-- The dates of a contribution are dates of the calendar. -/
structure DatesInCalendar (contribution : NormalisedContribution) : Prop where
  epssDate : ∀ date ∈ contribution.epssDate, InCalendar date
  kevDateAdded : ∀ date ∈ contribution.kevDateAdded, InCalendar date
  kevDueDate : ∀ date ∈ contribution.kevDueDate, InCalendar date

section MergeStorable

variable {texts : Texts} {existing : Option Vulnerability} {contribution : NormalisedContribution}
  {now : DateTime} {result : MergeResult}

/-- The references of a merged view are those which were stored and those which were read. -/
theorem merge_references (merged : merge texts existing contribution now = .ok result) :
    result.vulnerability.references =
      (readReferences texts (mergedReferences contribution existing)).filterMap id := by
  unfold merge at merged
  dsimp only at merged
  split at merged
  case h_1 => cases merged
  case h_2 =>
    split at merged
    case isTrue => cases merged
    case isFalse =>
      split at merged
      case isTrue => cases merged
      case isFalse =>
        cases merged
        rfl

/-- A merged address was stored. -/
theorem url_of_mergedReferences {url : HttpUrl}
    (member : Reference.url url ∈ mergedReferences contribution existing) :
    ∃ vulnerability, existing = some vulnerability ∧ url ∈ vulnerability.references := by
  have listed := List.mem_eraseDups.mp member
  cases existing with
  | none => simp at listed
  | some vulnerability => exact ⟨vulnerability, rfl, by simpa using listed⟩

/-- A date of the merged view was contributed or stored. -/
theorem inCalendar_merged {takes : Bool} {offered : Option Date}
    {held : Vulnerability → Option Date}
    (offeredDates : ∀ date ∈ offered, InCalendar date)
    (heldDates : ∀ vulnerability, existing = some vulnerability →
      ∀ date ∈ held vulnerability, InCalendar date) :
    ∀ date ∈ (if takes then offered else existing.bind held), InCalendar date := by
  cases takes with
  | true => exact offeredDates
  | false =>
      cases found : existing with
      | none => exact fun date absent => by cases absent
      | some vulnerability => exact heldDates vulnerability found

/-- Merging a contribution into a view which was stored leaves a view which can be stored. -/
theorem merge_storable (readsBack : texts.ReadsBack)
    (stored : ∀ vulnerability, existing = some vulnerability → Storable texts vulnerability)
    (dates : DatesInCalendar contribution)
    (merged : merge texts existing contribution now = .ok result) :
    Storable texts result.vulnerability := by
  obtain ⟨⟨references, view⟩, -, valid⟩ := merge_spec merged
  have orStored {offered : Option Date} {held : Vulnerability → Option Date}
      (offeredDates : ∀ date ∈ offered, InCalendar date)
      (heldDates : ∀ vulnerability, existing = some vulnerability →
        ∀ date ∈ held vulnerability, InCalendar date) :
      ∀ date ∈ offered.or (existing.bind held), InCalendar date := by
    cases offered with
    | none => exact @inCalendar_merged existing false none held offeredDates heldDates
    | some date => exact offeredDates
  refine ⟨valid, ?_, ?_, ?_, ?_⟩
  · rw [view]
    exact inCalendar_merged dates.epssDate fun v found => (stored v found).epssDate
  · rw [view]
    have held : ∀ v, existing = some v → ∀ date ∈ v.kevDateAdded, InCalendar date :=
      fun v found => (stored v found).kevDateAdded
    exact inCalendar_merged (orStored dates.kevDateAdded held) held
  · rw [view]
    have held : ∀ v, existing = some v → ∀ date ∈ v.kevDueDate, InCalendar date :=
      fun v found => (stored v found).kevDueDate
    exact inCalendar_merged (orStored dates.kevDueDate held) held
  · rw [merge_references merged]
    intro url member
    obtain ⟨read, listed, rfl⟩ := List.mem_filterMap.mp member
    obtain ⟨reference, isMerged, isRead⟩ := List.mem_map.mp listed
    cases reference with
    | text text => exact readsBack text url isRead
    | url kept =>
        cases isRead
        obtain ⟨vulnerability, found, keptBefore⟩ := url_of_mergedReferences isMerged
        exact (stored vulnerability found).references _ keptBefore

end MergeStorable

/-! ## The database -/

/-- The table of vulnerabilities and the rows of their history, in the order in which they were
added. -/
structure Database where
  vulnerabilities : Table VulnerabilityRow.cveId := .empty
  history : List VulnerabilityHistoryEntry := []

namespace Database

variable (database : Database)

def getVulnerability (texts : Texts) (cveId : String) : Except MergeError (Option Vulnerability) :=
  match database.vulnerabilities.lookup cveId with
  | none => .ok none
  | some row => do return some (← vulnFromOrm texts row)

def upsertVulnerability (vulnerability : Vulnerability) : Database :=
  { database with vulnerabilities := database.vulnerabilities.upsert (vulnToOrm vulnerability) }

def appendHistory (entries : List VulnerabilityHistoryEntry) : Database :=
  { database with history := database.history ++ entries }

/-- The recorded changes of a vulnerability ordered by time, then by row. -/
def getHistory (cveId : String) : List VulnerabilityHistoryEntry :=
  (database.history.filter (·.cveId = cveId)).insertionSort
    fun left right => left.observedAt ≤ right.observedAt

/-- Merge a contribution into the stored vulnerability, and store the result and its history. -/
def mergeStored (texts : Texts) (contribution : NormalisedContribution) (now : DateTime) :
    Except MergeError (MergeResult × Database) := do
  let existing ← database.getVulnerability texts contribution.cveId
  let result ← (merge texts existing contribution now).mapError .validation
  return (result,
    (database.upsertVulnerability result.vulnerability).appendHistory result.history)

section MergeStored

variable {database : Database} {texts : Texts} {contribution : NormalisedContribution}
  {now : DateTime}

/-- Whatever is read from the database can be stored again. -/
theorem storable_of_getVulnerability (readsBack : texts.ReadsBack) {cveId : String}
    {existing : Option Vulnerability}
    (isRead : database.getVulnerability texts cveId = .ok existing) :
    ∀ vulnerability, existing = some vulnerability → Storable texts vulnerability := by
  rintro vulnerability rfl
  unfold getVulnerability at isRead
  split at isRead
  case h_1 => cases isRead
  case h_2 row _ =>
    obtain ⟨found, isFound, same⟩ := bind_eq_ok.mp isRead
    cases same
    exact storable_of_vulnFromOrm readsBack isFound

/-- A stored vulnerability is read back. -/
theorem getVulnerability_upsertVulnerability {vulnerability : Vulnerability}
    (storable : Storable texts vulnerability) :
    (database.upsertVulnerability vulnerability).getVulnerability texts vulnerability.cveId =
      .ok (some vulnerability) := by
  have found : (database.upsertVulnerability vulnerability).vulnerabilities.lookup
      vulnerability.cveId = some (vulnToOrm vulnerability) :=
    Table.lookup_upsert database.vulnerabilities (vulnToOrm vulnerability)
  rw [getVulnerability, found]
  simp only [vulnFromOrm_vulnToOrm storable]
  rfl

/-- What a stored merge does: it merges into the view which is read, and stores the result. -/
theorem mergeStored_eq_ok {existing : Option Vulnerability}
    (isRead : database.getVulnerability texts contribution.cveId = .ok existing)
    {result : MergeResult} {after : Database} :
    database.mergeStored texts contribution now = .ok (result, after) ↔
      merge texts existing contribution now = .ok result ∧
        after = (database.upsertVulnerability result.vulnerability).appendHistory
          result.history := by
  constructor
  · intro stored
    obtain ⟨found, isFound, stored⟩ := bind_eq_ok.mp stored
    obtain ⟨merged, isMerged, same⟩ := bind_eq_ok.mp stored
    cases isRead.symm.trans isFound
    cases same
    exact ⟨mapError_eq_ok.mp isMerged, rfl⟩
  · rintro ⟨merged, rfl⟩
    exact bind_eq_ok.mpr ⟨existing, isRead,
      bind_eq_ok.mpr ⟨result, mapError_eq_ok.mpr merged, rfl⟩⟩

/-- After a stored merge the merged view is read. -/
theorem getVulnerability_of_mergeStored (readsBack : texts.ReadsBack)
    (dates : DatesInCalendar contribution) {existing : Option Vulnerability}
    (isRead : database.getVulnerability texts contribution.cveId = .ok existing)
    {result : MergeResult} {after : Database}
    (stored : database.mergeStored texts contribution now = .ok (result, after)) :
    after.getVulnerability texts contribution.cveId = .ok (some result.vulnerability) := by
  obtain ⟨merged, rfl⟩ := (mergeStored_eq_ok isRead).mp stored
  have storable := merge_storable readsBack (storable_of_getVulnerability readsBack isRead) dates
    merged
  obtain ⟨⟨references, view⟩, -, -⟩ := merge_spec merged
  have sameId : result.vulnerability.cveId = contribution.cveId := by rw [view]; rfl
  rw [← sameId]
  exact getVulnerability_upsertVulnerability storable

end MergeStored

end Database

end ZeroShield.Intelligence
