import ZeroShield.Intelligence.Normalisation
import ZeroShield.Intelligence.Tables

/-!
# Synchronisation

Each record which a connector yields is normalised, merged and stored on its own.  A record which
fails is counted and the next one is processed.
-/

namespace ZeroShield.Intelligence

open Foundation Models

/-- Why a record is not stored. -/
inductive SyncFailure
  | normalise (failure : NormaliseFailure)
  | merge (failure : MergeError)

/-- Whether the record is counted as failed; other failures end the synchronisation. -/
def SyncFailure.isCounted : SyncFailure → Bool
  | normalise (.normalisation _ _ _) => true
  | normalise (.validation _) => true
  | merge (.validation _) => true
  | _ => false

/-! ## Values which are validated at the merge -/

section Read

/-- The errors of a text field which may hold any value. -/
def textErrors (name : String) (value : Json) : List FieldError :=
  require (value = .null ∨ value.text?.isSome) [name] .stringType

/-- The errors of a number which is out of range for being infinite or no number at all; the upper
bound is checked first. -/
def numberErrors (name : String) : Option Number → List FieldError
  | some (.infinity true) => [⟨[name], .greaterThanEqual⟩]
  | some (.infinity false) | some .nan => [⟨[name], .lessThanEqual⟩]
  | _ => []

/-- The value of a finite number. -/
def Number.value? : Number → Option ℚ
  | .finite value => some value
  | _ => none

/-- The text of a score which is not a number with a fraction. -/
def scoreText? (library : Library) : Json → Option String
  | .null | .float _ => none
  | other => some (library.str other)

/-- Read the fields of a contribution.  The source's own record holds all fields which may have a
wrong type, so that this is where they are refused.  The text of a score is kept for the history. -/
def RawContribution.read (library : Library) (readFloat : Json → Except Problem ℚ)
    (contribution : RawContribution) : Except ValidationError NormalisedContribution :=
  let cvssScore :=
    if contribution.cvssScore = .null then .ok none else (readFloat contribution.cvssScore).map some
  let errors :=
    textErrors "source_identifier" contribution.sourceIdentifier ++
    textErrors "description" contribution.description ++
    (match cvssScore with
      | .ok _ => []
      | .error problem => [⟨["cvss_score"], problem⟩]) ++
    textErrors "cvss_vector" contribution.cvssVector ++
    numberErrors "epss_score" contribution.epssScore ++
    numberErrors "epss_percentile" contribution.epssPercentile
  if errors = [] then
    .ok
      { cveId := contribution.cveId
        source := contribution.source
        sourceIdentifier := contribution.sourceIdentifier.text?
        description := contribution.description.text?
        publishedAt := contribution.publishedAt
        lastModifiedAt := contribution.lastModifiedAt
        cvssScore := cvssScore.toOption.join
        cvssScoreText := scoreText? library contribution.cvssScore
        cvssVector := contribution.cvssVector.text?
        cvssVersion := contribution.cvssVersion
        epssScore := contribution.epssScore.bind Number.value?
        epssPercentile := contribution.epssPercentile.bind Number.value?
        epssDate := contribution.epssDate
        kevListed := contribution.kevListed
        kevDateAdded := contribution.kevDateAdded
        kevDueDate := contribution.kevDueDate
        kevKnownRansomware := contribution.kevKnownRansomware
        cweIds := contribution.cweIds
        vendor := contribution.vendor
        products := contribution.products
        references := contribution.references }
  else .error ⟨"VulnerabilitySourceRecord", errors⟩

end Read

/-! ## One record after another -/

/-- The tables and the counts of a synchronisation. -/
structure Progress where
  tables : Tables
  fetched : ℕ := 0
  created : ℕ := 0
  updated : ℕ := 0
  unchanged : ℕ := 0
  failed : ℕ := 0
  failures : List SyncFailure := []
  /-- The vulnerabilities which were merged. -/
  touched : List String := []

section Records

variable (texts : Texts) (library : Library) (readFloat : Json → Except Problem ℚ)

/-- Merge a contribution whose fields are validated here. -/
def storeContribution (tables : Tables) (contribution : RawContribution) (now : DateTime) :
    Except MergeError (MergeResult × Tables) := do
  let _ ← tables.database.getVulnerability texts contribution.cveId
  let contribution ← (contribution.read library readFloat).mapError .validation
  tables.mergeContribution texts contribution now

/-- Store a record: what is returned or raised, and the tables which are left in either case. -/
def attemptRecord (isVendorAdvisory : Bool) (record : RawIntelligenceRecord) (now : DateTime)
    (tables : Tables) : Except SyncFailure (Option MergeResult) × Tables :=
  let store (tables : Tables) (contribution : RawContribution) :=
    match storeContribution texts library readFloat tables contribution now with
    | .error failure => (.error (.merge failure), tables)
    | .ok (result, tables) => (.ok (some result), tables)
  if isVendorAdvisory then
    match normaliseVendorAdvisory library record with
    | .error failure => (.error (.normalise failure), tables)
    | .ok (advisory, contribution) =>
        let tables := tables.upsertVendorAdvisory advisory
        match contribution with
        | none => (.ok none, tables)
        | some contribution => store tables contribution
  else
    match normalise library record with
    | .error failure => (.error (.normalise failure), tables)
    | .ok contribution => store tables contribution

variable (isVendorAdvisory : Bool) (clock : ℕ → DateTime)

/-- Process the next record; the clock tells the time at which each record is merged. -/
def processRecord (progress : Progress) (record : RawIntelligenceRecord) :
    Except SyncFailure Progress :=
  let (outcome, tables) := attemptRecord texts library readFloat isVendorAdvisory record
    (clock progress.fetched) progress.tables
  let progress := { progress with tables, fetched := progress.fetched + 1 }
  match outcome with
  | .ok none => .ok { progress with unchanged := progress.unchanged + 1 }
  | .ok (some result) =>
      let cveId := result.vulnerability.cveId
      let progress := { progress with touched := progress.touched.insert cveId }
      if result.isNew then .ok { progress with created := progress.created + 1 }
      else if result.history ≠ [] then .ok { progress with updated := progress.updated + 1 }
      else .ok { progress with unchanged := progress.unchanged + 1 }
  | .error failure =>
      if failure.isCounted then
        .ok { progress with
          failed := progress.failed + 1
          failures := progress.failures ++ [failure] }
      else .error failure

/-- Process the records in the order in which they are fetched. -/
def processRecords (progress : Progress) (records : List RawIntelligenceRecord) :
    Except SyncFailure Progress :=
  records.foldlM (processRecord texts library readFloat isVendorAdvisory clock) progress

/-! ## What a failed record leaves -/

/-- The advisories after a record which is not merged: an advisory is stored before the record is
merged. -/
def advisoriesAfter (record : RawIntelligenceRecord)
    (advisories : Table VendorAdvisory.advisoryId) : Table VendorAdvisory.advisoryId :=
  if isVendorAdvisory then
    match normaliseVendorAdvisory library record with
    | .error _ => advisories
    | .ok (advisory, _) => advisories.upsert advisory
  else advisories

variable {texts library readFloat isVendorAdvisory clock}

theorem attemptRecord_failed {record : RawIntelligenceRecord} {now : DateTime}
    {tables after : Tables} {failure : SyncFailure}
    (attempted : attemptRecord texts library readFloat isVendorAdvisory record now tables =
      (.error failure, after)) :
    after = { tables with
      advisories := advisoriesAfter library isVendorAdvisory record tables.advisories } := by
  unfold attemptRecord at attempted
  unfold advisoriesAfter
  cases isVendorAdvisory with
  | true =>
      cases normalised : normaliseVendorAdvisory library record with
      | error failure =>
          simp only [normalised, if_true] at attempted ⊢
          cases attempted
          rfl
      | ok found =>
          obtain ⟨advisory, contribution⟩ := found
          simp only [normalised, if_true] at attempted ⊢
          cases contribution with
          | none => cases attempted
          | some contribution =>
              dsimp only at attempted
              split at attempted
              next =>
                cases attempted
                rfl
              next => cases attempted
  | false =>
      cases normalised : normalise library record with
      | error failure =>
          simp only [normalised, Bool.false_eq_true, if_false] at attempted ⊢
          cases attempted
          rfl
      | ok contribution =>
          simp only [normalised, Bool.false_eq_true, if_false] at attempted ⊢
          split at attempted
          next =>
            cases attempted
            rfl
          next => cases attempted

/-- Only a record whose storing failed is counted as failed. -/
theorem attempted_of_failed {progress after : Progress} {record : RawIntelligenceRecord}
    (processed : processRecord texts library readFloat isVendorAdvisory clock progress record =
      .ok after)
    (failed : after.failed = progress.failed + 1) :
    ∃ failure, attemptRecord texts library readFloat isVendorAdvisory record
      (clock progress.fetched) progress.tables = (.error failure, after.tables) := by
  unfold processRecord at processed
  cases attempted : attemptRecord texts library readFloat isVendorAdvisory record
      (clock progress.fetched) progress.tables with
  | mk outcome tables =>
      rw [attempted] at processed
      cases outcome with
      | error failure =>
          dsimp only at processed
          split at processed
          next =>
            cases processed
            exact ⟨failure, rfl⟩
          next => cases processed
      | ok result =>
          have same : after.failed = progress.failed := by
            cases result with
            | none =>
                cases processed
                rfl
            | some result =>
                dsimp only at processed
                split at processed
                next =>
                  cases processed
                  rfl
                next =>
                  split at processed
                  all_goals
                    cases processed
                    rfl
          omega

/-- In a synchronisation of any records, a record which is counted as failed changes no table but
that of the advisories, and that one only by its own advisory. -/
theorem tables_of_failed {start after : Progress} {records : List RawIntelligenceRecord}
    {record : RawIntelligenceRecord}
    (processed : processRecords texts library readFloat isVendorAdvisory clock start
      (records ++ [record]) = .ok after) :
    ∃ before, processRecords texts library readFloat isVendorAdvisory clock start records =
        .ok before ∧
      (after.failed = before.failed + 1 →
        after.tables = { before.tables with
          advisories :=
            advisoriesAfter library isVendorAdvisory record before.tables.advisories }) := by
  rw [processRecords, List.foldlM_append] at processed
  obtain ⟨before, earlier, last⟩ := bind_eq_ok.mp processed
  refine ⟨before, earlier, ?_⟩
  intro failed
  obtain ⟨next, own, done⟩ := bind_eq_ok.mp last
  cases done
  obtain ⟨failure, attempted⟩ := attempted_of_failed own failed
  exact attemptRecord_failed attempted

end Records

namespace SyncSample

def texts : Texts where
  parseUrl _ := none
  number _ := "11.0"

def library : Library where
  repr _ := "None"
  datetimeFromisoformat _ := none
  dateFromisoformat _ := none

def readFloat : Json → Except Problem ℚ
  | .float value => .ok value
  | _ => .error .stringType

/-- An advisory whose score is out of range. -/
def record : RawIntelligenceRecord where
  source := .githubAdvisory
  externalId := "GHSA-1"
  raw :=
    [("cve_id", .str "CVE-2024-00001"),
      ("cvss_severities", .obj [("cvss_v3", .obj [("score", .float 11)])])]

end SyncSample

theorem tables_of_failed_sample :
    ∃ before after : Progress,
      processRecords SyncSample.texts SyncSample.library SyncSample.readFloat true
        (fun _ => 0) { tables := {} } [] = .ok before ∧
      (after.failed = before.failed + 1 →
        after.tables = { before.tables with
          advisories :=
            advisoriesAfter SyncSample.library true SyncSample.record before.tables.advisories }) ∧
      after.failed = 1 := by
  obtain ⟨after, processed, failed⟩ : ∃ after, processRecords SyncSample.texts SyncSample.library
      SyncSample.readFloat true (fun _ => 0) { tables := {} } ([] ++ [SyncSample.record]) =
        .ok after ∧ after.failed = 1 := ⟨_, rfl, rfl⟩
  obtain ⟨before, earlier, kept⟩ := tables_of_failed processed
  exact ⟨before, after, earlier, kept, failed⟩

/-- The advisory of a failed record is stored. -/
theorem advisory_of_failed_record :
    ∃ after, processRecords SyncSample.texts SyncSample.library SyncSample.readFloat true
        (fun _ => 0) { tables := {} } [SyncSample.record] = .ok after ∧
      after.failed = 1 ∧ after.tables.advisories.rows ≠ [] := by
  refine ⟨_, rfl, rfl, ?_⟩
  exact List.cons_ne_nil _ _

end ZeroShield.Intelligence
