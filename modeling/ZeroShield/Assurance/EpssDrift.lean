import ZeroShield.Assurance.Comparability
import ZeroShield.Assurance.ScanExactness
import ZeroShield.Intelligence.HistoryChain

/-!
# A probability which moves in steps

A scan compares the two values of each recorded change.  A probability which moves materially since
the last validation is noticed when one of its steps is material, and not by what the steps add up
to.
-/

namespace ZeroShield.Assurance

open Foundation Models Platform StringEnum
open Intelligence (Texts NormalisedContribution MergeResult Database merge mergeAll wholeHistory
  recordedChanges historyEntries merge_spec mergeAll_cons)

/-- A step which is no material change, as doubles are subtracted. -/
def Immaterial (old new : ℚ) : Prop :=
  |nearestDouble (new - old)| < epssMaterialChange

/-- Probabilities move by at least a fifth between two views. -/
def MovedMaterially (before after : Option Vulnerability) : Prop :=
  ∃ old ∈ before.bind (·.epssScore), ∃ new ∈ after.bind (·.epssScore), 1 / 5 ≤ |new - old|

/-- The probability of a view and those which are contributed to it, in order. -/
def epssScores (existing : Option Vulnerability) (contributions : List NormalisedContribution) :
    List ℚ :=
  (existing.bind (·.epssScore)).toList ++ contributions.filterMap (·.epssScore)

/-- The two values of a recorded change differ materially. -/
def MaterialChange (change : Option String × Option String) : Prop :=
  ∃ old ∈ change.1.bind float, ∃ new ∈ change.2.bind float,
    (parsedNumber old).differMaterially (parsedNumber new) = true

/-- An entry records a material change of a probability since a time. -/
def Notices (validatedAt : DateTime) (entry : VulnerabilityHistoryEntry) : Prop :=
  validatedAt < entry.observedAt ∧ entry.field = "epss_score" ∧
    MaterialChange (entry.oldValue, entry.newValue)

/-! ## Steps -/

section Steps

variable {texts : Texts} {clock : ℕ → DateTime} {reading : ℕ} {existing : Option Vulnerability}
  {contribution : NormalisedContribution} {contributions : List NormalisedContribution}
  {now validatedAt : DateTime} {result : MergeResult} {results : List MergeResult}

/-- The threshold is between two doubles with few digits. -/
theorem epssMaterialChange_between : 3 / 16 ≤ epssMaterialChange ∧ epssMaterialChange ≤ 1 / 4 := by
  have low : IsDouble (3 / 16 : ℚ) := ⟨3, -4, by decide, by decide, by norm_num⟩
  have high : IsDouble (1 / 4 : ℚ) := ⟨1, -2, by decide, by decide, by norm_num⟩
  constructor
  · rw [← nearestDouble_of_isDouble low, epssMaterialChange]
    exact nearestDouble_mono (by norm_num) (by norm_num)
  · rw [← nearestDouble_of_isDouble high, epssMaterialChange]
    exact nearestDouble_mono (by norm_num) (by norm_num)

theorem materialChange_texts {old new : ℚ} (oldRead : float (texts.number old) = some (.finite old))
    (newRead : float (texts.number new) = some (.finite new)) :
    MaterialChange (some (texts.number old), some (texts.number new)) ↔ ¬Immaterial old new := by
  simp [MaterialChange, oldRead, newRead, parsedNumber, ParsedNumber.differMaterially, Immaterial]

/-- A difference which is a double is not rounded. -/
theorem immaterial_of_isDouble {old new : ℚ} (held : IsDouble (new - old)) :
    Immaterial old new ↔ |new - old| < epssMaterialChange := by
  rw [Immaterial, nearestDouble_of_isDouble held]

theorem immaterial_self (score : ℚ) : Immaterial score score := by
  rw [Immaterial, sub_self, nearestDouble_zero, abs_zero]
  linarith [epssMaterialChange_between.1]

/-- Recent entries notice a change exactly when it is among the recorded ones. -/
theorem notices_iff {history : List VulnerabilityHistoryEntry}
    (recent : ∀ entry ∈ history, validatedAt < entry.observedAt) :
    (∃ entry ∈ history, Notices validatedAt entry) ↔
      ∃ change ∈ recordedChanges "epss_score" history, MaterialChange change := by
  constructor
  · rintro ⟨entry, member, -, epss, material⟩
    refine ⟨_, List.mem_map_of_mem (List.mem_filter.mpr ⟨member, ?_⟩), material⟩
    exact decide_eq_true epss
  · rintro ⟨change, member, material⟩
    obtain ⟨entry, filtered, rfl⟩ := List.mem_map.mp member
    obtain ⟨stored, epss⟩ := List.mem_filter.mp filtered
    exact ⟨entry, stored, recent entry stored, of_decide_eq_true epss, material⟩

/-- One merge records a material change exactly when it makes one. -/
theorem materialChange_of_merge (merged : merge texts existing contribution now = .ok result)
    (written : ∀ score ∈ epssScores existing [contribution],
      float (texts.number score) = some (.finite score)) :
    (∃ change ∈ recordedChanges "epss_score" result.history, MaterialChange change) ↔
      ∃ old ∈ existing.bind (·.epssScore), ∃ new ∈ contribution.epssScore, ¬Immaterial old new := by
  obtain ⟨-, history, -⟩ := merge_spec merged
  have only : recordedChanges "epss_score" (historyEntries contribution now texts existing) =
      recordedChanges "epss_score" (Intelligence.track contribution now texts.number texts.number
        "epss_score" (existing.bind (·.epssScore)) contribution.epssScore) := by
    simp [historyEntries, Intelligence.recordedChanges_ite, Intelligence.recordedChanges_track_ne]
  rw [history, only]
  cases offered : contribution.epssScore with
  | none => simp [Intelligence.track]
  | some new =>
      cases held : existing.bind (·.epssScore) with
      | none => simp [Intelligence.track, recordedChanges, MaterialChange]
      | some old =>
          have oldRead := written old (by simp [epssScores, held])
          have newRead := written new (by simp [epssScores, offered])
          by_cases same : old = new
          · subst same
            simp [Intelligence.track, immaterial_self]
          · simp [Intelligence.track, recordedChanges, same, materialChange_texts oldRead newRead]

/-- The probabilities from a merge on. -/
theorem epssScores_cons (merged : merge texts existing contribution now = .ok result) :
    epssScores existing (contribution :: contributions) =
      if contribution.epssScore = none then epssScores (some result.vulnerability) contributions
      else (existing.bind (·.epssScore)).toList ++
        epssScores (some result.vulnerability) contributions := by
  have held := Intelligence.merge_epssScore merged
  cases offered : contribution.epssScore with
  | none => simp [epssScores, held, offered, Register.offer]
  | some new => simp [epssScores, held, offered, Register.offer]

/-- A sequence of merges records a material change exactly when one of its steps is material. -/
theorem materialChange_of_mergeAll
    (merged : mergeAll texts clock reading existing contributions = .ok results)
    (written : ∀ score ∈ epssScores existing contributions,
      float (texts.number score) = some (.finite score)) :
    (∃ change ∈ recordedChanges "epss_score" (wholeHistory results), MaterialChange change) ↔
      ¬(epssScores existing contributions).IsChain Immaterial := by
  induction contributions generalizing reading existing results with
  | nil =>
      cases merged
      refine iff_of_false (by simp [wholeHistory]) (not_not.mpr ?_)
      rw [epssScores, List.filterMap_nil, List.append_nil]
      cases existing.bind (·.epssScore) <;> simp
  | cons contribution contributions ih =>
      obtain ⟨result, rest, rfl, first, others⟩ := mergeAll_cons merged
      have scores := @epssScores_cons _ _ _ contributions _ _ first
      have whole : epssScores existing (contribution :: contributions) =
          epssScores existing [contribution] ++ contributions.filterMap (·.epssScore) := by
        rw [epssScores, ← List.singleton_append, List.filterMap_append, ← List.append_assoc]
        rfl
      have own := materialChange_of_merge first fun score member =>
        written score (whole ▸ List.mem_append_left _ member)
      have later := ih others fun score member => written score (by
        rw [scores]
        split
        · exact member
        · exact List.mem_append_right _ member)
      rw [Intelligence.wholeHistory_cons, Intelligence.recordedChanges_append]
      simp only [List.mem_append, or_and_right, exists_or]
      rw [own, later, scores]
      cases offered : contribution.epssScore with
      | none => simp
      | some new =>
          have next : epssScores (some result.vulnerability) contributions =
              new :: contributions.filterMap (·.epssScore) := by
            rw [epssScores, Option.bind_some, Intelligence.merge_epssScore first, offered]
            simp [Register.offer]
          rw [next]
          cases held : existing.bind (·.epssScore) with
          | none => simp
          | some old => simp [List.isChain_cons_cons, imp_iff_not_or]

end Steps

/-! ## The updates of a vulnerability since a validation -/

/-- Contributions to a vulnerability are merged after a time, one after the other, into the view
which was stored then. -/
structure UpdatedSince (texts : Texts) (clock : ℕ → DateTime) (reading : ℕ)
    (database after : Database) (cveId : String) (existing : Option Vulnerability)
    (contributions : List NormalisedContribution) (validatedAt : DateTime) : Prop where
  isRead : database.getVulnerability texts cveId = .ok existing
  earlier : ∀ entry ∈ database.history, entry.cveId = cveId → entry.observedAt ≤ validatedAt
  later : ∀ index, reading ≤ index → validatedAt < clock index
  sameId : ∀ contribution ∈ contributions, contribution.cveId = cveId
  dates : ∀ contribution ∈ contributions, Intelligence.DatesInCalendar contribution
  /-- A probability is written so that it is read as itself. -/
  written : ∀ score ∈ epssScores existing contributions,
    float (texts.number score) = some (.finite score)
  stored : Database.mergeAllStored texts clock reading database contributions = .ok after

section Updates

variable {texts : Texts} {clock : ℕ → DateTime} {reading : ℕ} {database after : Database}
  {cveId : String} {existing : Option Vulnerability} {contributions : List NormalisedContribution}
  {validatedAt : DateTime}

/-- The stored entries notice a change exactly when one of the steps is material. -/
theorem notices_of_updatedSince (readsBack : texts.ReadsBack)
    (updated : UpdatedSince texts clock reading database after cveId existing contributions
      validatedAt) :
    (∃ entry ∈ after.history, entry.cveId = cveId ∧ Notices validatedAt entry) ↔
      ¬(epssScores existing contributions).IsChain Immaterial := by
  obtain ⟨results, merged, -, history⟩ := Database.mergeAll_of_mergeAllStored readsBack
    updated.sameId updated.dates updated.isRead updated.stored
  have own := Intelligence.cveId_of_mergeAll updated.sameId merged
  have recent : ∀ entry ∈ wholeHistory results, validatedAt < entry.observedAt := by
    intro entry member
    obtain ⟨index, isLater, observed⟩ := Intelligence.observed_of_mergeAll merged entry member
    rw [observed]
    exact updated.later index isLater
  rw [← materialChange_of_mergeAll merged updated.written, ← notices_iff recent, history]
  constructor
  · rintro ⟨entry, member, same, notices⟩
    rcases List.mem_append.mp member with before | since
    · exact absurd notices.1 (not_lt.mpr (updated.earlier entry before same))
    · exact ⟨entry, since, notices⟩
  · rintro ⟨entry, member, notices⟩
    exact ⟨entry, List.mem_append_right _ member, own entry member, notices⟩

variable {findExperiment : String → Option ExperimentDefinition}
  {vulnerabilities : Intelligence.Store} {library : Intelligence.CorrelationLibrary}
  {store later : AssuranceStore} {stalenessWindow : ℤ} {now : DateTime} {summary : ScanSummary}
  {control : Control} {latest : ControlValidation}

/-- After a scan a change of a probability is pending exactly when it was pending, a step of the
vulnerability since the validation is material, or another related vulnerability has such a step. -/
theorem hasPending_epssMaterialChange_iff (readsBack : texts.ReadsBack)
    (returned : scan (servicesOf findExperiment vulnerabilities library) stalenessWindow now store =
      (.ok summary, later))
    (listed : control ∈ store.controls)
    (isLatest : (listValidations store control.controlId).getLast? = some latest)
    (isRelated : cveId ∈ related findExperiment latest)
    (updated : UpdatedSince texts clock reading database after cveId existing contributions
      latest.validatedAt)
    (recorded : vulnerabilities.history.filter (·.cveId = cveId) =
      after.history.filter (·.cveId = cveId)) :
    HasPending later control.controlId (value RevalidationTrigger.epssMaterialChange) ↔
      HasPending store control.controlId (value RevalidationTrigger.epssMaterialChange) ∨
        ¬(epssScores existing contributions).IsChain Immaterial ∨
          ∃ entry ∈ vulnerabilities.history, entry.cveId ≠ cveId ∧
            entry.cveId ∈ related findExperiment latest ∧ Notices latest.validatedAt entry := by
  have same (entry : VulnerabilityHistoryEntry) :
      entry ∈ vulnerabilities.history ∧ entry.cveId = cveId ↔
        entry ∈ after.history ∧ entry.cveId = cveId := by
    have either : entry ∈ vulnerabilities.history.filter (·.cveId = cveId) ↔
        entry ∈ after.history.filter (·.cveId = cveId) := by
      rw [recorded]
    simpa only [List.mem_filter, decide_eq_true_eq] using either
  rw [hasPending_of_returned returned listed isLatest, seen_epssMaterialChange,
    ← notices_of_updatedSince readsBack updated]
  refine or_congr_right ?_
  constructor
  · rintro ⟨entry, stored, own, notices⟩
    by_cases isOwn : entry.cveId = cveId
    · exact Or.inl ⟨entry, ((same entry).mp ⟨stored, isOwn⟩).1, isOwn, notices⟩
    · exact Or.inr ⟨entry, stored, isOwn, own, notices⟩
  · rintro (⟨entry, stored, isOwn, notices⟩ | ⟨entry, stored, -, own, notices⟩)
    · exact ⟨entry, ((same entry).mpr ⟨stored, isOwn⟩).1, isOwn ▸ isRelated, notices⟩
    · exact ⟨entry, stored, own, notices⟩

end Updates

namespace Sample

/-- The digits after the point of some numbers of eighths. -/
def eighths : List (ℚ × List Char) :=
  [(1 / 8, ['1', '2', '5']), (1 / 4, ['2', '5']), (3 / 8, ['3', '7', '5']), (1 / 2, ['5'])]

def texts : Texts where
  parseUrl text := some ⟨text⟩
  number score := String.ofList ('0' :: '.' :: (eighths.lookup score).getD [])

theorem texts_readsBack : texts.ReadsBack := by
  rintro _ _ ⟨⟩
  rfl

/-- A vulnerability as it was stored when the control was validated. -/
def scored : Vulnerability where
  cveId := "CVE-2024-21762"
  description := none
  publishedAt := none
  lastModifiedAt := none
  cvssScore := none
  cvssVector := none
  cvssVersion := none
  epssScore := some (1 / 8)
  epssPercentile := none
  epssDate := none
  kevListed := false
  kevDateAdded := none
  kevDueDate := none
  kevKnownRansomware := none
  cweIds := []
  vendor := none
  domainGuess := none
  zeroClickRelevance := none
  references := []
  sources := [.epss]
  firstSeenAt := 0
  lastUpdatedAt := 0

def database : Database :=
  ({} : Database).upsertVulnerability scored

/-- A contribution with a probability. -/
def probabilityOf (score : ℚ) : NormalisedContribution where
  cveId := "CVE-2024-21762"
  source := .epss
  epssScore := some score

theorem storable_scored : Intelligence.Storable texts scored := by
  refine ⟨by decide +kernel, ?_, ?_, ?_, ?_⟩
  · rintro date ⟨⟩
  · rintro date ⟨⟩
  · rintro date ⟨⟩
  · rintro url ⟨⟩

theorem isRead_scored : database.getVulnerability texts "CVE-2024-21762" =
    .ok (some scored) :=
  Database.getVulnerability_upsertVulnerability storable_scored

/-- The digits after the point as a decimal. -/
def fractionOf (digits : List Char) (isDigit : ∀ c ∈ digits, c.isDigit = true) : Decimal where
  whole := ['0']
  fraction := some digits
  digits := List.forall_mem_cons.mpr ⟨rfl, isDigit⟩
  nonempty := List.cons_ne_nil '0' digits

theorem written_of_eighth {score : ℚ} {digits : List Char}
    (isDigit : ∀ c ∈ digits, c.isDigit = true)
    (text : texts.number score = String.ofList ('0' :: '.' :: digits))
    (same : (fractionOf digits isDigit).value = score) (small : score < 1) (held : IsDouble score) :
    float (texts.number score) = some (.finite score) := by
  have bound : (1 : ℚ) < floatBound := by
    exact_mod_cast (by decide +kernel : 1 < floatBound)
  have read := @float_text (fractionOf digits isDigit) (same.trans_lt (small.trans bound))
  have written : (fractionOf digits isDigit).text = '0' :: '.' :: digits := rfl
  rw [text, ← written, read, same, nearestDouble_of_isDouble held]

/-- The sample probabilities. -/
def scores : List ℚ := [1 / 8, 1 / 4, 3 / 8, 1 / 2]

theorem written : ∀ score ∈ scores, float (texts.number score) = some (.finite score) := by
  simp only [scores, List.forall_mem_cons]
  refine ⟨@written_of_eighth _ ['1', '2', '5'] (by decide) ?_ ?_ ?_ ⟨1, -3, ?_, ?_, ?_⟩,
    @written_of_eighth _ ['2', '5'] (by decide) ?_ ?_ ?_ ⟨1, -2, ?_, ?_, ?_⟩,
    @written_of_eighth _ ['3', '7', '5'] (by decide) ?_ ?_ ?_ ⟨3, -3, ?_, ?_, ?_⟩,
    @written_of_eighth _ ['5'] (by decide) ?_ ?_ ?_ ⟨1, -1, ?_, ?_, ?_⟩, List.forall_mem_nil _⟩
  all_goals decide +kernel

/-- Some probabilities are contributed after the sample validation. -/
theorem updatedSince {offered : List ℚ} (known : offered ⊆ scores) :
    ∃ after, UpdatedSince texts Intelligence.Sample.clock 3 database after
      "CVE-2024-21762" (some scored) (offered.map probabilityOf) 2 := by
  have every {P : NormalisedContribution → Prop}
    (each : ∀ score ∈ scores, P (probabilityOf score)) :
      ∀ contribution ∈ offered.map probabilityOf, P contribution :=
    List.forall_mem_map.mpr fun score member => each score (known member)
  have sameId := @every (·.cveId = "CVE-2024-21762") fun _ _ => rfl
  have dates := @every Intelligence.DatesInCalendar fun _ _ => by
    refine ⟨?_, ?_, ?_⟩ <;> rintro date ⟨⟩
  have acceptable := @every (Intelligence.Acceptable texts)
    fun score member => by
      refine ⟨Intelligence.Sample.acceptable_probability.cveId, rfl, ?_, rfl, ?_⟩
      · revert score
        decide +kernel
      · rintro text ⟨⟩
  obtain ⟨after, stored⟩ := @Database.mergeAllStored_isOk texts
    Intelligence.Sample.clock 3 database (some scored) _ _ texts_readsBack sameId
    dates acceptable isRead_scored
  refine ⟨after, isRead_scored, ?_, ?_, sameId, dates, ?_, stored⟩
  · rintro entry ⟨⟩
  · intro index isLater
    exact Int.ofNat_lt.mpr isLater
  · intro score member
    refine written score ?_
    rcases List.mem_append.mp member with own | other
    · obtain rfl := List.mem_singleton.mp own
      exact List.mem_cons_self
    · obtain ⟨contribution, isOffered, given⟩ := List.mem_filterMap.mp other
      obtain ⟨contributed, isKnown, rfl⟩ := List.mem_map.mp isOffered
      cases given
      exact known isKnown

/-- A store of vulnerabilities with the given history. -/
def recording (after : Database) : Intelligence.Store where
  history := after.history

theorem scan_returns (after : Database) :
    ∃ summary later,
      scan (servicesOf (fun _ => some (validated "ZC-VPN-EXP-001")) (recording after) correlations)
        defaultStaleness 3 (versioned "V1") = (.ok summary, later) := by
  have loadable := @servicesOf_loadable (fun _ => some (validated "ZC-VPN-EXP-001"))
    (recording after) correlations
  obtain ⟨summary, later, returned, -⟩ :=
    (scan_keeps loadable defaultStaleness 3).returns (versioned_onePending "V1")
  exact ⟨summary, later, returned⟩

end Sample

/-- A probability which moves by three eighths at once is noticed. -/
theorem hasPending_of_material_step :
    ∃ after later, UpdatedSince Sample.texts Intelligence.Sample.clock 3 Sample.database
        after "CVE-2024-21762" (some Sample.scored) [Sample.probabilityOf (1 / 2)] 2 ∧
      (scan (servicesOf (fun _ => some (Sample.validated "ZC-VPN-EXP-001")) (Sample.recording after)
        Sample.correlations) defaultStaleness 3 (Sample.versioned "V1")).2 = later ∧
      HasPending later "WAF:BLOCK" (value RevalidationTrigger.epssMaterialChange) := by
  obtain ⟨after, updated⟩ := @Sample.updatedSince [1 / 2] (by decide +kernel)
  obtain ⟨summary, later, returned⟩ := Sample.scan_returns after
  refine ⟨after, later, updated, by rw [returned], ?_⟩
  have listed : Sample.blocking ∈ (Sample.versioned "V1").controls := List.mem_cons_self
  refine (hasPending_epssMaterialChange_iff Sample.texts_readsBack returned listed rfl
    List.mem_cons_self updated rfl).mpr (Or.inr (Or.inl ?_))
  change ¬List.IsChain Immaterial [1 / 8, 1 / 2]
  have held : IsDouble (1 / 2 - 1 / 8 : ℚ) := ⟨3, -3, by decide, by decide, by norm_num⟩
  rw [List.isChain_pair, immaterial_of_isDouble held, not_lt]
  norm_num
  linarith [epssMaterialChange_between.2]

/-- A probability which moves by three eighths in three steps is not noticed. -/
theorem not_hasPending_of_drift :
    ¬∀ (texts : Texts) (clock : ℕ → DateTime) (reading : ℕ) (database after : Database)
      (cveId : String) (existing view : Option Vulnerability)
      (contributions : List NormalisedContribution)
      (findExperiment : String → Option ExperimentDefinition) (vulnerabilities : Intelligence.Store)
      (library : Intelligence.CorrelationLibrary) (store later : AssuranceStore)
      (stalenessWindow : ℤ) (now : DateTime) (summary : ScanSummary) (control : Control)
      (latest : ControlValidation), texts.ReadsBack →
      scan (servicesOf findExperiment vulnerabilities library) stalenessWindow now store =
        (.ok summary, later) →
      control ∈ store.controls →
      (listValidations store control.controlId).getLast? = some latest →
      cveId ∈ related findExperiment latest →
      UpdatedSince texts clock reading database after cveId existing contributions
        latest.validatedAt →
      vulnerabilities.history.filter (·.cveId = cveId) = after.history.filter (·.cveId = cveId) →
      after.getVulnerability texts cveId = .ok view → MovedMaterially existing view →
        HasPending later control.controlId (value RevalidationTrigger.epssMaterialChange) := by
  intro claim
  obtain ⟨after, updated⟩ := @Sample.updatedSince [1 / 4, 3 / 8, 1 / 2]
    (by decide +kernel)
  obtain ⟨summary, later, returned⟩ := Sample.scan_returns after
  obtain ⟨results, merged, isRead, -⟩ := Database.mergeAll_of_mergeAllStored
    Sample.texts_readsBack updated.sameId updated.dates updated.isRead updated.stored
  have final : (Intelligence.latestView (some Sample.scored) results).bind (·.epssScore) =
      some (1 / 2) :=
    Intelligence.field_of_mergeAll Intelligence.merge_epssScore merged
  have moved : MovedMaterially (some Sample.scored)
      (Intelligence.latestView (some Sample.scored) results) := by
    refine ⟨1 / 8, rfl, 1 / 2, final, ?_⟩
    norm_num
  have pending := claim Sample.texts Intelligence.Sample.clock 3 Sample.database after
    "CVE-2024-21762" (some Sample.scored) _ _ _ (Sample.recording after) Sample.correlations
    (Sample.versioned "V1") later defaultStaleness 3 summary Sample.blocking
    (Sample.validationOf "V1") Sample.texts_readsBack returned List.mem_cons_self rfl
    List.mem_cons_self updated rfl isRead moved
  rw [hasPending_of_returned returned List.mem_cons_self rfl,
    seen_epssMaterialChange] at pending
  rcases pending with before | ⟨entry, stored, own, notices⟩
  · exact before rfl
  · have same : entry.cveId = "CVE-2024-21762" := List.mem_singleton.mp own
    refine (notices_of_updatedSince Sample.texts_readsBack updated).mp
      ⟨entry, stored, same, notices⟩ ?_
    have step {old : ℚ} (next : ℚ) (eighth : next - old = 1 / 8) : Immaterial old next := by
      have held : IsDouble (next - old) := ⟨1, -3, by decide, by decide, by rw [eighth]; norm_num⟩
      rw [immaterial_of_isDouble held, eighth]
      norm_num
      linarith [epssMaterialChange_between.1]
    change List.IsChain Immaterial [1 / 8, 1 / 4, 3 / 8, 1 / 2]
    simp only [List.isChain_cons_cons, List.isChain_singleton, and_true]
    exact ⟨step _ (by norm_num), step _ (by norm_num), step _ (by norm_num)⟩

end ZeroShield.Assurance
