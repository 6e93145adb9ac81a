import ZeroShield.Experiments.Discovery
import ZeroShield.Intelligence.Candidates
import ZeroShield.Intelligence.NvdConnector
import ZeroShield.Intelligence.Sync

/-!
# A whole synchronisation

The records of a connector are processed one after another, candidates are generated for what was
merged, and the outcome is recorded with its counts.
-/

namespace ZeroShield.Intelligence

open Experiments Foundation Models StringEnum

/-- The repository as a synchronisation uses it. -/
structure SyncStore where
  tables : Tables := {}
  candidates : Table candidateKey := .empty
  syncs : Table IntelligenceSync.syncId := .empty

/-- What a connector yields, and how the fetch ends behind it. -/
structure Feed where
  source : VulnerabilitySourceName
  isVendorAdvisory : Bool
  records : List RawIntelligenceRecord
  ending : FetchEnding

/-- What ends a synchronisation without an outcome. -/
inductive SyncCrash
  | sync (error : ValidationError)
  | record (failure : SyncFailure)
  | fetch
  | discovery (failure : DiscoveryFailure)
  | read (error : MergeError)
  | candidate (error : ValidationError)

/-- Write the record of a synchronisation. -/
def SyncStore.saveSync (store : SyncStore) (sync : IntelligenceSync) : Except SyncCrash SyncStore :=
  let errors := requireText "sync_id" sync.syncId
  if errors ≠ [] then .error (.sync ⟨"IntelligenceSync", errors⟩)
  else .ok { store with syncs := store.syncs.upsert sync }

/-- The experiments which cite each vulnerability. -/
def buildExperimentIdsByCve (experiments : List ExperimentDefinition) :
    List (String × List String) :=
  let cited := experiments.flatMap fun experiment =>
    experiment.relatedCves.map fun cve => (cve.cveId, experiment.experimentId)
  (cited.map Prod.fst).dedup.map fun cveId =>
    (cveId, (cited.filter (·.1 = cveId)).map Prod.snd)

/-- The status by the counts of a fetch which ended without a failure. -/
def syncStatus (fetched failed : ℕ) : IntelligenceSyncStatus :=
  if fetched = 0 ∨ failed = 0 then .completed
  else if failed < fetched then .partially
  else .failed

/-- The text of a failure which is counted. -/
def SyncFailure.text (str : ValidationError → String) : SyncFailure → String
  | normalise (.normalisation source externalId reason) =>
      "[" ++ value source ++ ":" ++ externalId ++ "] " ++ reason
  | normalise (.validation error) => str error
  | merge (.validation error) => str error
  | _ => ""

section Run

variable (texts : Texts) (library : Library) (readFloat : Json → Except Problem ℚ)
  (lower : String → String) (parser : Parser) (weights : PriorityWeights) (clock : ℕ → DateTime)

/-- Classify a merged vulnerability again and generate its candidate. -/
def regenerateCandidate (experimentIdsByCve : List (String × List String)) (store : SyncStore)
    (touched : String × ℕ) : Except SyncCrash SyncStore := do
  let found ← (store.tables.database.getVulnerability texts touched.1).mapError .read
  match found with
  | none => return store
  | some vulnerability =>
      let domainGuess := (classifyDomain lower vulnerability).domain
      let reclassified := { vulnerability with domainGuess }
      let database :=
        if vulnerability.domainGuess ≠ domainGuess then
          store.tables.database.upsertVulnerability reclassified
        else store.tables.database
      let store := { store with tables := { store.tables with database } }
      let candidate ← (generateCandidate lower reclassified experimentIdsByCve weights
        (clock touched.2)).mapError .candidate
      match candidate with
      | none => return store
      | some candidate => return { store with candidates := store.candidates.upsert candidate }

/-- The experiments of a directory which cite each vulnerability; without a directory there are
none. -/
def citingExperiments (experimentsDir : Option (Option Listing)) :
    Except SyncCrash (List (String × List String)) :=
  match experimentsDir with
  | none => .ok []
  | some directory =>
      ((discoverExperiments parser directory).mapError .discovery).map fun discovered =>
        buildExperimentIdsByCve discovered.experiments

/-- Generate the candidates of all merged vulnerabilities, if they are wanted and there are any. -/
def regenerateCandidates (experimentsDir : Option (Option Listing)) (isRegenerating : Bool)
    (touched : List String) (reading : ℕ) (store : SyncStore) : Except SyncCrash SyncStore :=
  if isRegenerating ∧ touched ≠ [] then do
    let experimentIdsByCve ← citingExperiments parser experimentsDir
    (touched.zipIdx reading).foldlM
      (regenerateCandidate texts lower weights clock experimentIdsByCve) store
  else .ok store

/-- Run a synchronisation; the clock tells the time of each of its readings. -/
def runSync (feed : Feed) (syncId : String) (since : Option Timestamp)
    (experimentsDir : Option (Option Listing)) (isRegenerating : Bool) (store : SyncStore) :
    Except SyncCrash (IntelligenceSync × SyncStore) := do
  let running : IntelligenceSync :=
    { syncId, source := feed.source, status := .running, since, startedAt := clock 0 }
  let store ← store.saveSync running
  let progress ← (processRecords texts library readFloat feed.isVendorAdvisory
    (fun reading => clock (reading + 1)) { tables := store.tables } feed.records).mapError .record
  let store := { store with tables := progress.tables }
  let completed : IntelligenceSync :=
    { running with
      fetchedCount := progress.fetched
      createdCount := progress.created
      updatedCount := progress.updated
      unchangedCount := progress.unchanged
      failedCount := progress.failed }
  match feed.ending with
  | .failed .typeError => throw .fetch
  | .failed (.connectorFetch message) => do
      let sync :=
        { completed with
          status := .failed
          completedAt := some (clock (progress.fetched + 1))
          errorSummary := some message }
      return (sync, ← store.saveSync sync)
  | .complete | .capped => do
      let store ← regenerateCandidates texts lower parser weights clock experimentsDir
        isRegenerating
        progress.touched (progress.fetched + 1) store
      let messages := progress.failures.map (SyncFailure.text parser.str)
      let sync :=
        { completed with
          status := syncStatus progress.fetched progress.failed
          completedAt := some (clock (progress.fetched + 1 + progress.touched.length))
          errorSummary :=
            if messages = [] then none else some ("; ".intercalate (messages.take 10)) }
      return (sync, ← store.saveSync sync)

end Run

/-! ## The stored vulnerabilities -/

/-- The identifiers of the stored vulnerabilities. -/
def Tables.cveIds (tables : Tables) : List String :=
  tables.database.vulnerabilities.rows.map VulnerabilityRow.cveId

section Stored

variable {texts : Texts} {tables after : Tables}

/-- A vulnerability is new exactly when it was not stored. -/
theorem isNone_iff_of_getVulnerability {cveId : String} {existing : Option Vulnerability}
    (isRead : tables.database.getVulnerability texts cveId = .ok existing) :
    existing.isNone = true ↔ cveId ∉ tables.cveIds := by
  have stored : tables.database.vulnerabilities.lookup cveId = none ↔ cveId ∉ tables.cveIds := by
    simp [Table.lookup, Tables.cveIds]
  rw [← stored]
  unfold Database.getVulnerability at isRead
  cases found : tables.database.vulnerabilities.lookup cveId with
  | none =>
      rw [found] at isRead
      cases isRead
      exact iff_of_true rfl rfl
  | some row =>
      rw [found] at isRead
      obtain ⟨vulnerability, -, same⟩ := bind_eq_ok.mp isRead
      cases same
      exact iff_of_false Bool.false_ne_true (Option.some_ne_none row)

/-- The merged vulnerability is new exactly when none was stored. -/
theorem merge_isNew {existing : Option Vulnerability} {contribution : NormalisedContribution}
    {now : DateTime} {result : MergeResult}
    (merged : merge texts existing contribution now = .ok result) :
    result.isNew = existing.isNone := by
  unfold merge at merged
  dsimp only at merged
  split at merged
  next => cases merged
  next =>
    split_ifs at merged
    cases merged
    rfl

/-- Storing a vulnerability adds its identifier unless it is stored. -/
theorem cveIds_upsertVulnerability (vulnerability : Vulnerability) :
    { tables with database := tables.database.upsertVulnerability vulnerability }.cveIds =
      if vulnerability.cveId ∈ tables.cveIds then tables.cveIds
      else tables.cveIds ++ [vulnerability.cveId] :=
  Table.map_key_upsertRow VulnerabilityRow.cveId (vulnToOrm vulnerability)
    tables.database.vulnerabilities.rows

/-- The identifiers which a merge adds. -/
def MergeResult.addedIds (result : MergeResult) : List String :=
  if result.isNew then [result.vulnerability.cveId] else []

/-- A merge adds the identifier of a new vulnerability and keeps those of the others. -/
theorem cveIds_mergeContribution {contribution : NormalisedContribution} {now : DateTime}
    {result : MergeResult}
    (merged : tables.mergeContribution texts contribution now = .ok (result, after)) :
    after.cveIds = tables.cveIds ++ result.addedIds := by
  have stored := mergeContribution_eq_ok merged
  obtain ⟨existing, isRead, -⟩ := bind_eq_ok.mp stored
  obtain ⟨isMerged, written⟩ := (Database.mergeStored_eq_ok isRead).mp stored
  obtain ⟨⟨references, view⟩, -, -⟩ := merge_spec isMerged
  have sameId : result.vulnerability.cveId = contribution.cveId := by
    rw [view]
    rfl
  have ids : after.cveIds =
      { tables with
        database := tables.database.upsertVulnerability result.vulnerability }.cveIds := by
    rw [Tables.cveIds, written]
    rfl
  have isNew := isNone_iff_of_getVulnerability isRead
  rw [ids, cveIds_upsertVulnerability, MergeResult.addedIds, merge_isNew isMerged, sameId]
  by_cases known : contribution.cveId ∈ tables.cveIds
  · rw [if_pos known, if_neg (fun new => isNew.mp new known), List.append_nil]
  · rw [if_neg known, if_pos (isNew.mpr known)]

end Stored

/-! ## The counts -/

section Counts

variable {texts : Texts} {library : Library} {readFloat : Json → Except Problem ℚ}
  {isVendorAdvisory : Bool} {clock : ℕ → DateTime} {record : RawIntelligenceRecord}
  {now : DateTime} {tables after : Tables}

theorem cveIds_storeContribution {contribution : RawContribution} {result : MergeResult}
    (stored : storeContribution texts library readFloat tables contribution now =
      .ok (result, after)) :
    after.cveIds = tables.cveIds ++ result.addedIds := by
  obtain ⟨_, -, stored⟩ := bind_eq_ok.mp stored
  obtain ⟨contribution, -, merged⟩ := bind_eq_ok.mp stored
  exact cveIds_mergeContribution merged

/-- The identifiers which a record adds. -/
def addedIds : Except SyncFailure (Option MergeResult) → List String
  | .ok (some result) => result.addedIds
  | .ok none => []
  | .error _ => []

/-- An attempt to store a contribution adds the vulnerability which it creates, and no other. -/
theorem cveIds_of_stored {outcome : Except SyncFailure (Option MergeResult)}
    {contribution : RawContribution}
    (attempted : (match storeContribution texts library readFloat tables contribution now with
      | .error failure => (.error (.merge failure), tables)
      | .ok (result, tables) => (.ok (some result), tables)) = (outcome, after)) :
    after.cveIds = tables.cveIds ++ addedIds outcome := by
  cases stored : storeContribution texts library readFloat tables contribution now with
  | error failure =>
      rw [stored] at attempted
      cases attempted
      exact (List.append_nil _).symm
  | ok found =>
      obtain ⟨result, next⟩ := found
      rw [stored] at attempted
      cases attempted
      exact cveIds_storeContribution stored

/-- A record adds the vulnerability which it creates, and no other. -/
theorem cveIds_attemptRecord {outcome : Except SyncFailure (Option MergeResult)}
    (attempted : attemptRecord texts library readFloat isVendorAdvisory record now tables =
      (outcome, after)) :
    after.cveIds = tables.cveIds ++ addedIds outcome := by
  unfold attemptRecord at attempted
  cases isVendorAdvisory with
  | true =>
      cases normalised : normaliseVendorAdvisory library record with
      | error failure =>
          simp only [normalised, if_true] at attempted
          cases attempted
          exact (List.append_nil _).symm
      | ok found =>
          obtain ⟨advisory, contribution⟩ := found
          simp only [normalised, if_true] at attempted
          cases contribution with
          | none =>
              cases attempted
              exact (List.append_nil _).symm
          | some contribution =>
              have added : after.cveIds =
                  (tables.upsertVendorAdvisory advisory).cveIds ++ addedIds outcome :=
                cveIds_of_stored attempted
              exact added
  | false =>
      cases normalised : normalise library record with
      | error failure =>
          simp only [normalised, Bool.false_eq_true, if_false] at attempted
          cases attempted
          exact (List.append_nil _).symm
      | ok contribution =>
          simp only [normalised, Bool.false_eq_true, if_false] at attempted
          exact cveIds_of_stored attempted

/-- Every fetched record is counted once, and each created one is a vulnerability which was not
stored at the start. -/
structure Accounted (start : List String) (progress : Progress) : Prop where
  total : progress.fetched =
    progress.created + progress.updated + progress.unchanged + progress.failed
  created : ∃ new, progress.tables.cveIds = start ++ new ∧ new.length = progress.created

theorem Accounted.processRecord {start : List String} {progress next : Progress}
    (processed : processRecord texts library readFloat isVendorAdvisory clock progress record =
      .ok next)
    (accounted : Accounted start progress) : Accounted start next := by
  obtain ⟨total, new, ids, created⟩ := accounted
  unfold Intelligence.processRecord at processed
  cases attempted : attemptRecord texts library readFloat isVendorAdvisory record
      (clock progress.fetched) progress.tables with
  | mk outcome tables =>
      have added := cveIds_attemptRecord attempted
      rw [attempted] at processed
      rw [ids, List.append_assoc] at added
      cases outcome with
      | error failure =>
          rw [addedIds, List.append_nil] at added
          dsimp only at processed
          split at processed
          next =>
            cases processed
            exact ⟨by dsimp only; omega, new, added, created⟩
          next => cases processed
      | ok result =>
          cases result with
          | none =>
              rw [addedIds, List.append_nil] at added
              cases processed
              exact ⟨by dsimp only; omega, new, added, created⟩
          | some result =>
              rw [addedIds, MergeResult.addedIds] at added
              dsimp only at processed
              by_cases isNew : result.isNew = true
              · rw [if_pos isNew] at processed added
                cases processed
                refine ⟨by dsimp only; omega, _, added, ?_⟩
                rw [List.length_append, created]
                rfl
              · rw [if_neg isNew] at processed added
                rw [List.append_nil] at added
                by_cases changed : result.history ≠ []
                · rw [if_pos changed] at processed
                  cases processed
                  exact ⟨by dsimp only; omega, new, added, created⟩
                · rw [if_neg changed] at processed
                  cases processed
                  exact ⟨by dsimp only; omega, new, added, created⟩

/-- At every point of a fetch each record so far is counted. -/
theorem Accounted.processRecords {start : List String} {progress final : Progress}
    {records : List RawIntelligenceRecord}
    (processed : processRecords texts library readFloat isVendorAdvisory clock progress records =
      .ok final)
    (accounted : Accounted start progress) : Accounted start final :=
  foldlM_preserves (fun processed accounted => accounted.processRecord processed)
    processed accounted

end Counts

/-! ## Candidates leave the vulnerabilities -/

section Regenerate

variable {texts : Texts} {lower : String → String} {parser : Parser} {weights : PriorityWeights}
  {clock : ℕ → DateTime}

theorem cveId_of_vulnFromOrm {row : VulnerabilityRow} {vulnerability : Vulnerability}
    (isRead : vulnFromOrm texts row = .ok vulnerability) : vulnerability.cveId = row.cveId := by
  obtain ⟨epssDate, -, isRead⟩ := bind_eq_ok.mp isRead
  obtain ⟨kevDateAdded, -, isRead⟩ := bind_eq_ok.mp isRead
  obtain ⟨kevDueDate, -, isRead⟩ := bind_eq_ok.mp isRead
  obtain ⟨domainGuess, -, isRead⟩ := bind_eq_ok.mp isRead
  obtain ⟨relevance, -, isRead⟩ := bind_eq_ok.mp isRead
  obtain ⟨sources, -, isRead⟩ := bind_eq_ok.mp isRead
  dsimp only at isRead
  split at isRead
  case isTrue => cases isRead
  case isFalse =>
    cases isRead
    rfl

/-- A vulnerability which is read is stored under its identifier. -/
theorem mem_cveIds_of_getVulnerability {tables : Tables} {cveId : String}
    {vulnerability : Vulnerability}
    (isRead : tables.database.getVulnerability texts cveId = .ok (some vulnerability)) :
    vulnerability.cveId ∈ tables.cveIds := by
  unfold Database.getVulnerability at isRead
  cases found : tables.database.vulnerabilities.lookup cveId with
  | none =>
      rw [found] at isRead
      cases isRead
  | some row =>
      rw [found] at isRead
      obtain ⟨read, isFound, same⟩ := bind_eq_ok.mp isRead
      cases same
      rw [cveId_of_vulnFromOrm isFound]
      exact List.mem_map_of_mem (Table.mem_rows_of_lookup found)

/-- Generating a candidate adds no vulnerability. -/
theorem cveIds_regenerateCandidate {experimentIdsByCve : List (String × List String)}
    {store next : SyncStore} {touched : String × ℕ}
    (generated : regenerateCandidate texts lower weights clock experimentIdsByCve store touched =
      .ok next) :
    next.tables.cveIds = store.tables.cveIds := by
  obtain ⟨found, isRead, generated⟩ := bind_eq_ok.mp generated
  cases found with
  | none =>
      cases generated
      rfl
  | some vulnerability =>
      obtain ⟨candidate, -, generated⟩ := bind_eq_ok.mp generated
      have stored := mem_cveIds_of_getVulnerability (mapError_eq_ok.mp isRead)
      have kept {database : Database}
          (same : database = store.tables.database ∨
            database = store.tables.database.upsertVulnerability
              { vulnerability with domainGuess := (classifyDomain lower vulnerability).domain }) :
          { store.tables with database }.cveIds = store.tables.cveIds := by
        rcases same with rfl | rfl
        · rfl
        · rw [cveIds_upsertVulnerability, if_pos stored]
      have tables : next.tables.database = store.tables.database ∨
          next.tables.database = store.tables.database.upsertVulnerability
            { vulnerability with domainGuess := (classifyDomain lower vulnerability).domain } := by
        cases candidate with
        | none =>
            cases generated
            exact ite_eq_or_eq _ _ _ |>.symm
        | some candidate =>
            cases generated
            exact ite_eq_or_eq _ _ _ |>.symm
      exact kept tables

/-- Generating candidates adds no vulnerability. -/
theorem cveIds_regenerateCandidates {experimentsDir : Option (Option Listing)}
    {isRegenerating : Bool} {touched : List String} {reading : ℕ} {store final : SyncStore}
    (generated : regenerateCandidates texts lower parser weights clock experimentsDir isRegenerating
      touched reading store = .ok final) :
    final.tables.cveIds = store.tables.cveIds := by
  unfold regenerateCandidates at generated
  split_ifs at generated
  · obtain ⟨experimentIdsByCve, -, generated⟩ := bind_eq_ok.mp generated
    exact @foldlM_preserves _ _ _ _ (fun next => next.tables.cveIds = store.tables.cveIds)
      (fun stepped kept => (cveIds_regenerateCandidate stepped).trans kept) _ _ _ generated rfl
  · cases generated
    rfl

end Regenerate

/-! ## The outcome -/

section Outcome

variable {texts : Texts} {library : Library} {readFloat : Json → Except Problem ℚ}
  {lower : String → String} {parser : Parser} {weights : PriorityWeights} {clock : ℕ → DateTime}
  {feed : Feed} {syncId : String} {since : Option Timestamp}
  {experimentsDir : Option (Option Listing)} {isRegenerating : Bool} {store final : SyncStore}
  {sync : IntelligenceSync}

theorem tables_of_saveSync {next : SyncStore} (saved : store.saveSync sync = .ok next) :
    next.tables = store.tables := by
  unfold SyncStore.saveSync at saved
  dsimp only at saved
  split_ifs at saved
  cases saved
  rfl

/-- The fetch of a feed ended with a failure. -/
def Feed.Failed (feed : Feed) : Prop :=
  ∃ failure, feed.ending = .failed failure

/-- What a synchronisation does when it returns: the records are counted, and the status is that of
the counts unless the fetch failed. -/
theorem runSync_spec
    (ran : runSync texts library readFloat lower parser weights clock feed syncId since
      experimentsDir
      isRegenerating store = .ok (sync, final)) :
    ∃ progress, Accounted store.tables.cveIds progress ∧
      final.tables.cveIds = progress.tables.cveIds ∧
      sync.fetchedCount = progress.fetched ∧ sync.createdCount = progress.created ∧
      sync.updatedCount = progress.updated ∧ sync.unchangedCount = progress.unchanged ∧
      sync.failedCount = progress.failed ∧
      (feed.Failed ∧ sync.status = .failed ∨
        ¬ feed.Failed ∧ sync.status = syncStatus progress.fetched progress.failed) := by
  obtain ⟨started, saved, ran⟩ := bind_eq_ok.mp ran
  obtain ⟨progress, processed, ran⟩ := bind_eq_ok.mp ran
  have tables := tables_of_saveSync saved
  have accounted : Accounted store.tables.cveIds progress := by
    refine Accounted.processRecords (mapError_eq_ok.mp processed) ⟨rfl, [], ?_, rfl⟩
    rw [List.append_nil]
    exact congrArg Tables.cveIds tables
  refine ⟨progress, accounted, ?_⟩
  cases ended : feed.ending with
  | failed failure =>
      have failed : feed.Failed := ⟨failure, ended⟩
      rw [ended] at ran
      cases failure with
      | typeError => cases ran
      | connectorFetch message =>
          obtain ⟨stored, last, same⟩ := bind_eq_ok.mp ran
          cases same
          have kept := tables_of_saveSync last
          exact ⟨congrArg Tables.cveIds kept, rfl, rfl, rfl, rfl, rfl, .inl ⟨failed, rfl⟩⟩
  | complete | capped =>
      have succeeded : ¬ feed.Failed := by
        rintro ⟨failure, other⟩
        cases ended.symm.trans other
      rw [ended] at ran
      obtain ⟨generated, isGenerated, ran⟩ := bind_eq_ok.mp ran
      obtain ⟨stored, last, same⟩ := bind_eq_ok.mp ran
      cases same
      have kept := congrArg Tables.cveIds (tables_of_saveSync last)
      refine ⟨kept.trans (cveIds_regenerateCandidates isGenerated), rfl, rfl, rfl, rfl, rfl, ?_⟩
      exact .inr ⟨succeeded, rfl⟩

theorem syncStatus_completed_iff {fetched failed : ℕ} (counted : failed ≤ fetched) :
    syncStatus fetched failed = .completed ↔ failed = 0 := by
  unfold syncStatus
  split_ifs with none_failed some_failed
  · exact iff_of_true rfl (by omega)
  · exact iff_of_false nofun (by omega)
  · exact iff_of_false nofun (by omega)

theorem syncStatus_failed_iff {fetched failed : ℕ} (counted : failed ≤ fetched) :
    syncStatus fetched failed = .failed ↔ failed = fetched ∧ 0 < fetched := by
  unfold syncStatus
  split_ifs with none_failed some_failed
  · exact iff_of_false nofun (by omega)
  · exact iff_of_false nofun (by omega)
  · exact iff_of_true rfl (by omega)

theorem syncStatus_partially_iff {fetched failed : ℕ} :
    syncStatus fetched failed = .partially ↔ 0 < failed ∧ failed < fetched := by
  unfold syncStatus
  split_ifs with none_failed some_failed
  · exact iff_of_false nofun (by omega)
  · exact iff_of_true rfl (by omega)
  · exact iff_of_false nofun (by omega)

/-- The counts of a synchronisation add up, the created ones are the vulnerabilities which were not
stored before, and the status is that of the fetch and the counts. -/
theorem sync_accounting
    (ran : runSync texts library readFloat lower parser weights clock feed syncId since
      experimentsDir
      isRegenerating store = .ok (sync, final)) :
    sync.fetchedCount =
        sync.createdCount + sync.updatedCount + sync.unchangedCount + sync.failedCount ∧
      store.tables.cveIds ⊆ final.tables.cveIds ∧
      sync.createdCount =
        (final.tables.cveIds.filter fun cveId => cveId ∉ store.tables.cveIds).length ∧
      (feed.Failed → sync.status = .failed) ∧
      (¬ feed.Failed →
        (sync.status = .completed ↔ sync.failedCount = 0) ∧
        (sync.status = .failed ↔ sync.failedCount = sync.fetchedCount ∧ 0 < sync.fetchedCount) ∧
        (sync.status = .partially ↔
          0 < sync.failedCount ∧ sync.failedCount < sync.fetchedCount)) := by
  obtain ⟨progress, ⟨total, new, ids, created⟩, kept, fetchedCount, createdCount, updatedCount,
    unchangedCount, failedCount, status⟩ := runSync_spec ran
  have distinct : (store.tables.cveIds ++ new).Nodup := by
    rw [← ids, ← kept]
    exact final.tables.database.vulnerabilities.distinct
  have counted : progress.failed ≤ progress.fetched := by omega
  rw [fetchedCount, createdCount, updatedCount, unchangedCount, failedCount, kept, ids]
  refine ⟨total, List.subset_append_left _ _, ?_, ?_, ?_⟩
  · have before : (store.tables.cveIds.filter fun cveId => cveId ∉ store.tables.cveIds) = [] := by
      rw [List.filter_eq_nil_iff]
      intro cveId member
      simp [member]
    have added : (new.filter fun cveId => cveId ∉ store.tables.cveIds) = new := by
      rw [List.filter_eq_self]
      intro cveId member
      have apart := List.disjoint_of_nodup_append distinct
      exact decide_eq_true fun known => apart known member
    rw [List.filter_append, before, added, List.nil_append, created]
  · intro failed
    rcases status with ⟨-, status⟩ | ⟨succeeded, -⟩
    · exact status
    · exact absurd failed succeeded
  · intro succeeded
    rcases status with ⟨failed, -⟩ | ⟨-, status⟩
    · exact absurd failed succeeded
    · rw [status]
      exact ⟨syncStatus_completed_iff counted, syncStatus_failed_iff counted,
        syncStatus_partially_iff⟩

end Outcome

namespace RunSyncSample

def parser : Parser where
  loads _ := .error (.jsonDecode "Expecting value")
  readFields _ := .error ⟨"ExperimentDefinition", []⟩
  str _ := "1 validation error"

/-- An advisory on a vulnerability. -/
def advisory (identifier cveId : String) : RawIntelligenceRecord where
  source := .githubAdvisory
  externalId := identifier
  raw := [("cve_id", .str cveId)]

/-- An advisory without a vulnerability. -/
def unlinked : RawIntelligenceRecord where
  source := .githubAdvisory
  externalId := "GHSA-4"
  raw := []

/-- A failing advisory, two on one vulnerability and one without any, and then a failed fetch. -/
def feed : Feed where
  source := .githubAdvisory
  isVendorAdvisory := true
  records :=
    [SyncSample.record, advisory "GHSA-2" "CVE-2024-00002", advisory "GHSA-3" "CVE-2024-00002",
      unlinked]
  ending := .failed (.connectorFetch "response was not valid JSON")

end RunSyncSample

theorem sync_accounting_of_sample :
    ∃ (sync : IntelligenceSync) (final : SyncStore),
      runSync SyncSample.texts SyncSample.library SyncSample.readFloat lower RunSyncSample.parser {}
          (fun _ => 0) RunSyncSample.feed "sync-1" none none true {} = .ok (sync, final) ∧
        sync.failedCount = 1 ∧ sync.unchangedCount = 2 ∧
        sync.fetchedCount =
          sync.createdCount + sync.updatedCount + sync.unchangedCount + sync.failedCount ∧
        sync.createdCount = (final.tables.cveIds.filter fun cveId =>
          cveId ∉ (({} : SyncStore).tables.cveIds)).length ∧
        sync.status = .failed := by
  obtain ⟨sync, final, ran, failedCount, unchangedCount⟩ : ∃ sync final,
      runSync SyncSample.texts SyncSample.library SyncSample.readFloat lower RunSyncSample.parser {}
          (fun _ => 0) RunSyncSample.feed "sync-1" none none true {} = .ok (sync, final) ∧
        sync.failedCount = 1 ∧ sync.unchangedCount = 2 := ⟨_, _, rfl, rfl, rfl⟩
  obtain ⟨total, -, created, failed, -⟩ := sync_accounting ran
  exact ⟨sync, final, ran, failedCount, unchangedCount, total, created, failed ⟨_, rfl⟩⟩

end ZeroShield.Intelligence
