import ZeroShield.Assurance.PendingCandidates
import Mathlib.Data.List.Induction

/-!
# Comparable validations

Validations are compared and averaged within one control version.  A control version stands for a
domain, a mitigation strategy and a version label, and not for one experiment.
-/

namespace ZeroShield.Assurance

open Foundation Models Platform StringEnum Transaction

/-! ## What is compared and averaged -/

/-- The last two validations of a control version, which are compared after a run. -/
def compared (store : AssuranceStore) (controlId versionId : String) :
    Option (ControlValidation × ControlValidation) :=
  match ((listValidations store controlId).filter (·.versionId = versionId)).reverse with
  | latest :: previous :: _ => some (previous, latest)
  | _ => none

/-- The validations of the version which was validated last. -/
def currentVersionValidations (validations : List ControlValidation) : List ControlValidation :=
  match validations.getLast? with
  | none => []
  | some latest => validations.filter (·.versionId = latest.versionId)

structure ControlEffectivenessSummary where
  controlId : String
  currentVersionId : Option String
  currentVersionLabel : Option String
  validationCountCurrentVersion : ℕ
  totalValidationCount : ℕ
  meanBlockRateImprovementCurrentVersion : Option ℚ
  latestVerdict : Option String
  previousVerdict : Option String
  lastValidatedAt : Option DateTime
  trend : List ControlValidation
  comparabilityNote : String :=
    "Aggregate metrics are computed only across validations of the same control version - " ++
      "results are never averaged across versions with a different domain, strategy, or " ++
      "experiment-definition version."

/-- Summarise the validations of a control, oldest first. -/
def summariseEffectiveness (controlId : String) (validations : List ControlValidation) :
    Option ControlEffectivenessSummary :=
  match validations.reverse with
  | [] => none
  | latest :: earlier =>
      let current := currentVersionValidations validations
      let mean := (current.map (·.blockRateImprovement)).sum / current.length
      some
        { controlId
          currentVersionId := some latest.versionId
          currentVersionLabel := some latest.versionId
          validationCountCurrentVersion := current.length
          totalValidationCount := validations.length
          meanBlockRateImprovementCurrentVersion := some (roundHalfEven (mean * 10000) / 10000)
          latestVerdict := some latest.verdictLabel
          previousVerdict := earlier.head?.map (·.verdictLabel)
          lastValidatedAt := some latest.validatedAt
          trend := validations }

/-- The validation which is recorded for a run. -/
def validationOf (binding : ControlBinding) (experiment : ExperimentDefinition)
    (comparison : ComparisonReport) (now : DateTime) (hex : String) : ControlValidation where
  validationId := "VAL-" ++ hex
  controlId := binding.control.controlId
  versionId := binding.version.versionId
  experimentId := experiment.experimentId
  baselineRunId := comparison.baselineRunId
  mitigationRunId := comparison.mitigationRunId
  totalCases := comparison.totalCases
  blockRateImprovement := comparison.blockRateImprovement
  falsePositiveRate := comparison.mitigationMetrics.falsePositiveRate
  falseNegativeRate := comparison.mitigationMetrics.falseNegativeRate
  validAcceptanceRate := comparison.mitigationMetrics.validAcceptanceRate
  parserReachRate := comparison.mitigationMetrics.parserReachRate
  latencyOverheadMs := comparison.latencyOverheadMs
  verdictLabel := value (Verdict.computeVerdict comparison none Verdict.defaultThresholds now).label
  validatedAt := now

/-- The candidate which is raised for a regression. -/
def regressionFinding (binding : ControlBinding) (experiment : ExperimentDefinition)
    (validationId : String) (result : RegressionResult) : Finding where
  controlId := binding.control.controlId
  experimentId := some experiment.experimentId
  triggerType := value RevalidationTrigger.regression
  triggerDetail :=
    s!"Deterministic regression detected for {binding.control.controlId} " ++
      s!"({binding.version.versionLabel}) at validation {validationId}: " ++
      String.intercalate "; " result.reasons

/-- The store after a validation is recorded, before anything is compared. -/
def withValidation (store : AssuranceStore) (validation : ControlValidation) : AssuranceStore :=
  { store with issued := store.issued + 1, validations := store.validations ++ [validation] }

/-- After a run is recorded, the last two validations of its control version are compared, and a
regression raises a candidate. -/
theorem recordControlValidationAndCheckRegression_eq (binding : ControlBinding)
    (experiment : ExperimentDefinition) (comparison : ComparisonReport) (now : DateTime)
    (store : AssuranceStore) :
    let validation := validationOf binding experiment comparison now (hexText store.issued)
    let recorded := withValidation store validation
    (recordControlValidationAndCheckRegression binding experiment comparison now store).2 =
      match compared recorded binding.control.controlId binding.version.versionId with
      | none => recorded
      | some (previous, latest) =>
          if (detectRegressions previous latest).isRegression then
            (createCandidateIfNew now (regressionFinding binding experiment validation.validationId
              (detectRegressions previous latest)) recorded).2
          else recorded := by
  intro validation recorded
  have reads : recordControlValidationAndCheckRegression binding experiment comparison now store =
      (match ((listValidations recorded binding.control.controlId).filter
          (·.versionId = binding.version.versionId)).reverse with
        | latest :: previous :: _ => do
            if (detectRegressions previous latest).isRegression then
              let _ ← createCandidateIfNew now (regressionFinding binding experiment
                validation.validationId (detectRegressions previous latest))
              return ()
            else return ()
        | _ => return () : Query Unit) recorded := rfl
  rw [reads, compared]
  clear reads
  generalize ((listValidations recorded binding.control.controlId).filter
    (·.versionId = binding.version.versionId)).reverse = window
  rcases window with _ | ⟨latest, _ | ⟨previous, rest⟩⟩
  · rfl
  · rfl
  · dsimp only
    split
    · rw [bind_apply]
      split
      next created => rw [created]; rfl
      next failed => rw [failed]
    · rfl

/-! ## The experiments of the validations -/

/-- A request to record a completed run. -/
structure CompletedRun where
  experiment : ExperimentDefinition
  comparison : ComparisonReport
  now : DateTime

/-- The validations with the experiments for which they were recorded. -/
abbrev Provenance : Type :=
  List (ExperimentDefinition × ControlValidation)

/-- Record a run, and note the experiment of what is recorded. -/
def recordRun (state : AssuranceStore × Provenance) (run : CompletedRun) :
    AssuranceStore × Provenance :=
  let later := serve (.record run.experiment run.comparison run.now) state.1
  (later, state.2 ++
    (later.validations.drop state.1.validations.length).map fun validation =>
      (run.experiment, validation))

/-- Record runs one after the other. -/
def recordRuns (runs : List CompletedRun) : AssuranceStore × Provenance :=
  runs.foldl recordRun ({}, [])

/-- The validations were recorded for experiments which are pairwise related. -/
structure FromRuns (related : ExperimentDefinition → ExperimentDefinition → Prop)
    (provenance : Provenance) (validations : List ControlValidation) : Prop where
  recorded : ∀ validation ∈ validations, ∃ entry ∈ provenance, entry.2 = validation
  related : ∀ entry ∈ provenance, ∀ other ∈ provenance, entry.2 ∈ validations →
    other.2 ∈ validations → related entry.1 other.1

/-- What is compared and what is averaged was recorded for related experiments. -/
def ComparesRelated (related : ExperimentDefinition → ExperimentDefinition → Prop)
    (state : AssuranceStore × Provenance) : Prop :=
  (∀ controlId versionId previous latest,
      compared state.1 controlId versionId = some (previous, latest) →
        FromRuns related state.2 [previous, latest]) ∧
    ∀ controlId, FromRuns related state.2
      (currentVersionValidations (listValidations state.1 controlId))

/-- Experiments with one domain, mitigation strategy and version. -/
structure Comparable (left right : ExperimentDefinition) : Prop where
  domain : left.domain = right.domain
  mitigationStrategy : left.mitigationStrategy = right.mitigationStrategy
  version : left.version = right.version

/-- The control of an experiment. -/
def controlOf (experiment : ExperimentDefinition) : String :=
  controlIdFor (value experiment.domain) experiment.mitigationStrategy

/-- Every validation was recorded under the control version of its experiment, and control versions
have unique identifiers. -/
structure Tracked (provenance : Provenance) (store : AssuranceStore) : Prop where
  validations : store.validations = provenance.map (·.2)
  unique : (store.versions.map (·.versionId)).Nodup
  issued : ∀ version ∈ store.versions, ∃ number < store.issued,
    version.versionId = "CV-" ++ hexText number
  bound : ∀ entry ∈ provenance, ∃ version ∈ store.versions,
    version.versionId = entry.2.versionId ∧ version.controlId = controlOf entry.1 ∧
      version.versionLabel = entry.1.version

section Tracked

variable {provenance : Provenance} {store later : AssuranceStore}
  {experiment : ExperimentDefinition} {now : DateTime}

/-- What does not touch the validations and the control versions. -/
theorem Tracked.of_same (tracked : Tracked provenance store)
    (validations : later.validations = store.validations)
    (versions : later.versions = store.versions) (issued : store.issued ≤ later.issued) :
    Tracked provenance later where
  validations := validations.trans tracked.validations
  unique := versions ▸ tracked.unique
  issued := fun version member => by
    obtain ⟨number, below, named⟩ := tracked.issued version (versions ▸ member)
    exact ⟨number, below.trans_le issued, named⟩
  bound := fun entry member => versions ▸ tracked.bound entry member

theorem preserves_of_same {f : AssuranceStore → AssuranceStore}
    (same : ∀ store, (f store).validations = store.validations ∧
      (f store).versions = store.versions ∧ store.issued ≤ (f store).issued) :
    Preserves (Tracked provenance) (update f : Query Unit) :=
  Preserves.update fun store tracked =>
    tracked.of_same (same store).1 (same store).2.1 (same store).2.2

theorem uuid4_preserves : Preserves (Tracked provenance) uuid4 :=
  fun _ tracked => tracked.of_same rfl rfl (Nat.le_succ _)

theorem createCandidateIfNew_preserves (finding : Finding) :
    Preserves (Tracked provenance) (createCandidateIfNew now finding) := by
  refine Preserves.bind (Preserves.bind (Preserves.read _) fun rows => Preserves.lift _) ?_
  intro found
  cases found with
  | some candidate => exact Preserves.pure none
  | none =>
      refine Preserves.bind uuid4_preserves fun hex => ?_
      refine Preserves.bind (Preserves.bind (preserves_of_same fun _ => ⟨rfl, rfl, le_rfl⟩) ?_) ?_
      · exact fun _ => Preserves.pure _
      · exact fun _ => Preserves.pure _

/-- The control and the control version of an experiment exist. -/
def Bound (provenance : Provenance) (experiment : ExperimentDefinition) (binding : ControlBinding)
    (store : AssuranceStore) : Prop :=
  Tracked provenance store ∧ binding.control.controlId = controlOf experiment ∧
    binding.version ∈ store.versions ∧ binding.version.controlId = controlOf experiment ∧
    binding.version.versionLabel = experiment.version

theorem getOrCreateControl_binds {domain mitigationStrategyId name : String} :
    Triple (Tracked provenance) (getOrCreateControl domain mitigationStrategyId name now)
      (fun control store => Tracked provenance store ∧
        control.controlId = controlIdFor domain mitigationStrategyId)
      fun _ => Tracked provenance := by
  have lookup : Triple (Tracked provenance) (getControl (controlIdFor domain mitigationStrategyId))
      (fun found store => Tracked provenance store ∧ ∀ control, found = some control →
        control.controlId = controlIdFor domain mitigationStrategyId)
      fun _ => Tracked provenance :=
    Triple.of_read fun store tracked => ⟨tracked, fun control found => by
      simpa using List.find?_some found⟩
  refine lookup.bind fun found => ?_
  cases found with
  | some control => exact Triple.of_pure fun _ ⟨tracked, known⟩ => ⟨tracked, known control rfl⟩
  | none =>
      -- The new row is a control, and the ledger concerns versions and validations only.
      have insert : Triple
          (fun store => Tracked provenance store ∧ ∀ control : Control, none = some control →
            control.controlId = controlIdFor domain mitigationStrategyId)
          (Transaction.update fun store : AssuranceStore => { store with
            controls := store.controls ++ [{ controlId := controlIdFor domain mitigationStrategyId
                                             name, domain, mitigationStrategyId
                                             createdAt := now }] })
          (fun _ => Tracked provenance) (fun _ : AssuranceError => Tracked provenance) :=
        Triple.of_update fun store ⟨tracked, _⟩ => tracked.of_same rfl rfl le_rfl
      exact insert.bind fun _ => Triple.of_pure fun _ tracked => ⟨tracked, rfl⟩

/-- A control version is added under a fresh identifier. -/
theorem Tracked.append (tracked : Tracked provenance store) (version : ControlVersion)
    (named : version.versionId = "CV-" ++ hexText store.issued) :
    Tracked provenance
      { store with issued := store.issued + 1, versions := store.versions ++ [version] } where
  validations := tracked.validations
  unique := by
    rw [List.map_append, List.nodup_append]
    refine ⟨tracked.unique, List.nodup_singleton _, ?_⟩
    rintro _ member _ fresh rfl
    obtain ⟨old, stored, same⟩ := List.mem_map.mp member
    obtain ⟨number, below, issued⟩ := tracked.issued old stored
    obtain rfl := List.mem_singleton.mp fresh
    rw [show old.versionId = version.versionId from same, named, prefix_append_inj,
      hexText_inj] at issued
    omega
  issued := fun other member => by
    rcases List.mem_append.mp member with stored | fresh
    · obtain ⟨number, below, issued⟩ := tracked.issued other stored
      exact ⟨number, below.trans (Nat.lt_succ_self _), issued⟩
    · obtain rfl := List.mem_singleton.mp fresh
      exact ⟨store.issued, Nat.lt_succ_self _, named⟩
  bound := fun entry member => by
    obtain ⟨other, stored, bound⟩ := tracked.bound entry member
    exact ⟨other, List.mem_append_left _ stored, bound⟩

theorem getOrCreateControlVersion_binds
    {controlId versionLabel domainPackId templateId templateVersion : String} :
    Triple (Tracked provenance)
      (getOrCreateControlVersion controlId versionLabel domainPackId templateId templateVersion now)
      (fun version store => Tracked provenance store ∧ version ∈ store.versions ∧
        version.controlId = controlId ∧ version.versionLabel = versionLabel)
      fun _ => Tracked provenance := by
  intro store tracked
  simp only [getOrCreateControlVersion, read_bind]
  cases rows : store.versions.filter fun version =>
      version.controlId = controlId ∧ version.versionLabel = versionLabel with
  | nil =>
      have appended := tracked.append
        { versionId := "CV-" ++ hexText store.issued
          controlId, versionLabel, domainPackId, templateId, templateVersion
          createdAt := now } rfl
      exact ⟨appended, List.mem_append_right _ (List.mem_singleton_self _), rfl, rfl⟩
  | cons version others =>
      cases others with
      | cons => exact tracked
      | nil =>
          have member : version ∈ store.versions.filter _ := rows ▸ List.mem_cons_self
          obtain ⟨stored, matches_⟩ := List.mem_filter.mp member
          simp only [decide_eq_true_eq] at matches_
          exact ⟨tracked, stored, matches_⟩

theorem bindExperimentToControl_binds (experiment : ExperimentDefinition) (now : DateTime) :
    Triple (Tracked provenance) (bindExperimentToControl experiment now)
      (Bound provenance experiment) fun _ => Tracked provenance := by
  refine Triple.bind getOrCreateControl_binds fun control => ?_
  -- Which control was found is a fact about a value, not about the store.
  by_cases named : control.controlId = controlOf experiment
  · refine Triple.bind (getOrCreateControlVersion_binds.conseq (fun _ start => start.1)
      (fun _ _ reached => reached) fun _ _ failed => failed) fun version => ?_
    exact Triple.of_pure fun store ⟨tracked, stored, ofControl, labelled⟩ =>
      ⟨tracked, named, stored, ofControl.trans named, labelled⟩
  · exact fun _ start => absurd start.2 named

/-- A validation is recorded under the control version of its experiment. -/
theorem Bound.record {binding : ControlBinding} (bound : Bound provenance experiment binding store)
    {validation : ControlValidation} (version : validation.versionId = binding.version.versionId) :
    Tracked (provenance ++ [(experiment, validation)]) (withValidation store validation) := by
  obtain ⟨tracked, -, stored, ofControl, labelled⟩ := bound
  refine ⟨?_, tracked.unique, fun other member => ?_, fun entry member => ?_⟩
  · rw [List.map_append, ← tracked.validations]
    rfl
  · obtain ⟨number, below, issued⟩ := tracked.issued other member
    exact ⟨number, below.trans (Nat.lt_succ_self _), issued⟩
  · rcases List.mem_append.mp member with earlier | last
    · exact tracked.bound entry earlier
    · obtain rfl := List.mem_singleton.mp last
      exact ⟨binding.version, stored, version.symm, ofControl, labelled⟩

/-- Recording a run adds validations of its experiment only. -/
theorem serve_record_tracked (tracked : Tracked provenance store)
    (experiment : ExperimentDefinition) (comparison : ComparisonReport) (now : DateTime) :
    ∃ recorded : List ControlValidation,
      Tracked (provenance ++ recorded.map fun validation => (experiment, validation))
        (serve (.record experiment comparison now) store) := by
  have bound := bindExperimentToControl_binds experiment now store tracked
  simp only [serve, recordControlValidation, ignoreFailure, bind_apply]
  cases binds : bindExperimentToControl experiment now store with
  | mk result later =>
      rw [binds] at bound
      cases result with
      | error error => exact ⟨[], by simpa using bound⟩
      | ok binding =>
          refine ⟨[validationOf binding experiment comparison now (hexText later.issued)], ?_⟩
          have recorded := bound.record
            (rfl : (validationOf binding experiment comparison now
              (hexText later.issued)).versionId =
              binding.version.versionId)
          dsimp only
          rw [recordControlValidationAndCheckRegression_eq]
          split
          next => exact recorded
          next =>
            split
            · exact (createCandidateIfNew_preserves _).state recorded
            · exact recorded

end Tracked

/-- After every sequence of runs the validations are those whose experiments were noted. -/
theorem recordRuns_tracked (runs : List CompletedRun) :
    Tracked (recordRuns runs).2 (recordRuns runs).1 := by
  induction runs using List.reverseRecOn with
  | nil => exact ⟨rfl, List.nodup_nil, by simp [recordRuns], by simp [recordRuns]⟩
  | append_singleton runs run ih =>
      rw [recordRuns, List.foldl_append, List.foldl_cons, List.foldl_nil]
      change Tracked (recordRun (recordRuns runs) run).2 (recordRun (recordRuns runs) run).1
      obtain ⟨recorded, tracked⟩ :=
        serve_record_tracked ih run.experiment run.comparison run.now
      have added : (recordRun (recordRuns runs) run).1.validations.drop
          (recordRuns runs).1.validations.length = recorded := by
        have rows := tracked.validations
        rw [List.map_append, ← ih.validations] at rows
        rw [recordRun, rows]
        simp
      rw [recordRun] at added ⊢
      rw [added]
      exact tracked

/-! ## Comparability -/

theorem isWhiteSpace_of_strategy {c : Char} (allowed : c.isLower ∨ c.isDigit ∨ c = '_') :
    isWhiteSpace c = false := by
  have range : 48 ≤ c.toNat ∧ c.toNat ≤ 122 := by
    rcases allowed with lower | digit | rfl
    · delta Char.isLower at lower
      simp only [Bool.and_eq_true, decide_eq_true_eq] at lower
      have bounds : 97 ≤ c.toNat ∧ c.toNat ≤ 122 := lower
      omega
    · simp only [Char.isDigit, Bool.and_eq_true, decide_eq_true_eq] at digit
      have bounds : 48 ≤ c.toNat ∧ c.toNat ≤ 57 := digit
      omega
    · decide
  simp only [isWhiteSpace, Bool.or_eq_false_iff, Bool.and_eq_false_iff, decide_eq_false_iff_not]
  omega

/-- A strategy identifier has no white space which could be removed. -/
theorem strip_of_strategyId {strategyId : String} (valid : isStrategyId strategyId = true) :
    strip strategyId = strategyId := by
  have clean : ∀ c ∈ strategyId.toList, isWhiteSpace c = false := by
    unfold isStrategyId at valid
    split at valid
    case h_1 => cases valid
    case h_2 first rest letters =>
      simp only [Bool.and_eq_true, List.all_eq_true, Bool.or_eq_true, decide_eq_true_eq] at valid
      rw [letters]
      refine List.forall_mem_cons.mpr ⟨isWhiteSpace_of_strategy (.inl valid.1), fun c member => ?_⟩
      exact isWhiteSpace_of_strategy (or_assoc.mp (valid.2 c member))
  have kept {text : List Char} (clean : ∀ c ∈ text, isWhiteSpace c = false) :
      text.dropWhile isWhiteSpace = text := by
    cases text with
    | nil => rfl
    | cons c text => rw [List.dropWhile_cons_of_neg (by simp [clean c List.mem_cons_self])]
  rw [strip, kept clean, kept fun c member => clean c (List.mem_reverse.mp member),
    List.reverse_reverse, String.ofList_toList]

theorem upper_domain (domain : Domain) : upper (strip (value domain)) ++ ":" =
    match domain with
    | .vpn => "VPN:"
    | .telecom => "TELECOM:" := by
  cases domain <;> decide

/-- The control of a valid experiment names its domain and its mitigation strategy. -/
theorem controlOf_inj {left right : ExperimentDefinition} (valid : left.errors = [])
    (valid' : right.errors = []) (same : controlOf left = controlOf right) :
    left.domain = right.domain ∧ left.mitigationStrategy = right.mitigationStrategy := by
  have stripped {experiment : ExperimentDefinition} (valid : experiment.errors = []) :
      strip experiment.mitigationStrategy = experiment.mitigationStrategy := by
    have fields := (fieldsThenModel_eq_nil.mp valid).1
    simp only [ExperimentDefinition.fieldErrors, List.append_eq_nil_iff] at fields
    have strategy : requireStrategyId "mitigation_strategy" experiment.mitigationStrategy = [] := by
      simp only [fields]
    unfold requireStrategyId at strategy
    split at strategy
    · cases strategy
    · exact strip_of_strategyId (require_eq_nil.mp strategy)
  rw [controlOf, controlOf, controlIdFor, controlIdFor, stripped valid, stripped valid',
    upper_domain, upper_domain] at same
  cases domain : left.domain <;> cases domain' : right.domain <;> rw [domain, domain'] at same
  · exact ⟨rfl, prefix_append_inj.mp same⟩
  · simpa using congrArg (·.toList.head?) same
  · simpa using congrArg (·.toList.head?) same
  · exact ⟨rfl, prefix_append_inj.mp same⟩

theorem comparable_of_tracked {provenance : Provenance} {store : AssuranceStore}
    (tracked : Tracked provenance store) (valid : ∀ entry ∈ provenance, entry.1.errors = [])
    {entry other : ExperimentDefinition × ControlValidation} (member : entry ∈ provenance)
    (member' : other ∈ provenance) (same : entry.2.versionId = other.2.versionId) :
    Comparable entry.1 other.1 := by
  obtain ⟨version, stored, named, ofControl, labelled⟩ := tracked.bound entry member
  obtain ⟨version', stored', named', ofControl', labelled'⟩ := tracked.bound other member'
  obtain rfl : version = version' := List.inj_on_of_nodup_map tracked.unique stored stored'
    (named.trans (same.trans named'.symm))
  obtain ⟨domain, strategy⟩ := controlOf_inj (valid entry member) (valid other member')
    (ofControl.symm.trans ofControl')
  exact ⟨domain, strategy, labelled.symm.trans labelled'⟩

/-- What was recorded together was recorded for comparable experiments. -/
theorem fromRuns_of_sameVersion {provenance : Provenance} {store : AssuranceStore}
    (tracked : Tracked provenance store) (valid : ∀ entry ∈ provenance, entry.1.errors = [])
    {validations : List ControlValidation}
    (stored : ∀ validation ∈ validations, validation ∈ store.validations)
    (sameVersion : ∀ validation ∈ validations, ∀ other ∈ validations,
      validation.versionId = other.versionId) :
    FromRuns Comparable provenance validations where
  recorded := fun validation member => by
    have listed := stored validation member
    rw [tracked.validations] at listed
    exact List.mem_map.mp listed
  related := fun _ member _ member' listed listed' =>
    comparable_of_tracked tracked valid member member' (sameVersion _ listed _ listed')

theorem mem_listValidations {store : AssuranceStore} {controlId : String}
    {validation : ControlValidation} (listed : validation ∈ listValidations store controlId) :
    validation ∈ store.validations :=
  List.mem_of_mem_filter ((List.perm_insertionSort _ _).mem_iff.mp listed)

/-- The compared validations are stored and belong to the control version. -/
theorem mem_of_compared {store : AssuranceStore} {controlId versionId : String}
    {previous latest : ControlValidation}
    (compares : compared store controlId versionId = some (previous, latest))
    {validation : ControlValidation} (member : validation ∈ [previous, latest]) :
    validation ∈ store.validations ∧ validation.versionId = versionId := by
  unfold compared at compares
  split at compares
  next last before rest window =>
    obtain ⟨rfl, rfl⟩ : before = previous ∧ last = latest := by simpa using compares
    have listed : validation ∈ ((listValidations store controlId).filter
        (·.versionId = versionId)).reverse := by
      rw [window]
      rcases List.mem_pair.mp member with rfl | rfl
      · exact List.mem_cons_of_mem _ List.mem_cons_self
      · exact List.mem_cons_self
    obtain ⟨stored, version⟩ := List.mem_filter.mp (List.mem_reverse.mp listed)
    exact ⟨mem_listValidations stored, by simpa using version⟩
  next => cases compares

/-- The experiments which were noted are those of the runs. -/
theorem mem_recordRuns {runs : List CompletedRun} {entry : ExperimentDefinition × ControlValidation}
    (member : entry ∈ (recordRuns runs).2) : ∃ run ∈ runs, run.experiment = entry.1 := by
  induction runs using List.reverseRecOn with
  | nil => cases member
  | append_singleton runs run ih =>
      rw [recordRuns, List.foldl_append, List.foldl_cons, List.foldl_nil] at member
      rcases List.mem_append.mp member with earlier | last
      · obtain ⟨other, listed, same⟩ := ih earlier
        exact ⟨other, List.mem_append_left _ listed, same⟩
      · obtain ⟨validation, -, rfl⟩ := List.mem_map.mp last
        exact ⟨run, List.mem_append_right _ (List.mem_singleton_self _), rfl⟩

/-- After every sequence of runs of valid experiments, what is compared and what is averaged comes
from experiments with one domain, mitigation strategy and version. -/
theorem comparesComparable_of_runs (runs : List CompletedRun)
    (valid : ∀ run ∈ runs, run.experiment.errors = []) :
    ComparesRelated Comparable (recordRuns runs) := by
  have tracked := recordRuns_tracked runs
  have validEntries : ∀ entry ∈ (recordRuns runs).2, entry.1.errors = [] := by
    intro entry member
    obtain ⟨run, listed, same⟩ := mem_recordRuns member
    exact same ▸ valid run listed
  constructor
  · intro controlId versionId previous latest compares
    refine fromRuns_of_sameVersion tracked validEntries ?_ ?_
    · exact fun validation member => (mem_of_compared compares member).1
    · intro validation member other member'
      exact (mem_of_compared compares member).2.trans (mem_of_compared compares member').2.symm
  · intro controlId
    unfold currentVersionValidations
    split
    next => exact fromRuns_of_sameVersion tracked validEntries (by simp) (by simp)
    next latest _ =>
      refine fromRuns_of_sameVersion tracked validEntries ?_ ?_
      · exact fun validation member => mem_listValidations (List.mem_of_mem_filter member)
      · intro validation member other member'
        have version := (List.mem_filter.mp member).2
        have version' := (List.mem_filter.mp member').2
        exact (of_decide_eq_true version).trans (of_decide_eq_true version').symm

/-- One experiment definition: its identifier and its version. -/
def SameDefinition (left right : ExperimentDefinition) : Prop :=
  left.experimentId = right.experimentId ∧ left.version = right.version

namespace Sample

/-- A valid experiment on request validation. -/
def validated (experimentId : String) : ExperimentDefinition :=
  { experiment with
    experimentId
    relatedCves :=
      [{ cveId := "CVE-2024-21762"
         domain := .vpn
         cvssScore := none
         cisaKev := true
         epssScore := none
         trustBoundary := "internet to appliance"
         rootCause := .inputValidationFailure
         vendorMitigation := "upgrade"
         mitigationGap := "unpatched appliances"
         sourceUrls := [⟨"https://nvd.nist.gov/vuln/detail/CVE-2024-21762"⟩]
         retrievedDate := 19737 }] }

/-- Runs of two experiments which share the strategy and the default version. -/
def runs : List CompletedRun :=
  [⟨validated "ZC-VPN-EXP-001", comparison, 1⟩, ⟨validated "ZC-VPN-EXP-002", comparison, 2⟩]

theorem runs_valid : ∀ run ∈ runs, run.experiment.errors = [] := by
  decide +kernel

end Sample

/-- The runs of the two sample experiments are compared, which have one domain, strategy and
version. -/
theorem comparesComparable_of_sample :
    ComparesRelated Comparable (recordRuns Sample.runs) ∧
      (compared (recordRuns Sample.runs).1 Sample.controlId "CV-0").isSome = true :=
  ⟨comparesComparable_of_runs Sample.runs Sample.runs_valid, by decide +kernel⟩

/-- Validations of two different experiments are compared. -/
theorem not_comparesSameDefinition :
    ¬ ∀ runs, (∀ run ∈ runs, run.experiment.errors = []) →
      ComparesRelated SameDefinition (recordRuns runs) := by
  intro claim
  have related := (claim Sample.runs Sample.runs_valid).1 Sample.controlId "CV-0"
  have differ : (compared (recordRuns Sample.runs).1 Sample.controlId "CV-0").any
      (fun pair => (recordRuns Sample.runs).2.any (fun entry =>
          entry.2 = pair.1 ∧ entry.1.experimentId = "ZC-VPN-EXP-001") &&
        (recordRuns Sample.runs).2.any fun entry =>
          entry.2 = pair.2 ∧ entry.1.experimentId = "ZC-VPN-EXP-002") = true := by
    decide +kernel
  obtain ⟨⟨previous, latest⟩, compares, entries⟩ := (Option.any_eq_true _ _).mp differ
  simp only [Bool.and_eq_true, List.any_eq_true, decide_eq_true_eq] at entries
  obtain ⟨⟨first, member, before, named⟩, second, member', after, named'⟩ := entries
  have same := ((related previous latest compares).related first member second member'
    (by simp [before]) (by simp [after])).1
  rw [named, named'] at same
  exact absurd same (by decide)

end ZeroShield.Assurance
