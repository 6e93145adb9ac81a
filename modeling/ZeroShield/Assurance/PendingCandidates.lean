import ZeroShield.Assurance.Revalidation
import Mathlib.Logic.Relation

/-!
# One pending candidate for each trigger

The scan and the worker look for a pending candidate before they create one; the manual route does
not.  As long as it is used only for triggers which are not pending, there is never a second pending
candidate, and so no later look-up finds several.
-/

namespace ZeroShield.Assurance

open Foundation Models Platform StringEnum Transaction

/-- No control has two pending candidates for one trigger. -/
def OnePending (store : AssuranceStore) : Prop :=
  ∀ controlId triggerType, (pendingCandidates store controlId triggerType).length ≤ 1

theorem onePending_of_candidates {store later : AssuranceStore}
    (same : later.candidates = store.candidates) (one : OnePending store) : OnePending later := by
  intro controlId triggerType
  rw [pendingCandidates, same]
  exact one controlId triggerType

/-- With at most one pending candidate the look-up succeeds and tells whether there is one. -/
theorem findPendingCandidate_triple (controlId triggerType : String) :
    Triple OnePending (findPendingCandidate controlId triggerType)
      (fun found store =>
        OnePending store ∧ (found = none → pendingCandidates store controlId triggerType = []))
      fun _ _ => False := by
  intro store one
  have bound := one controlId triggerType
  simp only [findPendingCandidate, read_bind, Transaction.lift]
  cases rows : pendingCandidates store controlId triggerType with
  | nil => exact ⟨one, fun _ => rows⟩
  | cons first rest =>
      rw [rows] at bound
      cases rest with
      | nil => exact ⟨one, fun absent => by cases absent⟩
      | cons second rest => simp at bound

/-- A candidate is added where none is pending. -/
theorem onePending_append {store : AssuranceStore} {candidate : RevalidationCandidate}
    (one : OnePending store)
    (free : pendingCandidates store candidate.controlId candidate.triggerType = []) :
    OnePending { store with candidates := store.candidates ++ [candidate] } := by
  intro controlId triggerType
  have bound := one controlId triggerType
  simp only [pendingCandidates, List.filter_append, List.length_append] at bound ⊢
  by_cases same : candidate.controlId = controlId ∧ candidate.triggerType = triggerType
  · obtain ⟨rfl, rfl⟩ := same
    simp only [pendingCandidates] at free
    rw [free, List.length_nil, Nat.zero_add]
    exact List.length_filter_le _ [candidate]
  · have other : [candidate].filter (fun candidate => candidate.controlId = controlId ∧
        candidate.triggerType = triggerType ∧ candidate.status = .pending) = [] := by
      simp only [List.filter_eq_nil_iff, List.mem_singleton, decide_eq_true_eq]
      rintro _ rfl ⟨sameControl, sameTrigger, -⟩
      exact same ⟨sameControl, sameTrigger⟩
    rw [other]
    exact bound

/-- Creating a candidate where none is pending. -/
theorem createCandidate_triple (candidate : RevalidationCandidate) :
    Triple
      (fun store => OnePending store ∧
        pendingCandidates store candidate.controlId candidate.triggerType = [])
      (createCandidate candidate) (fun _ => OnePending) fun _ _ => False := by
  refine Triple.bind (Triple.of_update ?_) fun _ => Triple.of_pure fun _ reached => reached
  rintro store ⟨one, free⟩
  exact onePending_append one free

theorem createCandidateIfNew_keeps (now : DateTime) (finding : Finding) :
    Keeps OnePending (createCandidateIfNew now finding) := by
  refine Triple.bind (findPendingCandidate_triple finding.controlId finding.triggerType) ?_
  intro found
  cases found with
  | some candidate => exact Triple.of_pure fun _ ⟨one, _⟩ => one
  | none =>
      have fresh : Triple
          (fun store => OnePending store ∧ ((none : Option RevalidationCandidate) = none →
            pendingCandidates store finding.controlId finding.triggerType = []))
          uuid4
          (fun _ store => OnePending store ∧
            pendingCandidates store finding.controlId finding.triggerType = [])
          fun _ _ => False :=
        fun store ⟨one, free⟩ => ⟨onePending_of_candidates rfl one, free rfl⟩
      refine Triple.bind fresh fun hex => ?_
      refine Triple.bind (?_ : Triple _ _ (fun _ => OnePending) _) fun candidate => ?_
      · exact createCandidate_triple
          { candidateId := "REVAL-" ++ hex, controlId := finding.controlId
            experimentId := finding.experimentId, triggerType := finding.triggerType
            triggerDetail := finding.triggerDetail, createdAt := now }
      · exact Triple.of_pure fun _ one => one

/-! ## Requests -/

/-- Every look-up of an experiment returns. -/
def ScanServices.Loadable (services : ScanServices) : Prop :=
  ∀ experimentId, ∃ found, services.findExperiment experimentId = .ok found

section Scan

variable {services : ScanServices} {stalenessWindow : ℤ} {now : DateTime}

theorem scan_apply (services : ScanServices) (stalenessWindow : ℤ) (now : DateTime)
    (store : AssuranceStore) :
    scan services stalenessWindow now store =
      (Transaction.collect (createCandidateIfNew now)
          (scanFindings services store stalenessWindow now).found >>= fun created =>
        match (scanFindings services store stalenessWindow now).failure with
        | some failure => Transaction.fail (.discovery failure)
        | none => do
            let controls ← Transaction.read listControls
            return { candidatesCreated := created, controlsScanned := controls.length }) store :=
  rfl

/-- No failure ends a scan exactly when none ends a part of it. -/
theorem Findings.failure_foldr {parts : List Findings} :
    (parts.foldr andThen { found := [], failure := none }).failure = none ↔
      ∀ part ∈ parts, part.failure = none := by
  induction parts with
  | nil => simp
  | cons part parts ih =>
      rw [List.foldr_cons, List.forall_mem_cons, ← ih, andThen]
      cases ended : part.failure with
      | none => simp
      | some failure => simp [ended]

theorem Findings.found_foldr {parts : List Findings}
    (returned : ∀ part ∈ parts, part.failure = none) :
    (parts.foldr andThen { found := [], failure := none }).found =
      parts.flatMap Findings.found := by
  induction parts with
  | nil => rfl
  | cons part parts ih =>
      obtain ⟨first, others⟩ := List.forall_mem_cons.mp returned
      rw [List.foldr_cons, andThen, first, List.flatMap_cons, ih others]

/-- While every experiment can be looked up, no look-up ends a scan. -/
theorem failure_scanFindings (loadable : services.Loadable) {store : AssuranceStore} :
    (scanFindings services store stalenessWindow now).failure = none := by
  refine Findings.failure_foldr.mpr (List.forall_mem_map.mpr fun control _ => ?_)
  unfold controlFindings
  dsimp only
  split
  next => rfl
  next latest _ =>
    obtain ⟨found, lookedUp⟩ := loadable latest.experimentId
    rw [lookedUp]

/-- A scan which can look up every experiment returns. -/
theorem scan_keeps (loadable : services.Loadable) (stalenessWindow : ℤ) (now : DateTime) :
    Keeps OnePending (scan services stalenessWindow now) := by
  intro store one
  rw [scan_apply, failure_scanFindings loadable]
  refine Triple.bind (Triple.of_collect fun finding _ => ?_) (fun created => ?_) store one
  · exact createCandidateIfNew_keeps now finding
  · exact Triple.bind (Triple.read _) fun controls => Triple.of_pure fun _ one => one

end Scan

/-- One guarded request. -/
def Step (guard : AssuranceStore → AssuranceRequest → Prop) (store later : AssuranceStore) : Prop :=
  ∃ request, guard store request ∧ later = serve request store

/-- The stores reached by guarded requests. -/
def Reaches (guard : AssuranceStore → AssuranceRequest → Prop) : AssuranceStore →
    AssuranceStore → Prop :=
  Relation.ReflTransGen (Step guard)

section Completion

variable {parser : Experiments.Parser} {directory : Option Experiments.Listing}
  {store : AssuranceStore}

end Completion

namespace Sample

theorem reviewer_named : "reviewer" ≠ "" := by decide

def reviewer : User where
  userId := "u-1"
  username := "reviewer"
  role := .reviewer
  usernameNonempty := reviewer_named

def metrics (runId : String) : ExperimentMetrics where
  runId
  processingSuccessRate := 1
  blockRate := 1
  validAcceptanceRate := 1
  falsePositiveRate := 0
  falseNegativeRate := 0
  parserReachRate := 0
  meanLatencyMs := 1
  logCompletenessRate := 1
  calculatedAt := 0
  calculationVersion := "1.0.0"

/-- The comparison of a completed run. -/
def comparison : ComparisonReport where
  experimentId := "ZC-VPN-EXP-001"
  baselineRunId := "RUN-001"
  mitigationRunId := "RUN-002"
  totalCases := 6
  baselineMetrics := metrics "RUN-001"
  mitigationMetrics := metrics "RUN-002"
  blockRateImprovement := 0
  latencyOverheadMs := 0
  limitations := ["synthetic"]
  generatedAt := 0

def experiment : ExperimentDefinition where
  experimentId := "ZC-VPN-EXP-001"
  title := "Schema canonicalisation"
  domain := .vpn
  description := "Pre-authentication request validation"
  relatedCves := []
  failurePattern := "pre_auth_request_schema_validation"
  rootCause := .inputValidationFailure
  vendorMitigation := "upgrade"
  mitigationGap := "unpatched appliances"
  researchQuestion := "Does canonicalisation block malformed requests?"
  hypothesis := "It does"
  safetyLevel := .syntheticOnly
  baselineStrategy := "weak_schema_length_baseline"
  mitigationStrategy := "strict_schema_canonicalisation_mitigation"
  datasetPath := ⟨"", ["datasets", "vpn.json"]⟩
  metricsToCollect := [.blockRate]

def controlId : String := "VPN:strict_schema_canonicalisation_mitigation"

/-- A manual request for the sample control. -/
def raised : CreateRevalidationCandidateRequest where
  controlId := controlId
  triggerType := "advisory_update"
  triggerDetail := "vendor advisory changed"

/-- The store after a completed run and one manual request. -/
def store : AssuranceStore :=
  serve (.raise raised reviewer 2) (serve (.record experiment comparison 1) {})

/-- A directory with one file, which is no JSON. -/
def directory : Experiments.Listing where
  entries := [("notes.json", .file (encodeUtf8 "notes"))]
  distinct := List.nodup_singleton _

def parser : Experiments.Parser where
  loads _ := .error (.jsonDecode "Expecting value: line 1 column 1 (char 0)")
  readFields _ := .ok experiment
  str _ := ""

theorem handled : ∀ entry ∈ Experiments.jsonEntriesOf (some directory),
    entry.2.Handled parser := by
  rw [Experiments.jsonEntriesOf, Option.elim_some,
    Experiments.Listing.jsonEntries_singleton rfl (by decide), List.forall_mem_singleton]
  refine ⟨"notes", ?_, fun failure => by rintro ⟨⟩⟩
  rw [Experiments.Entry.readText, readText_encodeUtf8 (by decide)]
  rfl

end Sample

end ZeroShield.Assurance
