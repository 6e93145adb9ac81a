import ZeroShield.Assurance.PendingCandidates

/-!
# What a scan leaves

After a scan the pending candidates are those which were pending before and those of its findings,
so that a second scan creates nothing.
-/

namespace ZeroShield.Assurance

open Foundation Models Platform StringEnum Transaction

/-- A candidate is pending for a control and a trigger. -/
def HasPending (store : AssuranceStore) (controlId triggerType : String) : Prop :=
  pendingCandidates store controlId triggerType ≠ []

/-- The tables from which a scan takes its findings are the same. -/
structure SameControls (store later : AssuranceStore) : Prop where
  controls : later.controls = store.controls
  versions : later.versions = store.versions
  validations : later.validations = store.validations

theorem SameControls.refl (store : AssuranceStore) : SameControls store store :=
  ⟨rfl, rfl, rfl⟩

theorem SameControls.trans {store middle later : AssuranceStore} (first : SameControls store middle)
    (second : SameControls middle later) : SameControls store later :=
  ⟨second.controls.trans first.controls, second.versions.trans first.versions,
    second.validations.trans first.validations⟩

/-- What creating candidates for findings does. -/
structure Creates (findings : List Finding) (store later : AssuranceStore)
    (created : List RevalidationCandidate) : Prop where
  same : SameControls store later
  pending : ∀ controlId triggerType, HasPending later controlId triggerType ↔
    HasPending store controlId triggerType ∨
      ∃ finding ∈ findings, finding.controlId = controlId ∧ finding.triggerType = triggerType
  nothing : (∀ finding ∈ findings, HasPending store finding.controlId finding.triggerType) →
    later = store ∧ created = []

section Creating

variable {store later : AssuranceStore} {now : DateTime} {finding : Finding}

/-- The candidate which is created for a finding. -/
def candidateOf (store : AssuranceStore) (now : DateTime) (finding : Finding) :
    RevalidationCandidate where
  candidateId := "REVAL-" ++ hexText store.issued
  controlId := finding.controlId
  experimentId := finding.experimentId
  triggerType := finding.triggerType
  triggerDetail := finding.triggerDetail
  createdAt := now

theorem createCandidateIfNew_of_absent
    (absent : pendingCandidates store finding.controlId finding.triggerType = []) :
    createCandidateIfNew now finding store =
      (.ok (some (candidateOf store now finding)),
        { store with
          issued := store.issued + 1
          candidates := store.candidates ++ [candidateOf store now finding] }) := by
  rw [createCandidateIfNew, bind_apply, findPendingCandidate, read_bind, absent]
  rfl

theorem createCandidateIfNew_of_single {row : RevalidationCandidate}
    (single : pendingCandidates store finding.controlId finding.triggerType = [row]) :
    createCandidateIfNew now finding store = (.ok none, store) := by
  rw [createCandidateIfNew, bind_apply, findPendingCandidate, read_bind, single]
  rfl

theorem createCandidateIfNew_of_several {first second : RevalidationCandidate}
    {rest : List RevalidationCandidate}
    (several : pendingCandidates store finding.controlId finding.triggerType =
      first :: second :: rest) :
    createCandidateIfNew now finding store = (.error .multipleResultsFound, store) := by
  rw [createCandidateIfNew, bind_apply, findPendingCandidate, read_bind, several]
  rfl

theorem hasPending_append {candidate : RevalidationCandidate}
    (isPending : candidate.status = .pending)
    (candidates : later.candidates = store.candidates ++ [candidate])
    (controlId triggerType : String) :
    HasPending later controlId triggerType ↔ HasPending store controlId triggerType ∨
      (candidate.controlId = controlId ∧ candidate.triggerType = triggerType) := by
  simp [HasPending, pendingCandidates, candidates, List.filter_append, List.filter_eq_nil_iff,
    isPending, or_iff_not_imp_left]

/-- Creating a candidate for one finding. -/
theorem createCandidateIfNew_creates {created : Option RevalidationCandidate}
    (returned : createCandidateIfNew now finding store = (.ok created, later)) :
    Creates [finding] store later created.toList := by
  cases rows : pendingCandidates store finding.controlId finding.triggerType with
  | nil =>
      rw [createCandidateIfNew_of_absent rows] at returned
      cases returned
      refine ⟨⟨rfl, rfl, rfl⟩, ?_, fun all => absurd rows (all finding List.mem_cons_self)⟩
      intro controlId triggerType
      simp only [List.mem_singleton, exists_eq_left]
      exact @hasPending_append _ _ (candidateOf store now finding) rfl rfl controlId triggerType
  | cons first rest =>
      cases rest with
      | nil =>
          rw [createCandidateIfNew_of_single rows] at returned
          cases returned
          refine ⟨.refl store, ?_, fun _ => ⟨rfl, rfl⟩⟩
          intro controlId triggerType
          simp only [List.mem_singleton, exists_eq_left]
          refine (or_iff_left_of_imp ?_).symm
          rintro ⟨rfl, rfl⟩
          rw [HasPending, rows]
          exact List.cons_ne_nil first []
      | cons second rest =>
          rw [createCandidateIfNew_of_several rows] at returned
          cases returned

/-- Creating candidates for one finding after another. -/
theorem collect_creates {findings : List Finding} {created : List RevalidationCandidate}
    (returned : collect (createCandidateIfNew now) findings store = (.ok created, later)) :
    Creates findings store later created := by
  induction findings generalizing store created with
  | nil =>
      cases returned
      refine ⟨.refl _, ?_, fun _ => ⟨rfl, rfl⟩⟩
      intro controlId triggerType
      refine (or_iff_left ?_).symm
      rintro ⟨finding, absent, -⟩
      cases absent
  | cons finding findings ih =>
      obtain ⟨first, middle, ran, returned⟩ := bind_returned.mp returned
      obtain ⟨rest, last, others, returned⟩ := bind_returned.mp returned
      cases returned
      have creates := createCandidateIfNew_creates ran
      have further := ih others
      refine ⟨creates.same.trans further.same, ?_, ?_⟩
      · intro controlId triggerType
        rw [further.pending, creates.pending, or_assoc]
        simp only [List.exists_mem_cons_iff, List.not_mem_nil, false_and, exists_false, or_false]
      · intro all
        obtain ⟨own, allOthers⟩ := List.forall_mem_cons.mp all
        obtain ⟨rfl, none⟩ := creates.nothing (by simpa using own)
        obtain ⟨rfl, nothing⟩ := further.nothing allOthers
        exact ⟨rfl, by rw [none, nothing]; rfl⟩

end Creating

/-! ## Scanning -/

section Scanning

variable {services : ScanServices} {store later : AssuranceStore} {stalenessWindow : ℤ}
  {now : DateTime}

/-- A scan which returns has created candidates for its findings. -/
theorem scan_creates {summary : ScanSummary}
    (returned : scan services stalenessWindow now store = (.ok summary, later)) :
    (scanFindings services store stalenessWindow now).failure = none ∧ ∃ created,
      summary = { candidatesCreated := created, controlsScanned := store.controls.length } ∧
        Creates (scanFindings services store stalenessWindow now).found store later created := by
  rw [scan_apply] at returned
  obtain ⟨created, middle, collected, returned⟩ := bind_returned.mp returned
  cases ended : (scanFindings services store stalenessWindow now).failure with
  | some failure =>
      rw [ended] at returned
      cases returned
  | none =>
      rw [ended] at returned
      cases returned
      have creates := collect_creates collected
      refine ⟨rfl, created, ?_, creates⟩
      rw [listControls, creates.same.controls, List.length_insertionSort]

end Scanning

/-! ## Findings by trigger -/

/-- The vulnerabilities of the experiment of a validation. -/
def relatedCveIds (services : ScanServices) (latest : ControlValidation) : List String :=
  match services.findExperiment latest.experimentId with
  | .error _ => []
  | .ok experiment => relatedCvesOf experiment

/-- The vulnerabilities which were observed since a validation and are not related to it. -/
def newlyObserved (services : ScanServices) (latest : ControlValidation) (subject : Vulnerability)
    (cveId : String) : List Vulnerability :=
  (services.listVulnerabilities subject.domainGuess 200).filter fun other =>
    other.cveId ≠ cveId ∧ other.cveId ∉ relatedCveIds services latest ∧
      latest.validatedAt < other.lastUpdatedAt

/-- When a scan finds a trigger for a control. -/
def Seen (services : ScanServices) (store : AssuranceStore) (stalenessWindow : ℤ) (now : DateTime)
    (control : Control) (latest : ControlValidation) : RevalidationTrigger → Prop
  | .scheduled => stalenessWindow < now - latest.validatedAt
  | .versionChange => ∃ version ∈ listControlVersions store control.controlId,
      version.versionId ∉ (listValidations store control.controlId).map (·.versionId)
  | .kevStateChange => ∃ cveId ∈ relatedCveIds services latest, ∃ entry ∈ services.getHistory cveId,
      latest.validatedAt < entry.observedAt ∧ entry.field = "kev_listed" ∧
        lower (strip (entry.newValue.getD "None")) = "true"
  | .epssMaterialChange =>
      ∃ cveId ∈ relatedCveIds services latest, ∃ entry ∈ services.getHistory cveId,
        latest.validatedAt < entry.observedAt ∧ entry.field = "epss_score" ∧
          ∃ old ∈ entry.oldValue.bind services.parseFloat,
            ∃ new ∈ entry.newValue.bind services.parseFloat, old.differMaterially new = true
  | .advisoryUpdate =>
      ∃ cveId ∈ relatedCveIds services latest, ∃ advisory ∈ services.getAdvisoriesForCve cveId,
        ∃ changedAt ∈ advisory.updatedAt.or advisory.publishedAt, latest.validatedAt < changedAt
  | .newRelatedCve => ∃ cveId ∈ relatedCveIds services latest,
      ∃ subject ∈ services.getVulnerability cveId,
        services.rankCorrelations subject (newlyObserved services latest subject cveId)
          newRelatedCveMinScore 5 ≠ []
  | .regression => False

section ByTrigger

variable {services : ScanServices} {store later : AssuranceStore} {stalenessWindow : ℤ}
  {now : DateTime} {control : Control} {latest : ControlValidation} {cveId : String}
  {trigger : RevalidationTrigger}

/-- Findings of one control. -/
def Finds (findings : List Finding) (control : Control) (trigger : RevalidationTrigger) : Prop :=
  ∃ finding ∈ findings, finding.controlId = control.controlId ∧ finding.triggerType = value trigger

theorem finds_append {first second : List Finding} :
    Finds (first ++ second) control trigger ↔
      Finds first control trigger ∨ Finds second control trigger := by
  simp [Finds, or_and_right, exists_or]

theorem finds_flatMap {α : Type} {items : List α} {findings : α → List Finding} :
    Finds (items.flatMap findings) control trigger ↔
      ∃ item ∈ items, Finds (findings item) control trigger := by
  simp only [Finds, List.mem_flatMap]
  constructor
  · rintro ⟨finding, ⟨item, member, own⟩, found⟩
    exact ⟨item, member, finding, own, found⟩
  · rintro ⟨item, member, finding, own, found⟩
    exact ⟨finding, ⟨item, member, own⟩, found⟩

theorem not_finds_nil : ¬Finds [] control trigger := by
  rintro ⟨finding, absent, -⟩
  cases absent

theorem finds_findingOf {own : RevalidationTrigger} {detail : String} :
    Finds [findingOf control latest own detail] control trigger ↔ own = trigger := by
  simp [Finds, findingOf, value_injective.eq_iff]

theorem finds_scheduled :
    Finds (scheduledFindings stalenessWindow now control latest) control trigger ↔
      trigger = .scheduled ∧ stalenessWindow < now - latest.validatedAt := by
  unfold scheduledFindings
  dsimp only
  split
  next old => rw [finds_findingOf, eq_comm, and_iff_left old]
  next recent => exact iff_of_false not_finds_nil fun both => recent both.2

theorem finds_version {validations : List ControlValidation} :
    Finds (versionFindings store control validations) control trigger ↔
      trigger = .versionChange ∧ ∃ version ∈ listControlVersions store control.controlId,
        version.versionId ∉ validations.map (·.versionId) := by
  constructor
  · rintro ⟨finding, member, -, own⟩
    obtain ⟨version, listed, rfl⟩ := List.mem_map.mp member
    obtain ⟨stored, unvalidated⟩ := List.mem_filter.mp listed
    exact ⟨(value_injective own).symm, version, stored, of_decide_eq_true unvalidated⟩
  · rintro ⟨rfl, version, stored, unvalidated⟩
    refine ⟨_, List.mem_map_of_mem (List.mem_filter.mpr ⟨stored, ?_⟩), rfl, rfl⟩
    exact decide_eq_true unvalidated

theorem finds_history {entry : VulnerabilityHistoryEntry} :
    Finds (historyFinding services control latest cveId entry) control trigger ↔
      latest.validatedAt < entry.observedAt ∧
        ((trigger = .kevStateChange ∧ entry.field = "kev_listed" ∧
            lower (strip (entry.newValue.getD "None")) = "true") ∨
          (trigger = .epssMaterialChange ∧ entry.field = "epss_score" ∧
            ∃ old ∈ entry.oldValue.bind services.parseFloat,
              ∃ new ∈ entry.newValue.bind services.parseFloat,
                old.differMaterially new = true)) := by
  unfold historyFinding
  split
  next old => exact iff_of_false not_finds_nil fun both => not_lt.mpr old both.1
  next recent =>
    rw [and_iff_right (not_le.mp recent)]
    split
    next listed =>
      have other : entry.field ≠ "epss_score" := by
        rw [listed.1]
        decide
      rw [or_iff_left fun both => other both.2.1, and_iff_left listed, finds_findingOf, eq_comm]
    next unlisted =>
      rw [or_iff_right fun both => unlisted both.2]
      split
      next epss =>
        split
        next old new isOld isNew =>
          simp only [isOld, isNew, Option.mem_def, Option.some.injEq, exists_eq_left']
          split
          next material =>
            rw [finds_findingOf, eq_comm]
            exact (and_iff_left ⟨epss, material⟩).symm
          next immaterial => exact iff_of_false not_finds_nil fun all => immaterial all.2.2
        next unread =>
          refine iff_of_false not_finds_nil ?_
          rintro ⟨-, -, old, isOld, new, isNew, -⟩
          exact unread old new isOld isNew
      next other => exact iff_of_false not_finds_nil fun both => other both.2.1

theorem finds_advisory {advisory : VendorAdvisory} :
    Finds (advisoryFinding control latest cveId advisory) control trigger ↔
      trigger = .advisoryUpdate ∧
        ∃ changedAt ∈ advisory.updatedAt.or advisory.publishedAt,
          latest.validatedAt < changedAt := by
  unfold advisoryFinding
  split
  next unknown =>
    refine iff_of_false not_finds_nil ?_
    rintro ⟨-, changedAt, known, -⟩
    rw [unknown] at known
    cases known
  next changedAt known =>
    simp only [known, Option.mem_def, Option.some.injEq, exists_eq_left']
    split
    next old => exact iff_of_false not_finds_nil fun both => not_lt.mpr old both.2
    next recent => rw [finds_findingOf, eq_comm, and_iff_left (not_le.mp recent)]

theorem finds_relatedCve :
    Finds (relatedCveFindings services control latest (relatedCveIds services latest) cveId)
        control trigger ↔
      trigger = .newRelatedCve ∧ ∃ subject ∈ services.getVulnerability cveId,
        services.rankCorrelations subject (newlyObserved services latest subject cveId)
          newRelatedCveMinScore 5 ≠ [] := by
  unfold relatedCveFindings
  split
  next unknown =>
    refine iff_of_false not_finds_nil ?_
    rintro ⟨-, subject, known, -⟩
    rw [unknown] at known
    cases known
  next subject known =>
    simp only [known, Option.mem_def, Option.some.injEq, exists_eq_left']
    constructor
    · rintro ⟨finding, member, -, own⟩
      obtain ⟨result, ranked, rfl⟩ := List.mem_map.mp member
      exact ⟨(value_injective own).symm, List.ne_nil_of_mem ranked⟩
    · rintro ⟨rfl, some⟩
      obtain ⟨result, ranked⟩ := List.exists_mem_of_ne_nil _ some
      exact ⟨_, List.mem_map_of_mem ranked, rfl, rfl⟩

/-- A control's findings for a trigger, when its experiment is looked up. -/
theorem finds_control
    (isLatest : (listValidations store control.controlId).getLast? = some latest)
    (returned : (controlFindings services store stalenessWindow now control).failure = none) :
    Finds (controlFindings services store stalenessWindow now control).found control trigger ↔
      Seen services store stalenessWindow now control latest trigger := by
  have findings : (controlFindings services store stalenessWindow now control).found =
      scheduledFindings stalenessWindow now control latest ++
        versionFindings store control (listValidations store control.controlId) ++
        relatedFindings services control latest (relatedCveIds services latest) := by
    rw [controlFindings, isLatest] at returned ⊢
    rw [relatedCveIds]
    dsimp only at returned ⊢
    cases lookedUp : services.findExperiment latest.experimentId with
    | error failure =>
        rw [lookedUp] at returned
        cases returned
    | ok experiment => rfl
  rw [findings, relatedFindings]
  simp only [finds_append, finds_flatMap, finds_scheduled, finds_version, finds_history,
    finds_advisory, finds_relatedCve]
  cases trigger <;> simp [Seen]

theorem controlFindings_congr {other : Control} (same : other.controlId = control.controlId) :
    controlFindings services store stalenessWindow now other =
      controlFindings services store stalenessWindow now control := by
  have named (latest : ControlValidation) (trigger : RevalidationTrigger) (detail : String) :
      findingOf other latest trigger detail = findingOf control latest trigger detail := by
    rw [findingOf, findingOf, same]
  have history (latest : ControlValidation) (cveId : String) :
      historyFinding services other latest cveId =
        historyFinding services control latest cveId := by
    funext entry
    simp only [historyFinding, named]
  have advisory (latest : ControlValidation) (cveId : String) :
      advisoryFinding other latest cveId = advisoryFinding control latest cveId := by
    funext advisory
    simp only [advisoryFinding, named]
  have related (latest : ControlValidation) (related : List String) :
      relatedCveFindings services other latest related =
        relatedCveFindings services control latest related := by
    funext cveId
    simp only [relatedCveFindings, named]
  simp only [controlFindings, relatedFindings, scheduledFindings, versionFindings, same, named,
    history, advisory, related]

/-- Findings which are about a control. -/
def About (control : Control) (findings : List Finding) : Prop :=
  ∀ finding ∈ findings, finding.controlId = control.controlId

theorem about_nil : About control [] :=
  fun _ member => absurd member List.not_mem_nil

theorem about_singleton {trigger : RevalidationTrigger} {detail : String} :
    About control [findingOf control latest trigger detail] :=
  List.forall_mem_singleton.mpr rfl

theorem about_append {left right : List Finding} (first : About control left)
    (second : About control right) : About control (left ++ right) :=
  List.forall_mem_append.mpr ⟨first, second⟩

theorem about_flatMap {α : Type} {items : List α} {found : α → List Finding}
    (each : ∀ item, About control (found item)) : About control (items.flatMap found) := by
  intro finding member
  obtain ⟨item, -, own⟩ := List.mem_flatMap.mp member
  exact each item finding own

theorem about_scheduled : About control (scheduledFindings stalenessWindow now control latest) := by
  unfold scheduledFindings
  dsimp only
  split
  · exact about_singleton
  · exact about_nil

theorem about_version {validations : List ControlValidation} :
    About control (versionFindings store control validations) := by
  intro finding member
  obtain ⟨version, -, rfl⟩ := List.mem_map.mp member
  rfl

theorem about_history (cveId : String) (entry : VulnerabilityHistoryEntry) :
    About control (historyFinding services control latest cveId entry) := by
  unfold historyFinding
  split
  · exact about_nil
  split
  · exact about_singleton
  split
  · split
    · split
      · exact about_singleton
      · exact about_nil
    · exact about_nil
  · exact about_nil

theorem about_advisory (cveId : String) (advisory : VendorAdvisory) :
    About control (advisoryFinding control latest cveId advisory) := by
  unfold advisoryFinding
  split
  · exact about_nil
  split
  · exact about_nil
  · exact about_singleton

theorem about_relatedCve (related : List String) (cveId : String) :
    About control (relatedCveFindings services control latest related cveId) := by
  unfold relatedCveFindings
  split
  · exact about_nil
  · intro finding member
    obtain ⟨result, -, rfl⟩ := List.mem_map.mp member
    rfl

/-- Every finding of a control names it. -/
theorem controlId_of_mem {finding : Finding}
    (member : finding ∈ (controlFindings services store stalenessWindow now control).found) :
    finding.controlId = control.controlId := by
  have related (latest : ControlValidation) (cveIds : List String) :
      About control (relatedFindings services control latest cveIds) :=
    about_append
      (about_append
        (about_flatMap fun cveId => about_flatMap (about_history cveId))
        (about_flatMap fun cveId => about_flatMap (about_advisory cveId)))
      (about_flatMap (about_relatedCve cveIds))
  unfold controlFindings at member
  dsimp only at member
  split at member
  next => cases member
  next latest _ =>
    have before : About control (scheduledFindings stalenessWindow now control latest ++
        versionFindings store control (listValidations store control.controlId)) :=
      about_append about_scheduled about_version
    split at member
    next => exact before finding member
    next experiment _ => exact about_append before (related latest _) finding member

/-- A scan which no failure ends finds a trigger of a control exactly when it is seen there. -/
theorem finds_scan (listed : control ∈ store.controls)
    (isLatest : (listValidations store control.controlId).getLast? = some latest)
    (ended : (scanFindings services store stalenessWindow now).failure = none) :
    Finds (scanFindings services store stalenessWindow now).found control trigger ↔
      Seen services store stalenessWindow now control latest trigger := by
  have all := Findings.failure_foldr.mp ended
  have own : control ∈ listControls store := (List.mem_insertionSort _).mpr listed
  rw [← finds_control isLatest (List.forall_mem_map.mp all control own), scanFindings,
    Findings.found_foldr all, List.flatMap_map, finds_flatMap]
  constructor
  · rintro ⟨other, -, finding, member, named, own⟩
    have same : other.controlId = control.controlId := (controlId_of_mem member).symm.trans named
    rw [controlFindings_congr same] at member
    exact ⟨finding, member, named, own⟩
  · intro found
    exact ⟨control, own, found⟩

/-- After a scan which returns, a trigger is pending exactly when it was pending or is seen. -/
theorem hasPending_of_returned {summary : ScanSummary}
    (returned : scan services stalenessWindow now store = (.ok summary, later))
    (listed : control ∈ store.controls)
    (isLatest : (listValidations store control.controlId).getLast? = some latest) :
    HasPending later control.controlId (value trigger) ↔
      HasPending store control.controlId (value trigger) ∨
        Seen services store stalenessWindow now control latest trigger := by
  obtain ⟨ended, created, -, creates⟩ := scan_creates returned
  rw [← finds_scan listed isLatest ended]
  exact creates.pending _ _

end ByTrigger

end ZeroShield.Assurance
