import ZeroShield.Services.ExperimentService

/-!
# The breakdown by category

The view counts the malformed cases which were blocked, errored ones included; the metrics count
only cases processed without error.  The two rates agree exactly when the errored cases were blocked
in the same proportion as the others.
-/

namespace ZeroShield.Services

open Foundation Models Metrics Runners

/-- The cases by their category, with the part of the malformed cases which each run blocked. -/
structure CaseCategoryBreakdown where
  validCount : ℕ
  malformedCount : ℕ
  boundaryCount : ℕ
  baselineMalformedBlockRate : Option ℚ
  mitigationMalformedBlockRate : Option ℚ

/-- Whether the test case is known and of a category. -/
def CaseComparison.ofCategory (category : TestCaseCategory) (comparison : CaseComparison) : Bool :=
  comparison.testCase.any fun case => case.category = category

def summariseCaseCategories (caseComparisons : List CaseComparison) : CaseCategoryBreakdown :=
  let known := caseComparisons.filter (·.testCase.isSome)
  let malformed := known.filter (·.ofCategory .malformed)
  let rate (side : CaseComparison → CaseResult) : Option ℚ :=
    if malformed = [] then none
    else some (malformed.countP (fun comparison => (side comparison).decision = .blocked) /
      malformed.length)
  { validCount := known.countP (·.ofCategory .valid)
    malformedCount := malformed.length
    boundaryCount := known.countP (·.ofCategory .boundary)
    baselineMalformedBlockRate := rate (·.baseline)
    mitigationMalformedBlockRate := rate (·.mitigation) }

/-! ## Joining the results of all cases -/

section Join

variable {cases allCases : List TestCase} {baseline mitigation : List CaseResult}

/-- A list without two items of one key is searched from either end. -/
theorem find?_reverse_of_mem {α κ : Type} [DecidableEq κ] {key : α → κ} {items : List α} {item : α}
    (distinct : (items.map key).Nodup) (member : item ∈ items) :
    (items.reverse.find? fun other => key other = key item) = some item := by
  have found : (items.reverse.find? fun other => key other = key item).isSome :=
    List.find?_isSome.mpr ⟨item, List.mem_reverse.mpr member, by simp⟩
  obtain ⟨other, first⟩ := Option.isSome_iff_exists.mp found
  have same : key other = key item := by simpa using List.find?_some first
  have present : other ∈ items := List.mem_reverse.mp (List.mem_of_find?_eq_some first)
  rw [first, List.inj_on_of_nodup_map distinct present member same]

/-- The results under their case identifiers, as they are read. -/
def byCase (results : List CaseResult) : List (Json × CaseResult) :=
  results.map fun result => (.str result.caseId, result)

theorem resultOf_byCase {results : List CaseResult} {result : CaseResult}
    (distinct : (results.map (·.caseId)).Nodup) (member : result ∈ results) :
    resultOf (byCase results) result.caseId = some result := by
  have keys : ((byCase results).map (·.1)).Nodup := by
    have same : (byCase results).map (·.1) = (results.map (·.caseId)).map Json.str := by
      simp [byCase]
    rw [same]
    exact distinct.map fun _ _ equal => Json.str.inj equal
  have listed : (Json.str result.caseId, result) ∈ byCase results := List.mem_map_of_mem member
  rw [resultOf, find?_reverse_of_mem keys listed]
  rfl

/-- The identifiers of the results of a run are those of the cases. -/
theorem map_caseId_of_records {runId : String} {results : List CaseResult}
    (recorded : List.Forall₂ (Records runId) cases results) :
    results.map (·.caseId) = cases.map (·.caseId) := by
  induction recorded with
  | nil => rfl
  | cons records recorded ih => rw [List.map_cons, List.map_cons, records.caseId_eq, ih]

/-- The results of one case in both runs. -/
def compared (entry : TestCase × CaseResult × CaseResult) : CaseComparison where
  caseId := entry.1.caseId
  testCase := some entry.1
  baseline := entry.2.1
  mitigation := entry.2.2

/-- The results of both runs over the cases of a dataset are joined case by case. -/
theorem joinCases_of_records {baselineRunId mitigationRunId : String}
    (distinct : (allCases.map (·.caseId)).Nodup)
    (recorded : List.Forall₂ (Records baselineRunId) allCases baseline)
    (alsoRecorded : List.Forall₂ (Records mitigationRunId) allCases mitigation) :
    joinCases baseline (byCase mitigation) allCases =
      (allCases.zip (baseline.zip mitigation)).map compared := by
  have otherDistinct : (mitigation.map (·.caseId)).Nodup :=
    map_caseId_of_records alsoRecorded ▸ distinct
  -- The part of the lists which is left is joined with the whole lists.
  have part : ∀ {cases : List TestCase} {first second : List CaseResult},
      List.Forall₂ (Records baselineRunId) cases first →
      List.Forall₂ (Records mitigationRunId) cases second →
      (∀ case ∈ cases, case ∈ allCases) → (∀ result ∈ second, result ∈ mitigation) →
      joinCases first (byCase mitigation) allCases =
        (cases.zip (first.zip second)).map compared := by
    intro cases first second recordedPart alsoRecordedPart known present
    induction recordedPart generalizing second with
    | nil => rfl
    | @cons case result cases first records recordedPart ih =>
        cases alsoRecordedPart with
        | @cons _ other _ second alsoRecords alsoRest =>
            have found : resultOf (byCase mitigation) result.caseId = some other := by
              rw [records.caseId_eq, ← alsoRecords.caseId_eq]
              exact resultOf_byCase otherDistinct (present other List.mem_cons_self)
            have case_ : testCaseOf allCases result.caseId = some case := by
              rw [records.caseId_eq]
              exact find?_reverse_of_mem distinct (known case List.mem_cons_self)
            have rest := ih alsoRest
              (fun other member => known other (List.mem_cons_of_mem _ member))
              fun other member => present other (List.mem_cons_of_mem _ member)
            rw [joinCases] at rest ⊢
            rw [List.filterMap_cons, found, case_, rest, records.caseId_eq]
            rfl
  exact part recorded alsoRecorded (fun _ member => member) fun _ member => member

end Join

/-! ## The two rates -/

section Rates

variable (cases : List TestCase) (results : List CaseResult)

/-- The results of the malformed cases which were errored, or of those which were not. -/
def malformedResults (errored : Bool) : List (TestCase × CaseResult) :=
  (cases.zip results).filter fun entry =>
    entry.1.category = .malformed ∧ entry.2.errored = errored

/-- How many results are blocked. -/
def blockedCount (group : List (TestCase × CaseResult)) : ℕ :=
  group.countP (·.2.decision = .blocked)

/-- The errored malformed cases were blocked in the same proportion as the processed ones, and none
was blocked when no malformed case was processed. -/
def ErrorsInProportion : Prop :=
  let processed := malformedResults cases results false
  let errored := malformedResults cases results true
  if processed.length = 0 then blockedCount errored = 0
  else blockedCount errored * processed.length = blockedCount processed * errored.length

instance : Decidable (ErrorsInProportion cases results) := by
  unfold ErrorsInProportion
  infer_instance

variable {cases results}

/-- The malformed cases are those processed and those errored. -/
theorem countP_malformed (blocked : TestCase × CaseResult → Bool) :
    (cases.zip results).countP (fun entry => entry.1.category = .malformed ∧ blocked entry) =
      (malformedResults cases results false).countP blocked +
        (malformedResults cases results true).countP blocked := by
  unfold malformedResults
  induction cases.zip results with
  | nil => rfl
  | cons entry entries ih =>
      rw [List.countP_cons, ih]
      cases errored : entry.2.errored <;>
        by_cases malformed : entry.1.category = .malformed <;>
          cases hit : blocked entry <;>
            simp [errored, malformed, hit] <;> omega

/-- The part of all malformed cases which was blocked. -/
def overallRate (cases : List TestCase) (results : List CaseResult) : ℚ :=
  let processed := malformedResults cases results false
  let errored := malformedResults cases results true
  (blockedCount processed + blockedCount errored : ℕ) / (processed.length + errored.length : ℕ)

/-- Adding a group leaves a rate as it is exactly when its own rate is the same. -/
theorem overallRate_eq_iff
    (some : 0 < (malformedResults cases results false).length +
      (malformedResults cases results true).length) :
    overallRate cases results = safeRate (blockedCount (malformedResults cases results false))
        (malformedResults cases results false).length ↔
      ErrorsInProportion cases results := by
  unfold overallRate ErrorsInProportion safeRate
  dsimp only
  have none : (malformedResults cases results false).length = 0 →
      blockedCount (malformedResults cases results false) = 0 := by
    intro empty
    exact Nat.le_zero.mp (empty ▸ List.countP_le_length)
  revert some none
  generalize (malformedResults cases results false).length = processed
  generalize (malformedResults cases results true).length = errored
  generalize blockedCount (malformedResults cases results false) = blocked
  generalize blockedCount (malformedResults cases results true) = alsoBlocked
  intro some none
  have total : ((processed + errored : ℕ) : ℚ) ≠ 0 := by exact_mod_cast some.ne'
  by_cases empty : processed = 0
  · rw [if_pos empty, if_pos empty, div_eq_zero_iff, none empty]
    constructor
    · intro zero
      have numerator := zero.resolve_right total
      have cast : 0 + alsoBlocked = 0 := by exact_mod_cast numerator
      omega
    · rintro rfl
      exact Or.inl (by norm_num)
  · have positive : (processed : ℚ) ≠ 0 := by exact_mod_cast empty
    rw [if_neg empty, if_neg empty, div_eq_div_iff total positive]
    constructor
    · intro equal
      have cast : (blocked + alsoBlocked) * processed = blocked * (processed + errored) := by
        exact_mod_cast equal
      linarith [cast]
    · intro equal
      have cast : (blocked + alsoBlocked) * processed = blocked * (processed + errored) := by
        linarith [equal]
      exact_mod_cast cast

end Rates

/-! ## The rates of the joined results -/

section Summary

variable {cases : List TestCase} {baseline mitigation results : List CaseResult}
  {baselineRunId mitigationRunId runId : String}

variable (cases) in
/-- The malformed cases among the joined ones, counted on one side. -/
theorem countP_joined {side : CaseResult × CaseResult → CaseResult}
    (sided : (baseline.zip mitigation).map side = results)
    (blocked : CaseResult → Bool) (read : CaseComparison → CaseResult)
    (reads : ∀ entry, read (compared entry) = side entry.2) :
    ((((cases.zip (baseline.zip mitigation)).map compared).filter (·.testCase.isSome)).filter
        (·.ofCategory .malformed)).countP (fun comparison => blocked (read comparison)) =
      (malformedResults cases results false).countP (fun entry => blocked entry.2) +
        (malformedResults cases results true).countP (fun entry => blocked entry.2) := by
  rw [← countP_malformed (fun entry => blocked entry.2), ← sided, List.zip_map_right,
    List.countP_map, List.countP_filter, List.countP_filter, List.countP_map]
  apply List.countP_congr
  intro entry _
  have read_ := reads entry
  simp only [Function.comp_apply, Prod.map, id_eq, read_]
  simp [compared, CaseComparison.ofCategory, and_comm]

/-- A malformed case has a result. -/
theorem malformedResults_pos (recorded : List.Forall₂ (Records runId) cases results)
    (some_ : ∃ case ∈ cases, case.category = .malformed) :
    0 < (malformedResults cases results false).length +
      (malformedResults cases results true).length := by
  obtain ⟨case, member, malformed⟩ := some_
  have zipped : (cases.zip results).map Prod.fst = cases :=
    List.map_fst_zip recorded.length_eq.le
  obtain ⟨entry, listed, rfl⟩ := List.mem_map.mp (zipped.symm ▸ member)
  have counted : 0 < (cases.zip results).countP fun entry => entry.1.category = .malformed ∧ true :=
    List.countP_pos_iff.mpr ⟨entry, listed, by simpa using malformed⟩
  rw [countP_malformed fun _ => true] at counted
  simpa using counted

/-- The rate of one side of the view is that of all malformed cases. -/
theorem rate_joined {side : CaseResult × CaseResult → CaseResult}
    (recorded : List.Forall₂ (Records runId) cases results)
    (some_ : ∃ case ∈ cases, case.category = .malformed)
    (sided : (baseline.zip mitigation).map side = results) (read : CaseComparison → CaseResult)
    (reads : ∀ entry, read (compared entry) = side entry.2) :
    let malformed := (((cases.zip (baseline.zip mitigation)).map compared).filter
      (·.testCase.isSome)).filter (·.ofCategory .malformed)
    (if malformed = [] then none
      else some ((malformed.countP (fun comparison => (read comparison).decision = .blocked) : ℚ) /
        malformed.length)) = some (overallRate cases results) := by
  have positive := malformedResults_pos recorded some_
  have blocked := countP_joined cases sided (fun result => result.decision = .blocked)
    read reads
  have total := countP_joined cases sided (fun _ => true) read reads
  simp only [List.countP_true] at total
  have present : (((cases.zip (baseline.zip mitigation)).map compared).filter
      (·.testCase.isSome)).filter (·.ofCategory .malformed) ≠ [] := by
    apply List.ne_nil_of_length_pos
    rw [total]
    exact positive
  dsimp only
  rw [if_neg present, blocked, total]
  rfl

/-- Both rates of the view are those of all malformed cases. -/
theorem summariseCaseCategories_of_records (distinct : (cases.map (·.caseId)).Nodup)
    (recorded : List.Forall₂ (Records baselineRunId) cases baseline)
    (alsoRecorded : List.Forall₂ (Records mitigationRunId) cases mitigation)
    (some_ : ∃ case ∈ cases, case.category = .malformed) :
    let breakdown := summariseCaseCategories (joinCases baseline (byCase mitigation) cases)
    breakdown.baselineMalformedBlockRate = some (overallRate cases baseline) ∧
      breakdown.mitigationMalformedBlockRate = some (overallRate cases mitigation) := by
  have lengths : baseline.length = mitigation.length :=
    recorded.length_eq.symm.trans alsoRecorded.length_eq
  rw [joinCases_of_records distinct recorded alsoRecorded]
  exact ⟨rate_joined recorded some_ (List.map_fst_zip lengths.le) (·.baseline) fun _ => rfl,
    rate_joined alsoRecorded some_ (List.map_snd_zip lengths.ge) (·.mitigation) fun _ => rfl⟩

/-- Where exactly the malformed cases are expected to be blocked, the block rate is that of the
malformed cases processed without error. -/
theorem blockRate_of_records {now : DateTime} {calculationVersion : String}
    {metrics : ExperimentMetrics} (distinct : (cases.map (·.caseId)).Nodup)
    (recorded : List.Forall₂ (Records runId) cases results)
    (exact_ : ∀ case ∈ cases, case.category = .malformed ↔ case.expectedOutcome = .blocked)
    (calculated : calculateMetrics runId results cases now calculationVersion = .ok metrics) :
    metrics.blockRate = safeRate (blockedCount (malformedResults cases results false))
      (malformedResults cases results false).length := by
  obtain ⟨successful, scored, rate, -⟩ := calculateMetrics_spec calculated
  have identified : List.Forall₂ (fun case result => result.caseId = case.caseId) cases results :=
    recorded.imp fun _ _ records => records.caseId_eq
  rw [successfulResults_of_records distinct (fun _ member => member) identified] at scored
  obtain rfl := Except.ok.inj scored
  have malformed (decided : TestCase × CaseResult → Bool) :
      ((cases.zip results).filter (!·.2.errored)).countP (fun entry =>
          entry.1.expectedOutcome = .blocked ∧ decided entry) =
        (malformedResults cases results false).countP decided := by
    unfold malformedResults
    rw [List.countP_filter, List.countP_filter]
    apply List.countP_congr
    intro entry member
    have same := exact_ entry.1 (List.of_mem_zip member).1
    simp [same]
    tauto
  rw [rate, length_expecting_map, deciding_expecting_map]
  have total := malformed fun _ => true
  have blocked := malformed fun entry => entry.2.decision = .blocked
  simp only [and_true, List.countP_true] at total
  simp only [decide_eq_true_eq] at blocked
  rw [total, blocked]
  rfl

end Summary

end ZeroShield.Services
