import ZeroShield.Foundation.Joins
import ZeroShield.Foundation.Repetitions
import ZeroShield.Intelligence.SourceOrder

/-!
# Convergence

The identifiers of weaknesses, the sources, the listing as exploited, the date of publication and
the date of the last modification are joined over all contributions, so every order of the same
contributions leaves the same.
-/

namespace ZeroShield.Intelligence

open Foundation Models StringEnum

/-! ## Joins along a sequence of merges -/

section Joins

variable {texts : Texts} {clock : ℕ → DateTime} {reading : ℕ} {existing : Option Vulnerability}
  {contributions : List NormalisedContribution} {results : List MergeResult}

/-- What one merge joins with its contribution, a sequence of merges joins with all of them. -/
theorem joins_of_mergeAll {α : Type} [SemilatticeSup α] [OrderBot α]
    {measure : Option Vulnerability → α} {offered : NormalisedContribution → α}
    (step : ∀ {existing contribution now result},
      merge texts existing contribution now = .ok result →
        measure (some result.vulnerability) = measure existing ⊔ offered contribution)
    (merged : mergeAll texts clock reading existing contributions = .ok results) :
    measure (latestView existing results) = measure existing ⊔ joinAll offered contributions := by
  induction contributions generalizing reading existing results with
  | nil =>
      cases merged
      rw [joinAll_nil, sup_bot_eq]
      rfl
  | cons contribution contributions ih =>
      obtain ⟨result, rest, rfl, first, others⟩ := mergeAll_cons merged
      rw [latestView_cons, ih others, step first, joinAll_cons, sup_assoc]

/-- What every merge establishes holds of the view after a sequence of merges. -/
theorem established_of_mergeAll {Holds : Vulnerability → Prop}
    (step : ∀ {existing contribution now result},
      merge texts existing contribution now = .ok result → Holds result.vulnerability)
    (merged : mergeAll texts clock reading existing contributions = .ok results)
    (initially : ∀ vulnerability, existing = some vulnerability → Holds vulnerability) :
    ∀ vulnerability, latestView existing results = some vulnerability → Holds vulnerability := by
  induction contributions generalizing reading existing results with
  | nil =>
      cases merged
      exact initially
  | cons contribution contributions ih =>
      obtain ⟨result, rest, rfl, first, others⟩ := mergeAll_cons merged
      rw [latestView_cons]
      refine ih others fun vulnerability same => ?_
      cases same
      exact step first

/-- The time at which a vulnerability was first seen is kept. -/
theorem firstSeenAt_of_mergeAll {held : Vulnerability}
    (merged : mergeAll texts clock reading (some held) contributions = .ok results) :
    (latestView (some held) results).map (·.firstSeenAt) = some held.firstSeenAt := by
  induction contributions generalizing reading held results with
  | nil =>
      cases merged
      rfl
  | cons contribution contributions ih =>
      obtain ⟨result, rest, rfl, first, others⟩ := mergeAll_cons merged
      obtain ⟨⟨references, view⟩, -, -⟩ := merge_spec first
      rw [latestView_cons, ih others, view]
      rfl

/-- Once a vulnerability is listed as exploited it stays listed. -/
theorem kevListed_of_mergeAll
    (merged : mergeAll texts clock reading existing contributions = .ok results) :
    (existing.any (·.kevListed) = true →
        ∀ result ∈ results, result.vulnerability.kevListed = true) ∧
      results.Pairwise fun earlier later =>
        earlier.vulnerability.kevListed = true → later.vulnerability.kevListed = true := by
  induction contributions generalizing reading existing results with
  | nil =>
      cases merged
      exact ⟨fun _ => List.forall_mem_nil _, List.Pairwise.nil⟩
  | cons contribution contributions ih =>
      obtain ⟨result, rest, rfl, first, others⟩ := mergeAll_cons merged
      obtain ⟨⟨references, view⟩, -, -⟩ := merge_spec first
      obtain ⟨kept, ordered⟩ := ih others
      have listed (before : existing.any (·.kevListed) = true) :
          result.vulnerability.kevListed = true := by
        simp [view, mergedVulnerability, before]
      refine ⟨fun before other member => ?_, List.pairwise_cons.mpr ⟨?_, ordered⟩⟩
      · rcases List.mem_cons.mp member with rfl | member
        · exact listed before
        · exact kept (listed before) other member
      · exact fun later member listedFirst => kept listedFirst later member

end Joins

/-! ## What one merge joins -/

section MergeJoins

variable {texts : Texts} {existing : Option Vulnerability} {contribution : NormalisedContribution}
  {now : DateTime} {result : MergeResult}

theorem merge_cweIds (merged : merge texts existing contribution now = .ok result) :
    result.vulnerability.cweIds.toFinset =
      ((existing.map Vulnerability.cweIds).getD []).toFinset ⊔ contribution.cweIds.toFinset := by
  obtain ⟨⟨references, view⟩, -, -⟩ := merge_spec merged
  ext cweId
  simp [view, mergedVulnerability]

theorem merge_sources (merged : merge texts existing contribution now = .ok result) :
    result.vulnerability.sources.toFinset =
      ((existing.map Vulnerability.sources).getD []).toFinset ⊔ [contribution.source].toFinset := by
  obtain ⟨⟨references, view⟩, -, -⟩ := merge_spec merged
  ext source
  simp [view, mergedVulnerability, or_comm]

theorem merge_kevListed (merged : merge texts existing contribution now = .ok result) :
    result.vulnerability.kevListed =
      existing.any (·.kevListed) ⊔ decide (contribution.kevListed = some true) := by
  obtain ⟨⟨references, view⟩, -, -⟩ := merge_spec merged
  rw [view]
  exact Bool.or_comm _ _

theorem merge_publishedAt (merged : merge texts existing contribution now = .ok result) :
    known (result.vulnerability.publishedAt.map OrderDual.toDual) =
      known ((existing.bind (·.publishedAt)).map OrderDual.toDual) ⊔
        known (contribution.publishedAt.map OrderDual.toDual) := by
  obtain ⟨⟨references, view⟩, -, -⟩ := merge_spec merged
  rw [view]
  simp only [mergedVulnerability]
  cases existing.bind (·.publishedAt) with
  | none => cases contribution.publishedAt <;> simp [earliest, known]
  | some held =>
      cases contribution.publishedAt with
      | none => simp [earliest, known]
      | some offered =>
          have least : (if offered < held then offered else held) = min held offered := by
            rw [min_comm, min_def_lt]
          simp [earliest, known, least]

theorem merge_lastModifiedAt (merged : merge texts existing contribution now = .ok result) :
    known result.vulnerability.lastModifiedAt =
      known (existing.bind (·.lastModifiedAt)) ⊔ known contribution.lastModifiedAt := by
  obtain ⟨⟨references, view⟩, -, -⟩ := merge_spec merged
  rw [view]
  simp only [mergedVulnerability]
  cases existing.bind (·.lastModifiedAt) with
  | none => cases contribution.lastModifiedAt <;> simp [latest, known]
  | some held =>
      cases contribution.lastModifiedAt with
      | none => simp [latest, known]
      | some offered =>
          have greatest : (if held < offered then offered else held) = max held offered := by
            rw [max_def_lt]
          simp [latest, known, greatest]

end MergeJoins

/-- Every contributed text was read when no reference is reported. -/
theorem readable_of_referenceErrors {texts : Texts} {references : List Reference}
    (clean : referenceErrors (readReferences texts references) = []) :
    ∀ text, Reference.text text ∈ references → (texts.parseUrl text).isSome = true := by
  intro text member
  have read : texts.parseUrl text ∈ readReferences texts references :=
    List.mem_map.mpr ⟨.text text, member, rfl⟩
  obtain ⟨index, at_⟩ := List.mem_iff_getElem?.mp read
  have reported := List.flatMap_eq_nil_iff.mp clean (texts.parseUrl text, index)
    (List.mk_mem_zipIdx_iff_getElem?.mpr at_)
  simpa only [require_eq_nil] using reported

/-- A contribution which was merged is acceptable. -/
theorem acceptable_of_merge {texts : Texts} {existing : Option Vulnerability}
    {contribution : NormalisedContribution} {now : DateTime} {result : MergeResult}
    (merged : merge texts existing contribution now = .ok result) :
    Acceptable texts contribution := by
  unfold merge at merged
  dsimp only at merged
  split at merged
  case h_1 => cases merged
  case h_2 =>
    split at merged
    case isTrue => cases merged
    case isFalse clean =>
      split at merged
      case isTrue => cases merged
      case isFalse valid =>
        obtain ⟨-, readable⟩ := List.append_eq_nil_iff.mp (not_not.mp clean)
        have fields := not_not.mp valid
        simp only [VulnerabilitySourceRecord.errors, sourceRecord, List.append_eq_nil_iff,
          require_eq_nil] at fields
        obtain ⟨⟨⟨cveId, cvssScore⟩, epssScore⟩, epssPercentile⟩ := fields
        refine ⟨cveId, cvssScore, epssScore, epssPercentile, fun text member => ?_⟩
        refine readable_of_referenceErrors readable text (List.mem_eraseDups.mpr ?_)
        exact List.mem_append_right _ (List.mem_map_of_mem member)

/-- Sequences of contributions are merged in every order or in none. -/
theorem acceptable_of_mergeAll {texts : Texts} {clock : ℕ → DateTime} {reading : ℕ}
    {existing : Option Vulnerability} {contributions : List NormalisedContribution}
    {results : List MergeResult}
    (merged : mergeAll texts clock reading existing contributions = .ok results) :
    ∀ contribution ∈ contributions, Acceptable texts contribution := by
  induction contributions generalizing reading existing results with
  | nil => exact List.forall_mem_nil _
  | cons contribution contributions ih =>
      obtain ⟨result, rest, rfl, first, others⟩ := mergeAll_cons merged
      exact List.forall_mem_cons.mpr ⟨acceptable_of_merge first, ih others⟩

/-! ## Every order -/

/-- The view has the joins of all contributions and the time of the first merge. -/
structure Converged (contributions : List NormalisedContribution) (first : DateTime)
    (view : Vulnerability) : Prop where
  cweIds : view.cweIds = (contributions.flatMap (·.cweIds)).dedup.insertionSort (· ≤ ·)
  sources : view.sources = (contributions.map (·.source)).dedup.insertionSort
    fun left right => value left ≤ value right
  kevListed : view.kevListed = contributions.any (·.kevListed = some true)
  publishedAt : view.publishedAt = (contributions.filterMap (·.publishedAt)).min?
  lastModifiedAt : view.lastModifiedAt = (contributions.filterMap (·.lastModifiedAt)).max?
  firstSeenAt : view.firstSeenAt = first

/-- The weaknesses and the sources of a view are sorted and have no repetitions. -/
def SetsSorted (view : Vulnerability) : Prop :=
  (∃ cweIds : List String, view.cweIds = cweIds.dedup.insertionSort (· ≤ ·)) ∧
    ∃ sources : List VulnerabilitySourceName, view.sources =
      sources.dedup.insertionSort fun left right => value left ≤ value right

theorem merge_setsSorted {texts : Texts} {existing : Option Vulnerability}
    {contribution : NormalisedContribution} {now : DateTime} {result : MergeResult}
    (merged : merge texts existing contribution now = .ok result) :
    SetsSorted result.vulnerability := by
  obtain ⟨⟨references, view⟩, -, -⟩ := merge_spec merged
  rw [view]
  exact ⟨⟨_, rfl⟩, ⟨_, rfl⟩⟩

/-- Sources are sorted by their texts, which tell them apart. -/
theorem sortedSources_congr {items others : List VulnerabilitySourceName}
    (same : items.toFinset = others.toFinset) :
    (items.dedup.insertionSort fun left right => value left ≤ value right) =
      others.dedup.insertionSort fun left right => value left ≤ value right := by
  let before (left right : VulnerabilitySourceName) : Prop := value left ≤ value right
  have : Std.Total before := ⟨fun left right => le_total (value left) (value right)⟩
  have : IsTrans VulnerabilitySourceName before := ⟨fun _ _ _ => le_trans⟩
  have : Std.Antisymm before :=
    ⟨fun _ _ first second => value_injective (le_antisymm first second)⟩
  exact @insertionSort_dedup_congr _ _ before _ _ _ _ _ _ same

section Orders

variable {texts : Texts} {clock : ℕ → DateTime} {order : List NormalisedContribution}
  {results : List MergeResult}

/-- The join of a quantity over a sequence of merges into nothing. -/
theorem measure_of_mergeAll {α : Type} [SemilatticeSup α] [OrderBot α]
    (measure : Option Vulnerability → α) {offered : NormalisedContribution → α}
    (empty : measure none = ⊥)
    (step : ∀ {existing contribution now result},
      merge texts existing contribution now = .ok result →
        measure (some result.vulnerability) = measure existing ⊔ offered contribution)
    (merged : mergeAll texts clock 0 none order = .ok results)
    {contributions : List NormalisedContribution} (permuted : order.Perm contributions) :
    measure (latestView none results) = joinAll offered contributions := by
  rw [joins_of_mergeAll step merged, empty, bot_sup_eq, joinAll_perm permuted]

/-- Contributions leave the joins of all of them, in whatever order they are merged. -/
theorem converged_of_mergeAll (merged : mergeAll texts clock 0 none order = .ok results)
    {contributions : List NormalisedContribution} (permuted : order.Perm contributions)
    {view : Vulnerability} (left : latestView none results = some view)
    (firstSeenAt : view.firstSeenAt = clock 0) :
    Converged contributions (clock 0) view := by
  obtain ⟨⟨cweIds, sortedCweIds⟩, ⟨sources, sortedSources⟩⟩ :=
    established_of_mergeAll merge_setsSorted merged (fun _ absent => by cases absent) view left
  refine ⟨?_, ?_, ?_, ?_, ?_, firstSeenAt⟩
  · have joined := measure_of_mergeAll
      (fun view => ((view.map Vulnerability.cweIds).getD []).toFinset) rfl merge_cweIds merged
      permuted
    rw [left, joinAll_toFinset] at joined
    rw [sortedCweIds]
    refine insertionSort_dedup_congr (Eq.trans ?_ joined)
    ext cweId
    simp [sortedCweIds]
  · have joined := measure_of_mergeAll
      (fun view => ((view.map Vulnerability.sources).getD []).toFinset) rfl merge_sources merged
      permuted
    rw [left, joinAll_toFinset, ← List.map_eq_flatMap] at joined
    rw [sortedSources]
    refine sortedSources_congr (Eq.trans ?_ joined)
    ext source
    simp [sortedSources]
  · have joined := measure_of_mergeAll (fun view => view.any (·.kevListed)) rfl merge_kevListed
      merged permuted
    rw [left, joinAll_flag] at joined
    exact joined
  · have joined := measure_of_mergeAll
      (fun view => known ((view.bind (·.publishedAt)).map OrderDual.toDual)) rfl merge_publishedAt
      merged permuted
    rw [left, joinAll_earliest] at joined
    exact Option.map_injective OrderDual.toDual.injective (known_injective joined)
  · have joined := measure_of_mergeAll (fun view => known (view.bind (·.lastModifiedAt))) rfl
      merge_lastModifiedAt merged permuted
    rw [left, joinAll_latest] at joined
    exact known_injective joined

end Orders

/-- If a sequence of contributions is merged at all, every order of it is, and leaves the joins of
all contributions and the time of the first merge; a listing as exploited is never taken back. -/
theorem converged_of_perm {texts : Texts} {clock : ℕ → DateTime}
    {contributions order : List NormalisedContribution} (given : contributions ≠ [])
    (mergeable : ∃ results, mergeAll texts clock 0 none contributions = .ok results)
    (permuted : order.Perm contributions) :
    ∃ results view, mergeAll texts clock 0 none order = .ok results ∧
      latestView none results = some view ∧ Converged contributions (clock 0) view ∧
      results.Pairwise fun earlier later =>
        earlier.vulnerability.kevListed = true → later.vulnerability.kevListed = true := by
  obtain ⟨inOrder, mergedInOrder⟩ := mergeable
  obtain ⟨results, merged⟩ := @mergeAll_isOk texts clock order
    (fun contribution member =>
      acceptable_of_mergeAll mergedInOrder contribution (permuted.mem_iff.mp member)) 0 none
    (fun _ absent => by cases absent)
  cases order with
  | nil => exact absurd permuted.nil_eq.symm given
  | cons first rest =>
      obtain ⟨result, later, rfl, mergedFirst, mergedRest⟩ := mergeAll_cons merged
      obtain ⟨⟨references, fresh⟩, -, -⟩ := merge_spec mergedFirst
      have seen := firstSeenAt_of_mergeAll mergedRest
      obtain ⟨view, left, firstSeenAt⟩ := Option.map_eq_some_iff.mp seen
      rw [fresh] at firstSeenAt
      refine ⟨_, view, merged, left, ?_, (kevListed_of_mergeAll merged).2⟩
      exact converged_of_mergeAll merged permuted left firstSeenAt

/-- The sample contributions in reverse. -/
theorem converged_of_perm_of_sample :
    ∃ results view, mergeAll Sample.texts Sample.clock 0 none
        [Sample.probability, Sample.described .nvd "Out-of-bounds write"] = .ok results ∧
      latestView none results = some view ∧
      Converged [Sample.described .nvd "Out-of-bounds write", Sample.probability] (Sample.clock 0)
        view ∧
      results.Pairwise fun earlier later =>
        earlier.vulnerability.kevListed = true → later.vulnerability.kevListed = true := by
  refine converged_of_perm (by decide) (mergeAll_isOk ?_ 0 none (fun _ absent => by cases absent))
    (List.Perm.swap _ _ [])
  intro contribution member
  simp only [List.mem_cons, List.not_mem_nil, or_false] at member
  rcases member with rfl | rfl
  · exact Sample.acceptable_described .nvd _
  · exact Sample.acceptable_probability

end ZeroShield.Intelligence
