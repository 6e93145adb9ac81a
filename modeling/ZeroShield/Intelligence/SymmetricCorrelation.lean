import Mathlib.Data.String.Basic
import ZeroShield.Foundation.Rounding
import ZeroShield.Foundation.SequenceMatcher
import ZeroShield.Intelligence.Correlation

/-!
# Symmetry of the correlation

Every feature but the text similarity contributes the same in both orders.  The score is therefore
symmetric for two descriptions exactly when they have as many matches in one order as in the other.
-/

namespace ZeroShield.Intelligence

open Foundation Models

/-- The library whose ratio is the one of matching sequences. -/
def matcherLibrary (autojunk : Bool) (lower : String → String) (repr : List String → String) :
    CorrelationLibrary where
  lower
  ratio first second := SequenceMatcher.ratio autojunk first.toList second.toList
  repr

/-- The number of matches of two descriptions in lower case; missing and empty ones have none. -/
def descriptionMatches (autojunk : Bool) (lower : String → String) (first second : Option String) :
    ℕ :=
  match first, second with
  | some first, some second =>
      if first = "" ∨ second = "" then 0
      else SequenceMatcher.matched autojunk (lower first).toList (lower second).toList
  | _, _ => 0

/-! ## Features -/

theorem sharedTexts_comm (first second : List String) :
    sharedTexts first second = sharedTexts second first := by
  have same : (first.dedup.filter (· ∈ second)).Perm (second.dedup.filter (· ∈ first)) := by
    refine (List.perm_ext_iff_of_nodup ((List.nodup_dedup _).filter _)
      ((List.nodup_dedup _).filter _)).mpr fun text => ?_
    simp only [List.mem_filter, List.mem_dedup, decide_eq_true_eq]
    exact and_comm
  apply List.Perm.eq_of_pairwise' (List.pairwise_insertionSort _ _)
    (List.pairwise_insertionSort _ _)
  exact (List.perm_insertionSort _ _).trans (same.trans (List.perm_insertionSort _ _).symm)

section Features

variable (library : CorrelationLibrary) (weights : CorrelationWeights)

theorem cweOverlap_comm (first second : List String) :
    (cweOverlap library weights first second).1 = (cweOverlap library weights second first).1 := by
  have union : (first ++ second).dedup.length = (second ++ first).dedup.length :=
    (List.perm_append_comm.dedup).length_eq
  unfold cweOverlap
  by_cases missing : first = [] ∨ second = []
  · rw [if_pos missing, if_pos missing.symm]
  · rw [if_neg missing, if_neg fun other => missing other.symm]
    dsimp only
    rw [sharedTexts_comm second first, union]

theorem vendorMatch_comm (first second : Option String) :
    (vendorMatch library weights first second).1 =
      (vendorMatch library weights second first).1 := by
  cases first with
  | none => cases second <;> rfl
  | some first =>
      cases second with
      | none => rfl
      | some second =>
          unfold vendorMatch
          dsimp only
          by_cases same : first ≠ "" ∧ second ≠ "" ∧
              library.lower (strip first) = library.lower (strip second)
          · rw [if_pos same, if_pos ⟨same.2.1, same.1, same.2.2.symm⟩]
          · rw [if_neg same, if_neg fun other => same ⟨other.2.1, other.1, other.2.2.symm⟩]

theorem domainMatch_comm (first second : Option Domain) :
    (domainMatch weights first second).1 = (domainMatch weights second first).1 := by
  cases first with
  | none => cases second <;> rfl
  | some first =>
      cases second with
      | none => rfl
      | some second =>
          unfold domainMatch
          by_cases same : first = second
          · subst same
            rfl
          · simp [same, Ne.symm same]

theorem trustBoundaryMatch_comm (first second : Option ZeroClickRelevance) :
    (trustBoundaryMatch weights first second).1 = (trustBoundaryMatch weights second first).1 := by
  cases first with
  | none => cases second <;> rfl
  | some first =>
      cases second with
      | none => rfl
      | some second =>
          unfold trustBoundaryMatch
          by_cases same : first = second
          · subst same
            rfl
          · simp [same, Ne.symm same]

/-- The points of the features but the text similarity. -/
def otherPoints (subject candidate : Vulnerability)
    (subjectExperimentIds candidateExperimentIds : List String) : ℚ :=
  (cweOverlap library weights subject.cweIds candidate.cweIds).1 +
    (vendorMatch library weights subject.vendor candidate.vendor).1 +
    (domainMatch weights subject.domainGuess candidate.domainGuess).1 +
    (trustBoundaryMatch weights subject.zeroClickRelevance candidate.zeroClickRelevance).1 +
    (sharedExperiment library weights
      (sharedTexts subjectExperimentIds candidateExperimentIds)).1

theorem otherPoints_comm (first second : Vulnerability) (firstIds secondIds : List String) :
    otherPoints library weights first second firstIds secondIds =
      otherPoints library weights second first secondIds firstIds := by
  unfold otherPoints
  rw [cweOverlap_comm, vendorMatch_comm, domainMatch_comm, trustBoundaryMatch_comm,
    sharedTexts_comm]

theorem score_correlate (subject candidate : Vulnerability)
    (subjectExperimentIds candidateExperimentIds : List String) :
    (correlate library weights subject candidate subjectExperimentIds
        candidateExperimentIds).score =
      roundHalfEven (min (otherPoints library weights subject candidate subjectExperimentIds
        candidateExperimentIds +
          (textSimilarity library weights subject.description candidate.description).1)
        weights.totalMax * 10) / 10 := by
  have sum (a b c d e f : ℚ) : a + (b + (c + (d + (e + (f + 0))))) = a + b + c + d + f + e := by
    ring
  unfold correlate otherPoints
  dsimp only
  rw [List.map_cons, List.map_cons, List.map_cons, List.map_cons, List.map_cons, List.map_cons,
    List.map_nil, List.sum_cons, List.sum_cons, List.sum_cons, List.sum_cons, List.sum_cons,
    List.sum_cons, List.sum_nil, sum]

end Features

/-! ## Descriptions -/

section Descriptions

variable (autojunk : Bool) (lower : String → String) (repr : List String → String)

/-- The score and the shared experiments are the same in both orders. -/
def Symmetric (first second : Vulnerability) (firstIds secondIds : List String) : Prop :=
  (correlate (matcherLibrary autojunk lower repr) {} first second firstIds secondIds).score =
      (correlate (matcherLibrary autojunk lower repr) {} second first secondIds firstIds).score ∧
    (correlate (matcherLibrary autojunk lower repr) {} first second firstIds
        secondIds).sharedExperimentIds =
      (correlate (matcherLibrary autojunk lower repr) {} second first secondIds
        firstIds).sharedExperimentIds

/-- Equal numbers of matches give equal points. -/
theorem textSimilarity_comm (weights : CorrelationWeights) {first second : Option String}
    (same : descriptionMatches autojunk lower first second =
      descriptionMatches autojunk lower second first) :
    (textSimilarity (matcherLibrary autojunk lower repr) weights first second).1 =
      (textSimilarity (matcherLibrary autojunk lower repr) weights second first).1 := by
  cases first with
  | none => cases second <;> rfl
  | some first =>
      cases second with
      | none => rfl
      | some second =>
          unfold textSimilarity
          dsimp only
          by_cases empty : first = "" ∨ second = ""
          · rw [if_pos empty, if_pos empty.symm]
          · have reversed : ¬ (second = "" ∨ first = "") := fun other => empty other.symm
            simp only [descriptionMatches, if_neg empty, if_neg reversed] at same
            simp only [if_neg empty, if_neg reversed, matcherLibrary, SequenceMatcher.ratio, same,
              Nat.add_comm]

/-- Two vulnerabilities with these descriptions correlate alike in both orders. -/
theorem symmetric_of_matches {first second : Vulnerability}
    (same : descriptionMatches autojunk lower first.description second.description =
      descriptionMatches autojunk lower second.description first.description)
    (firstIds secondIds : List String) :
    Symmetric autojunk lower repr first second firstIds secondIds := by
  constructor
  · rw [score_correlate, score_correlate, otherPoints_comm,
      textSimilarity_comm autojunk lower repr {} same]
  · exact sharedTexts_comm firstIds secondIds

end Descriptions

/-! ## Telling apart -/

/-- The names of a number of weaknesses. -/
def weaknesses (count : ℕ) : List String :=
  (List.range count).map fun index => "CWE-" ++ String.ofList (List.replicate (index + 1) '1')

theorem nodup_weaknesses (count : ℕ) : (weaknesses count).Nodup := by
  refine List.Nodup.map (fun i j same => ?_) List.nodup_range
  have lengths := congrArg String.length same
  simp only [String.length_append, String.length_ofList, List.length_replicate] at lengths
  omega

theorem length_weaknesses (count : ℕ) : (weaknesses count).length = count := by
  rw [weaknesses, List.length_map, List.length_range]

theorem weaknesses_subset {few many : ℕ} (fewer : few ≤ many) :
    weaknesses few ⊆ weaknesses many := by
  intro name listed
  obtain ⟨index, small, rfl⟩ := List.mem_map.mp listed
  rw [List.mem_range] at small
  exact List.mem_map_of_mem (List.mem_range.mpr (small.trans_le fewer))

/-- Some weaknesses out of more have the share of their numbers in common. -/
theorem cweOverlap_weaknesses (library : CorrelationLibrary) (weights : CorrelationWeights)
    {few many : ℕ} (positive : 0 < few) (fewer : few ≤ many) :
    (cweOverlap library weights (weaknesses many) (weaknesses few)).1 =
      few / many * weights.cweOverlapMax := by
  have subset := weaknesses_subset fewer
  have nonempty {count : ℕ} (present : 0 < count) : weaknesses count ≠ [] := by
    rw [← List.length_pos_iff, length_weaknesses]
    exact present
  have missing : ¬ (weaknesses many = [] ∨ weaknesses few = []) := by
    rw [not_or]
    exact ⟨nonempty (positive.trans_le fewer), nonempty positive⟩
  have shared : (sharedTexts (weaknesses many) (weaknesses few)).length = few := by
    have same : ((weaknesses many).dedup.filter (· ∈ weaknesses few)).Perm (weaknesses few) := by
      refine (List.perm_ext_iff_of_nodup ((List.nodup_dedup _).filter _)
        (nodup_weaknesses few)).mpr fun name => ?_
      simp only [List.mem_filter, List.mem_dedup, decide_eq_true_eq]
      exact and_iff_right_of_imp fun listed => subset listed
    rw [sharedTexts, List.length_insertionSort, same.length_eq, length_weaknesses]
  have union : (weaknesses many ++ weaknesses few).dedup.length = many := by
    have same : (weaknesses many ++ weaknesses few).dedup.Perm (weaknesses many) := by
      refine (List.perm_ext_iff_of_nodup (List.nodup_dedup _)
        (nodup_weaknesses many)).mpr fun name => ?_
      rw [List.mem_dedup, List.mem_append]
      exact or_iff_left_of_imp fun listed => subset listed
    rw [same.length_eq, length_weaknesses]
  unfold cweOverlap
  rw [if_neg missing]
  dsimp only
  rw [shared, union]

/-- A vulnerability of which only the description and the weaknesses are known. -/
def described (cveId : String) (description : Option String) (cweIds : List String) :
    Vulnerability where
  cveId
  description
  publishedAt := none
  lastModifiedAt := none
  cvssScore := none
  cvssVector := none
  cvssVersion := none
  epssScore := none
  epssPercentile := none
  epssDate := none
  kevListed := false
  kevDateAdded := none
  kevDueDate := none
  kevKnownRansomware := none
  cweIds
  vendor := none
  domainGuess := none
  zeroClickRelevance := none
  references := []
  sources := []
  firstSeenAt := 0
  lastUpdatedAt := 0

/-- The points of the other features of such vulnerabilities are those of their weaknesses. -/
theorem otherPoints_described (library : CorrelationLibrary) (weights : CorrelationWeights)
    (cveId cveId' : String) (description description' : Option String) {few many : ℕ}
    (positive : 0 < few) (fewer : few ≤ many) :
    otherPoints library weights (described cveId description (weaknesses many))
      (described cveId' description' (weaknesses few)) [] [] =
        few / many * weights.cweOverlapMax := by
  have unshared : (sharedExperiment library weights (sharedTexts [] [])).1 = 0 := rfl
  have weakness := cweOverlap_weaknesses library weights positive fewer
  change (cweOverlap library weights (weaknesses many) (weaknesses few)).1 + 0 + 0 + 0 +
    (sharedExperiment library weights (sharedTexts [] [])).1 = _
  rw [unshared, weakness]
  ring

/-- Two descriptions which are not empty add their ratio. -/
theorem textSimilarity_of_present (library : CorrelationLibrary) (weights : CorrelationWeights)
    {first second : String} (present : ¬ (first = "" ∨ second = "")) :
    (textSimilarity library weights (some first) (some second)).1 =
      library.ratio (library.lower first) (library.lower second) * weights.textSimilarityMax := by
  unfold textSimilarity
  dsimp only
  rw [if_neg present]

/-- Different ratios are told apart by the score, for some share of common weaknesses. -/
theorem exists_share {low high : ℚ} (apart : low < high) (bounded : high ≤ 1) :
    ∃ share : ℚ, 0 < share ∧ share ≤ 1 ∧
      roundHalfEven (min (share * 25 + low * 20) 100 * 10) <
        roundHalfEven (min (share * 25 + high * 20) 100 * 10) := by
  have ceil := Int.le_ceil (100 * (low + high))
  have next := Int.ceil_lt_add_one (100 * (low + high))
  refine ⟨(⌈100 * (low + high)⌉ + 1 / 2 - 100 * (low + high)) / 250, by linarith, by linarith, ?_⟩
  rw [min_eq_left (by linarith), min_eq_left (by linarith)]
  calc roundHalfEven _ ≤ ⌈100 * (low + high)⌉ := roundHalfEven_le.mpr (Or.inl (by linarith))
    _ < ⌈100 * (low + high)⌉ + 1 := Int.lt_succ _
    _ ≤ roundHalfEven _ := le_roundHalfEven.mpr (Or.inl (by push_cast; linarith))

/-- Descriptions with different ratios have scores which differ, for some weaknesses. -/
theorem exists_weaknesses {first second : ℚ} (firstSmall : first ≤ 1)
    (secondSmall : second ≤ 1) (different : first ≠ second) :
    ∃ few many : ℕ, 0 < few ∧ few ≤ many ∧
      roundHalfEven (min (few / many * 25 + first * 20) 100 * 10) ≠
        roundHalfEven (min (few / many * 25 + second * 20) 100 * 10) := by
  have told : ∃ share : ℚ, 0 < share ∧ share ≤ 1 ∧
      roundHalfEven (min (share * 25 + first * 20) 100 * 10) ≠
        roundHalfEven (min (share * 25 + second * 20) 100 * 10) := by
    rcases lt_or_gt_of_ne different with below | above
    · obtain ⟨share, positive, small, apart⟩ := exists_share below secondSmall
      exact ⟨share, positive, small, apart.ne⟩
    · obtain ⟨share, positive, small, apart⟩ := exists_share above firstSmall
      exact ⟨share, positive, small, apart.ne'⟩
  obtain ⟨share, positive, small, apart⟩ := told
  have count : (share.num.toNat : ℤ) = share.num :=
    Int.toNat_of_nonneg (Rat.num_pos.mpr positive).le
  have fraction : ((share.num.toNat : ℕ) : ℚ) / (share.den : ℕ) = share := by
    have cast : ((share.num.toNat : ℕ) : ℚ) = share.num := by exact_mod_cast count
    rw [cast, Rat.num_div_den]
  refine ⟨share.num.toNat, share.den, ?_, ?_, by rwa [fraction]⟩
  · have numerator := Rat.num_pos.mpr positive
    omega
  · have ratio : share.num ≤ share.den := by
      have bound : ((share.num : ℤ) : ℚ) / (share.den : ℕ) ≤ 1 := by rwa [Rat.num_div_den]
      rw [div_le_one (by exact_mod_cast share.den_pos)] at bound
      exact_mod_cast bound
    omega

/-! ## Symmetric descriptions -/

section Symmetry

variable (autojunk : Bool) (lower : String → String) (repr : List String → String)

/-- Vulnerabilities with two descriptions correlate alike in both orders, whatever their other
fields and experiments, exactly when the descriptions have as many matches in one order as in the
other. -/
theorem symmetric_iff (first second : Option String) :
    (∀ (subject candidate : Vulnerability) (subjectIds candidateIds : List String),
      subject.description = first → candidate.description = second →
        Symmetric autojunk lower repr subject candidate subjectIds candidateIds) ↔
      descriptionMatches autojunk lower first second =
        descriptionMatches autojunk lower second first := by
  constructor
  · intro symmetric
    by_contra different
    cases first with
    | none => exact different (by cases second <;> rfl)
    | some first =>
        cases second with
        | none => exact different rfl
        | some second =>
            by_cases empty : first = "" ∨ second = ""
            · exact different (by simp only [descriptionMatches, if_pos empty, if_pos empty.symm])
            have reversed : ¬ (second = "" ∨ first = "") := fun other => empty other.symm
            simp only [descriptionMatches, if_neg empty, if_neg reversed] at different
            obtain ⟨few, many, positive, fewer, apart⟩ := exists_weaknesses
              (SequenceMatcher.ratio_le_one autojunk (lower first).toList (lower second).toList)
              (SequenceMatcher.ratio_le_one autojunk (lower second).toList (lower first).toList)
              (mt (SequenceMatcher.ratio_comm_iff autojunk _ _).mp different)
            have scores := (symmetric
              (described "CVE-2026-0001" (some first) (weaknesses many))
              (described "CVE-2026-0002" (some second) (weaknesses few)) [] [] rfl rfl).1
            have most : ({} : CorrelationWeights).totalMax = 100 := by
              norm_num [CorrelationWeights.totalMax]
            rw [score_correlate, score_correlate,
              otherPoints_comm _ _ (described "CVE-2026-0002" (some second) (weaknesses few)),
              otherPoints_described _ _ _ _ _ _ positive fewer, most] at scores
            change (roundHalfEven (min (_ + (textSimilarity _ _ (some first) (some second)).1) 100 *
                10) : ℚ) / 10 = (roundHalfEven (min (_ + (textSimilarity _ _ (some second)
                  (some first)).1) 100 * 10) : ℚ) / 10 at scores
            rw [textSimilarity_of_present _ _ empty, textSimilarity_of_present _ _ reversed,
              div_left_inj' (by norm_num), Int.cast_inj] at scores
            exact apart scores
  · rintro same subject candidate subjectIds candidateIds rfl rfl
    exact symmetric_of_matches autojunk lower repr same subjectIds candidateIds

end Symmetry

namespace Anagram

/-- The first `t` of the first text ends the second one, which leaves nothing to match. -/
theorem matched_tide :
    SequenceMatcher.matched true ['t', 'i', 'd', 'e'] ['d', 'i', 'e', 't'] = 1 := by
  unfold SequenceMatcher.matched
  rw [@SequenceMatcher.matchCount_of_found _ _ _ _ _ ⟨0, 3, 1⟩ (by decide) (by decide),
    @SequenceMatcher.matchCount_of_missing _ _ _ _ _ ⟨0, 0, 0⟩ (by decide) rfl,
    @SequenceMatcher.matchCount_of_missing _ _ _ _ _ ⟨0, 0, 0⟩ (by decide) rfl]

/-- The `d` of the first text leaves an `e` behind it in both texts. -/
theorem matched_diet :
    SequenceMatcher.matched true ['d', 'i', 'e', 't'] ['t', 'i', 'd', 'e'] = 2 := by
  unfold SequenceMatcher.matched
  rw [@SequenceMatcher.matchCount_of_found _ _ _ _ _ ⟨0, 2, 1⟩ (by decide) (by decide),
    @SequenceMatcher.matchCount_of_missing _ _ _ _ _ ⟨0, 0, 0⟩ (by decide) rfl,
    @SequenceMatcher.matchCount_of_found _ _ _ _ _ ⟨1, 0, 1⟩ (by decide) (by decide),
    @SequenceMatcher.matchCount_of_missing _ _ _ _ _ ⟨0, 0, 0⟩ (by decide) rfl,
    @SequenceMatcher.matchCount_of_missing _ _ _ _ _ ⟨0, 0, 0⟩ (by decide) rfl]
  rfl

def library : CorrelationLibrary :=
  matcherLibrary true lower ExperimentDefinition.listText

def tide : Vulnerability :=
  described "CVE-2026-0001" (some "tide") []

def diet : Vulnerability :=
  described "CVE-2026-0002" (some "diet") []

end Anagram

/-- The score of two anagrams depends on their order. -/
theorem scores_of_anagrams :
    (correlate Anagram.library {} Anagram.tide Anagram.diet [] []).score = 5 ∧
      (correlate Anagram.library {} Anagram.diet Anagram.tide [] []).score = 10 := by
  have present : ¬ ("tide" = "" ∨ "diet" = "") := by decide
  have tideText : (lower "tide").toList = ['t', 'i', 'd', 'e'] := by decide
  have dietText : (lower "diet").toList = ['d', 'i', 'e', 't'] := by decide
  have forward : (textSimilarity Anagram.library {} (some "tide") (some "diet")).1 = 5 := by
    rw [textSimilarity_of_present _ _ present]
    change SequenceMatcher.ratio true (lower "tide").toList (lower "diet").toList * 20 = 5
    rw [tideText, dietText, SequenceMatcher.ratio, Anagram.matched_tide]
    norm_num
  have backward : (textSimilarity Anagram.library {} (some "diet") (some "tide")).1 = 10 := by
    rw [textSimilarity_of_present _ _ fun other => present other.symm]
    change SequenceMatcher.ratio true (lower "diet").toList (lower "tide").toList * 20 = 10
    rw [tideText, dietText, SequenceMatcher.ratio, Anagram.matched_diet]
    norm_num
  constructor
  · rw [score_correlate]
    change (roundHalfEven (min (0 + 0 + 0 + 0 + 0 +
      (textSimilarity Anagram.library {} (some "tide") (some "diet")).1) _ * 10) : ℚ) / 10 = 5
    rw [forward]
    decide +kernel
  · rw [score_correlate]
    change (roundHalfEven (min (0 + 0 + 0 + 0 + 0 +
      (textSimilarity Anagram.library {} (some "diet") (some "tide")).1) _ * 10) : ℚ) / 10 = 10
    rw [backward]
    decide +kernel

end ZeroShield.Intelligence
