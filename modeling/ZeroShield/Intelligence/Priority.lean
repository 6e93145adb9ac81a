import ZeroShield.Foundation.Rounding
import ZeroShield.Models.Intelligence

/-!
# The validation priority

Five weighted contributions are summed up, capped at the weights' total and labelled by three
thresholds.  The label is taken from the exact sum, the reported score is the sum rounded to one
decimal place, so just below a threshold the two disagree.
-/

namespace ZeroShield.Intelligence

open Foundation Models

/-! ## Scores -/

/-- The largest contribution of each input. -/
structure PriorityWeights where
  cvssMax : ℚ := 30
  epssMax : ℚ := 25
  kevFlat : ℚ := 20
  domainMax : ℚ := 15
  noCoverageFlat : ℚ := 10

namespace PriorityWeights

def totalMax (weights : PriorityWeights) : ℚ :=
  weights.cvssMax + weights.epssMax + weights.kevFlat + weights.domainMax + weights.noCoverageFlat

/-- No weight is negative. -/
structure Nonnegative (weights : PriorityWeights) : Prop where
  cvssMax : 0 ≤ weights.cvssMax
  epssMax : 0 ≤ weights.epssMax
  kevFlat : 0 ≤ weights.kevFlat
  domainMax : 0 ≤ weights.domainMax
  noCoverageFlat : 0 ≤ weights.noCoverageFlat

end PriorityWeights

structure PriorityResult where
  score : ℚ
  label : PriorityLabel
  explanation : List String

def labelForScore (score : ℚ) : PriorityLabel :=
  if 85 ≤ score then .critical
  else if 65 ≤ score then .high
  else if 40 ≤ score then .medium
  else .low

/-- The points of the domain with their reason.  A relevance which is not known gets half credit. -/
def domainPoints (supportStatus : SupportStatus) (zeroClick : Option ZeroClickRelevance)
    (weights : PriorityWeights) : ℚ × String :=
  if supportStatus = .unsupported then
    (0, "Domain is UNSUPPORTED (no installed validation pack applies): +0.0")
  else
    let base := if supportStatus = .supported then weights.domainMax else weights.domainMax / 2
    let statusLabel := (StringEnum.value supportStatus).toUpper
    let (points, reason) : ℚ × String :=
      match zeroClick with
      | some .high =>
          (base, "Domain is " ++ statusLabel ++ " and zero-interaction relevance is HIGH")
      | some .medium =>
          (base * (1 / 2), "Domain is " ++ statusLabel ++
            " and zero-interaction relevance is MEDIUM")
      | some .low => (0, "Domain is " ++ statusLabel ++ " but zero-interaction relevance is LOW")
      | none =>
          (base * (1 / 2), "Domain is " ++ statusLabel ++
            "; zero-interaction relevance unknown (no bonus/penalty applied)")
    (points, reason ++ ": +" ++ fixed 1 points ++ "/" ++ fixed 1 weights.domainMax)

/-- The points of a score out of ten. -/
def cvssPoints (cvssScore : Option ℚ) (weights : PriorityWeights) : ℚ × String :=
  match cvssScore with
  | some cvss =>
      let points := cvss / 10 * weights.cvssMax
      (points, "CVSS " ++ fixed 1 cvss ++ "/10 contributes " ++ fixed 1 points ++ "/" ++
        fixed 1 weights.cvssMax)
  | none => (0, "No CVSS score available: +0.0/" ++ fixed 1 weights.cvssMax)

/-- The points of a probability. -/
def epssPoints (epssScore : Option ℚ) (weights : PriorityWeights) : ℚ × String :=
  match epssScore with
  | some epss =>
      let points := epss * weights.epssMax
      (points, "EPSS " ++ fixed 3 epss ++ " contributes " ++ fixed 1 points ++ "/" ++
        fixed 1 weights.epssMax)
  | none => (0, "No EPSS score available: +0.0/" ++ fixed 1 weights.epssMax)

def kevPoints (kevListed : Bool) (weights : PriorityWeights) : ℚ × String :=
  if kevListed then (weights.kevFlat, "Listed in CISA KEV: +" ++ fixed 1 weights.kevFlat)
  else (0, "Not listed in CISA KEV: +0.0")

def coveragePoints (hasExistingValidationCoverage : Bool) (weights : PriorityWeights) :
    ℚ × String :=
  if hasExistingValidationCoverage then (0, "Already covered by an existing experiment: +0.0")
  else
    (weights.noCoverageFlat,
      "No existing validation coverage for this CVE: +" ++ fixed 1 weights.noCoverageFlat)

/-- A number rounded to one decimal place. -/
def roundTenth (value : ℚ) : ℚ :=
  roundHalfEven (value * 10) / 10

/-- A number written without decimal places. -/
def wholeText (value : ℚ) : String :=
  (if value < 0 then "-" else "") ++ toString (roundHalfEven |value|)

/-- The priority of a vulnerability, with a reason for every point. -/
def score (vulnerability : Vulnerability) (supportStatus : SupportStatus)
    (hasExistingValidationCoverage : Bool) (weights : PriorityWeights := {}) : PriorityResult :=
  let cvss := cvssPoints vulnerability.cvssScore weights
  let epss := epssPoints vulnerability.epssScore weights
  let kev := kevPoints vulnerability.kevListed weights
  let domain := domainPoints supportStatus vulnerability.zeroClickRelevance weights
  let coverage := coveragePoints hasExistingValidationCoverage weights
  let total := min (cvss.1 + epss.1 + kev.1 + domain.1 + coverage.1) weights.totalMax
  let label := labelForScore total
  { score := roundTenth total
    label
    explanation :=
      [cvss.2, epss.2, kev.2, domain.2, coverage.2,
        "Total: " ++ fixed 1 total ++ "/" ++ wholeText weights.totalMax ++ " -> " ++
          (StringEnum.value label).toUpper] }

/-! ## The sum of the contributions -/

/-- The share of its points which a domain of a given support is worth. -/
def statusShare : SupportStatus → ℚ
  | .supported => 1
  | .partiallySupported => 1 / 2
  | .unsupported => 0

/-- The share of its points which a domain of a given relevance is worth. -/
def relevanceShare : Option ZeroClickRelevance → ℚ
  | some .high => 1
  | some .medium | none => 1 / 2
  | some .low => 0

/-- The sum of the five contributions. -/
def contributions (vulnerability : Vulnerability) (supportStatus : SupportStatus)
    (hasExistingValidationCoverage : Bool) (weights : PriorityWeights) : ℚ :=
  vulnerability.cvssScore.getD 0 / 10 * weights.cvssMax +
    vulnerability.epssScore.getD 0 * weights.epssMax +
    (if vulnerability.kevListed then weights.kevFlat else 0) +
    statusShare supportStatus * relevanceShare vulnerability.zeroClickRelevance *
      weights.domainMax +
    (if hasExistingValidationCoverage then 0 else weights.noCoverageFlat)

section Contributions

variable {vulnerability : Vulnerability} {supportStatus : SupportStatus} {covered : Bool}
  {weights : PriorityWeights}

theorem domainPoints_fst {zeroClick : Option ZeroClickRelevance} :
    (domainPoints supportStatus zeroClick weights).1 =
      statusShare supportStatus * relevanceShare zeroClick * weights.domainMax := by
  cases supportStatus with
  | unsupported => simp [domainPoints, statusShare]
  | supported =>
      rcases zeroClick with _ | _ | _ | _ <;>
        simp [domainPoints, statusShare, relevanceShare] <;> ring
  | partiallySupported =>
      rcases zeroClick with _ | _ | _ | _ <;>
        simp [domainPoints, statusShare, relevanceShare] <;> ring

theorem statusShare_nonneg (supportStatus : SupportStatus) : 0 ≤ statusShare supportStatus := by
  cases supportStatus <;> norm_num [statusShare]

theorem statusShare_le_one (supportStatus : SupportStatus) : statusShare supportStatus ≤ 1 := by
  cases supportStatus <;> norm_num [statusShare]

theorem relevanceShare_nonneg (zeroClick : Option ZeroClickRelevance) :
    0 ≤ relevanceShare zeroClick := by
  rcases zeroClick with _ | _ | _ | _ <;> norm_num [relevanceShare]

theorem relevanceShare_le_one (zeroClick : Option ZeroClickRelevance) :
    relevanceShare zeroClick ≤ 1 := by
  rcases zeroClick with _ | _ | _ | _ <;> norm_num [relevanceShare]

theorem total_eq_contributions :
    (cvssPoints vulnerability.cvssScore weights).1 +
    (epssPoints vulnerability.epssScore weights).1 +
        (kevPoints vulnerability.kevListed weights).1 +
        (domainPoints supportStatus vulnerability.zeroClickRelevance weights).1 +
        (coveragePoints covered weights).1 =
      contributions vulnerability supportStatus covered weights := by
  have cvss : (cvssPoints vulnerability.cvssScore weights).1 =
      vulnerability.cvssScore.getD 0 / 10 * weights.cvssMax := by
    cases vulnerability.cvssScore <;> simp [cvssPoints]
  have epss : (epssPoints vulnerability.epssScore weights).1 =
      vulnerability.epssScore.getD 0 * weights.epssMax := by
    cases vulnerability.epssScore <;> simp [epssPoints]
  have kev : (kevPoints vulnerability.kevListed weights).1 =
      if vulnerability.kevListed then weights.kevFlat else 0 := by
    cases vulnerability.kevListed <;> rfl
  have coverage : (coveragePoints covered weights).1 =
      if covered then 0 else weights.noCoverageFlat := by
    cases covered <;> rfl
  rw [cvss, epss, kev, coverage, domainPoints_fst, contributions]

theorem requireUpTo_eq_nil {name : String} {high : ℚ} {value : Option ℚ} :
    requireUpTo name high value = [] ↔ ∀ number ∈ value, 0 ≤ number ∧ number ≤ high := by
  cases value <;> simp [requireUpTo]

/-- The scores of a vulnerability are shares of their weights. -/
theorem shares_of_valid (valid : vulnerability.errors = []) :
    (0 ≤ vulnerability.cvssScore.getD 0 ∧ vulnerability.cvssScore.getD 0 ≤ 10) ∧
      0 ≤ vulnerability.epssScore.getD 0 ∧ vulnerability.epssScore.getD 0 ≤ 1 := by
  obtain ⟨⟨⟨-, cvss⟩, epss⟩, -⟩ := by
    simpa only [Vulnerability.errors, List.append_eq_nil_iff] using valid
  constructor
  · cases given : vulnerability.cvssScore with
    | none => norm_num
    | some cvssScore => exact requireUpTo_eq_nil.mp cvss cvssScore given
  · cases given : vulnerability.epssScore with
    | none => norm_num
    | some epssScore => exact requireUpTo_eq_nil.mp epss epssScore given

/-- No contribution is negative or above its weight. -/
theorem contributions_mem (supportStatus : SupportStatus) (covered : Bool)
    (valid : vulnerability.errors = []) (nonnegative : weights.Nonnegative) :
    0 ≤ contributions vulnerability supportStatus covered weights ∧
      contributions vulnerability supportStatus covered weights ≤ weights.totalMax := by
  obtain ⟨⟨cvss, cvssHigh⟩, epss, epssHigh⟩ := shares_of_valid valid
  have kev : 0 ≤ (if vulnerability.kevListed then weights.kevFlat else 0) ∧
      (if vulnerability.kevListed then weights.kevFlat else 0) ≤ weights.kevFlat := by
    split
    · exact ⟨nonnegative.kevFlat, le_rfl⟩
    · exact ⟨le_rfl, nonnegative.kevFlat⟩
  have coverage : 0 ≤ (if covered then 0 else weights.noCoverageFlat) ∧
      (if covered then 0 else weights.noCoverageFlat) ≤ weights.noCoverageFlat := by
    split
    · exact ⟨le_rfl, nonnegative.noCoverageFlat⟩
    · exact ⟨nonnegative.noCoverageFlat, le_rfl⟩
  have cvssShare : vulnerability.cvssScore.getD 0 / 10 ≤ 1 := by linarith
  have relevance := relevanceShare_nonneg vulnerability.zeroClickRelevance
  have domain := mul_nonneg (statusShare_nonneg supportStatus) relevance
  have domainHigh := mul_le_one₀ (statusShare_le_one supportStatus) relevance
    (relevanceShare_le_one _)
  unfold contributions PriorityWeights.totalMax
  constructor
  · have first := mul_nonneg (div_nonneg cvss (by norm_num : (0 : ℚ) ≤ 10)) nonnegative.cvssMax
    have second := mul_nonneg epss nonnegative.epssMax
    have fourth := mul_nonneg domain nonnegative.domainMax
    linarith
  · have first := mul_le_of_le_one_left nonnegative.cvssMax cvssShare
    have second := mul_le_of_le_one_left nonnegative.epssMax epssHigh
    have fourth := mul_le_of_le_one_left nonnegative.domainMax domainHigh
    linarith

/-- The cap never binds. -/
theorem score_eq (supportStatus : SupportStatus) (covered : Bool)
    (valid : vulnerability.errors = []) (nonnegative : weights.Nonnegative) :
    (score vulnerability supportStatus covered weights).score =
        roundTenth (contributions vulnerability supportStatus covered weights) ∧
      (score vulnerability supportStatus covered weights).label =
        labelForScore (contributions vulnerability supportStatus covered weights) := by
  have capped := min_eq_left (contributions_mem supportStatus covered valid nonnegative).2
  unfold score
  dsimp only
  rw [total_eq_contributions, capped]
  exact ⟨rfl, rfl⟩

end Contributions

/-! ## Monotonicity -/

/-- The place of a status in the order of support. -/
def supportRank : SupportStatus → ℕ
  | .unsupported => 0
  | .partiallySupported => 1
  | .supported => 2

/-- A number which is missing lies below every number. -/
def AtMost (lower higher : Option ℚ) : Prop :=
  ∀ low ∈ lower, ∃ high ∈ higher, low ≤ high

/-- Every input of the priority is raised or stays as it is; coverage may only be taken away. -/
structure Raised (lower : Vulnerability) (lowerStatus : SupportStatus) (lowerCovered : Bool)
    (higher : Vulnerability) (higherStatus : SupportStatus) (higherCovered : Bool) : Prop where
  cvss : AtMost lower.cvssScore higher.cvssScore
  epss : AtMost lower.epssScore higher.epssScore
  kev : lower.kevListed = true → higher.kevListed = true
  status : supportRank lowerStatus ≤ supportRank higherStatus
  relevance : higher.zeroClickRelevance = lower.zeroClickRelevance
  coverage : higherCovered = true → lowerCovered = true

section Monotone

variable {lower higher : Vulnerability} {lowerStatus higherStatus : SupportStatus}
  {lowerCovered higherCovered : Bool} {weights : PriorityWeights}

theorem statusShare_mono (raised : supportRank lowerStatus ≤ supportRank higherStatus) :
    statusShare lowerStatus ≤ statusShare higherStatus := by
  cases lowerStatus <;> cases higherStatus <;>
    first | exact absurd raised (by decide) | norm_num [statusShare]

theorem AtMost.getD_le {low high : Option ℚ} (ordered : AtMost low high)
    (nonnegative : 0 ≤ high.getD 0) : low.getD 0 ≤ high.getD 0 := by
  cases low with
  | none => exact nonnegative
  | some value =>
      obtain ⟨other, given, below⟩ := ordered value rfl
      rw [Option.mem_def] at given
      rw [given]
      exact below

theorem contributions_mono
    (raised : Raised lower lowerStatus lowerCovered higher higherStatus higherCovered)
    (valid : higher.errors = []) (nonnegative : weights.Nonnegative) :
    contributions lower lowerStatus lowerCovered weights ≤
      contributions higher higherStatus higherCovered weights := by
  obtain ⟨⟨cvss, -⟩, epss, -⟩ := shares_of_valid valid
  have first := mul_le_mul_of_nonneg_right (div_le_div_of_nonneg_right
    (raised.cvss.getD_le cvss) (by norm_num : (0 : ℚ) ≤ 10)) nonnegative.cvssMax
  have second := mul_le_mul_of_nonneg_right (raised.epss.getD_le epss) nonnegative.epssMax
  have third : (if lower.kevListed then weights.kevFlat else 0) ≤
      if higher.kevListed then weights.kevFlat else 0 := by
    by_cases listed : lower.kevListed = true
    · rw [if_pos listed, if_pos (raised.kev listed)]
    · rw [if_neg listed]
      split
      · exact nonnegative.kevFlat
      · exact le_rfl
  have fourth := mul_le_mul_of_nonneg_right (mul_le_mul_of_nonneg_right
    (statusShare_mono raised.status) (relevanceShare_nonneg lower.zeroClickRelevance))
    nonnegative.domainMax
  have fifth : (if lowerCovered then 0 else weights.noCoverageFlat) ≤
      if higherCovered then 0 else weights.noCoverageFlat := by
    by_cases covered : higherCovered = true
    · rw [if_pos covered, if_pos (raised.coverage covered)]
    · rw [if_neg covered]
      split
      · exact nonnegative.noCoverageFlat
      · exact le_rfl
  unfold contributions
  rw [raised.relevance]
  linarith

end Monotone

/-! ## Rounding the score -/

section Rounding

variable {value total lower higher : ℚ}

theorem roundTenth_mono (ordered : lower ≤ higher) : roundTenth lower ≤ roundTenth higher := by
  have rounded : roundHalfEven (lower * 10) ≤ roundHalfEven (higher * 10) :=
    roundHalfEven_mono (by linarith)
  have cast : (roundHalfEven (lower * 10) : ℚ) ≤ roundHalfEven (higher * 10) := by
    exact_mod_cast rounded
  unfold roundTenth
  linarith

/-- A rounded value reaches a whole number from a twentieth below it. -/
theorem le_roundTenth {bound : ℤ} :
    (bound : ℚ) ≤ roundTenth value ↔ (bound : ℚ) - 1 / 20 ≤ value := by
  have even : bound * 10 % 2 = 0 := by omega
  have reached := @le_roundHalfEven_of_even (value * 10) _ even
  push_cast at reached
  have scaled : (bound : ℚ) ≤ roundTenth value ↔ bound * 10 ≤ roundHalfEven (value * 10) := by
    rw [roundTenth, le_div_iff₀ (by norm_num)]
    exact_mod_cast Iff.rfl
  rw [scaled, reached]
  constructor <;> intro near <;> linarith

/-- The sum is not so close below the total that it is rounded to the next tenth above it. -/
def RoundsWithin (sum total : ℚ) : Prop :=
  sum * 10 < ⌊total * 10⌋ + 1 / 2 ∨
    (sum * 10 = ⌊total * 10⌋ + 1 / 2 ∧ ⌊total * 10⌋ % 2 = 0)

theorem roundTenth_le : roundTenth value ≤ total ↔ RoundsWithin value total := by
  have scaled : roundTenth value ≤ total ↔ roundHalfEven (value * 10) ≤ ⌊total * 10⌋ := by
    rw [roundTenth, div_le_iff₀ (by norm_num), Int.le_floor]
  rw [scaled, roundHalfEven_le]
  rfl

/-- Two scores have one label when they lie on the same side of every threshold. -/
theorem labelForScore_eq_iff :
    labelForScore lower = labelForScore higher ↔
      (85 ≤ lower ↔ 85 ≤ higher) ∧ (65 ≤ lower ↔ 65 ≤ higher) ∧ (40 ≤ lower ↔ 40 ≤ higher) := by
  unfold labelForScore
  constructor
  · intro equal
    refine ⟨?_, ?_, ?_⟩ <;> constructor <;> intro reached <;> by_contra below <;>
      split_ifs at equal <;> linarith
  · rintro ⟨critical, high, medium⟩
    rw [if_congr critical rfl rfl, if_congr high rfl rfl, if_congr medium rfl rfl]

/-- The sum lies less than a twentieth below a threshold. -/
def JustBelow (threshold sum : ℚ) : Prop :=
  threshold - 1 / 20 ≤ sum ∧ sum < threshold

theorem threshold_iff {threshold : ℤ} :
    ((threshold : ℚ) ≤ value ↔ (threshold : ℚ) ≤ roundTenth value) ↔
      ¬JustBelow threshold value := by
  rw [le_roundTenth]
  constructor
  · intro same ⟨near, below⟩
    exact absurd (same.mpr near) (not_le.mpr below)
  · intro apart
    constructor
    · intro reached
      linarith
    · intro near
      by_contra below
      exact apart ⟨near, not_le.mp below⟩

theorem labelForScore_roundTenth :
    labelForScore value = labelForScore (roundTenth value) ↔
      ¬JustBelow 85 value ∧ ¬JustBelow 65 value ∧ ¬JustBelow 40 value := by
  have critical := @threshold_iff value 85
  have high := @threshold_iff value 65
  have medium := @threshold_iff value 40
  push_cast at critical high medium
  rw [labelForScore_eq_iff, critical, high, medium]

end Rounding

/-- The score lies between zero and the weights' total, grows with every input and has the reported
label, if and only if the sum of the contributions is not rounded above the total and does not lie
just below a threshold. -/
theorem score_consistent_iff (vulnerability : Vulnerability) (supportStatus : SupportStatus)
    (covered : Bool) (weights : PriorityWeights) (valid : vulnerability.errors = [])
    (nonnegative : weights.Nonnegative) :
    ((0 ≤ (score vulnerability supportStatus covered weights).score ∧
        (score vulnerability supportStatus covered weights).score ≤ weights.totalMax) ∧
      (∀ higher higherStatus higherCovered, higher.errors = [] →
        Raised vulnerability supportStatus covered higher higherStatus higherCovered →
        (score vulnerability supportStatus covered weights).score ≤
          (score higher higherStatus higherCovered weights).score) ∧
      (∀ lower lowerStatus lowerCovered, lower.errors = [] →
        Raised lower lowerStatus lowerCovered vulnerability supportStatus covered →
        (score lower lowerStatus lowerCovered weights).score ≤
          (score vulnerability supportStatus covered weights).score) ∧
      (score vulnerability supportStatus covered weights).label =
        labelForScore (score vulnerability supportStatus covered weights).score) ↔
      RoundsWithin (contributions vulnerability supportStatus covered weights) weights.totalMax ∧
        ¬JustBelow 85 (contributions vulnerability supportStatus covered weights) ∧
        ¬JustBelow 65 (contributions vulnerability supportStatus covered weights) ∧
        ¬JustBelow 40 (contributions vulnerability supportStatus covered weights) := by
  obtain ⟨scoreEq, labelEq⟩ := score_eq supportStatus covered valid nonnegative
  have atLeast := (contributions_mem supportStatus covered valid nonnegative).1
  rw [scoreEq, labelEq, roundTenth_le, labelForScore_roundTenth]
  constructor
  · intro ⟨⟨_, within⟩, _, _, apart⟩
    exact ⟨within, apart⟩
  · intro ⟨within, apart⟩
    refine ⟨⟨?_, within⟩, ?_, ?_, apart⟩
    · have reached := @le_roundTenth
        (contributions vulnerability supportStatus covered weights) 0
      push_cast at reached
      exact reached.mpr (by linarith)
    · intro higher higherStatus higherCovered higherValid raised
      rw [(score_eq _ _ higherValid nonnegative).1]
      exact roundTenth_mono (contributions_mono raised higherValid nonnegative)
    · intro lower lowerStatus lowerCovered lowerValid raised
      rw [(score_eq _ _ lowerValid nonnegative).1]
      exact roundTenth_mono (contributions_mono raised valid nonnegative)

/-! ## A sum just below a threshold -/

namespace Sample

/-- A listed vulnerability with a CVSS score of 9.8. -/
def listed (epssScore : ℚ) : Vulnerability where
  cveId := "CVE-2024-21762"
  description := none
  publishedAt := none
  lastModifiedAt := none
  cvssScore := some (49 / 5)
  cvssVector := none
  cvssVersion := none
  epssScore := some epssScore
  epssPercentile := none
  epssDate := none
  kevListed := true
  kevDateAdded := none
  kevDueDate := none
  kevKnownRansomware := none
  cweIds := []
  vendor := none
  domainGuess := none
  zeroClickRelevance := some .high
  references := []
  sources := []
  firstSeenAt := 0
  lastUpdatedAt := 0

theorem default_nonnegative : ({} : PriorityWeights).Nonnegative := by
  constructor <;> norm_num

end Sample

/-- With an EPSS score of 0.5 the sum is well above the highest threshold. -/
theorem score_consistent_iff_of_sample :
    (score (Sample.listed (1 / 2)) .supported false).label =
      labelForScore (score (Sample.listed (1 / 2)) .supported false).score := by
  have consistent := score_consistent_iff (Sample.listed (1 / 2)) .supported false {}
    (by decide +kernel) Sample.default_nonnegative
  refine (consistent.mpr ⟨?_, ?_, ?_, ?_⟩).2.2.2 <;>
    norm_num [RoundsWithin, JustBelow, contributions, Sample.listed, statusShare, relevanceShare,
      PriorityWeights.totalMax]

/-- With an EPSS score of 0.4225 the sum is 84.9625: the label is high, while the reported score of
85 is critical. -/
theorem score_label_of_rounded :
    (Sample.listed (169 / 400)).errors = [] ∧ ({} : PriorityWeights).Nonnegative ∧
    (score (Sample.listed (169 / 400)) .supported false).score = 85 ∧
    (score (Sample.listed (169 / 400)) .supported false).label ≠
      labelForScore (score (Sample.listed (169 / 400)) .supported false).score := by
  refine ⟨by decide +kernel, Sample.default_nonnegative, ?_, ?_⟩
  · decide +kernel
  · decide +kernel

end ZeroShield.Intelligence
