import Mathlib.Tactic.Linarith
import ZeroShield.Intelligence.ExcelImporter

/-!
# Percentages

A percentage is told from a number between zero and one by its size, after the percent sign is gone.
Numbers are doubles: the hundredth part of a percentage is rounded a second time.
-/

namespace ZeroShield.Intelligence

open Foundation Models

/-- A decimal with a percent sign. -/
def percentText (x : Decimal) : String :=
  String.ofList (x.text ++ ['%'])

/-- The score of a percentage is the double nearest to its hundredth part, and that of the number
which is written without a percent sign. -/
structure AsPercentage (texts : Texts) (x : Decimal) : Prop where
  score : parsePercentage texts (.text (percentText x)) =
    .ok (some (nearestDouble (x.value / 100)))
  agrees : parsePercentage texts (.text (percentText x)) =
    parsePercentage texts (.float (nearestDouble (x.value / 100)))
  agreesWritten : ∀ bare : Decimal, bare.value = x.value / 100 →
    parsePercentage texts (.text (percentText x)) =
      parsePercentage texts (.text (String.ofList bare.text))

/-- A percentage is rounded to zero, or it is rounded to more than one and its hundredth part is not
changed by that rounding. -/
def Divided (x : Decimal) : Prop :=
  nearestDouble x.value = 0 ∨
    1 < nearestDouble x.value ∧
      nearestDouble (nearestDouble x.value / 100) = nearestDouble (x.value / 100)

section Percent

variable {texts : Texts} {x y : Decimal}

theorem dropWhile_percent_text :
    x.text.reverse.dropWhile (fun c => decide (c = '%')) = x.text.reverse := by
  refine List.dropWhile_eq_self_iff.mpr fun some => ?_
  have other := x.forall_mem_text (p := (· ≠ '%')) (by decide) _
    (List.mem_reverse.mp (List.getElem_mem some))
  simpa using other

theorem stripPercent_text : stripPercent (String.ofList x.text) = String.ofList x.text := by
  rw [stripPercent, String.toList_ofList, dropWhile_percent_text, List.reverse_reverse]

theorem stripPercent_percentText : stripPercent (percentText x) = String.ofList x.text := by
  rw [stripPercent, percentText, String.toList_ofList, List.reverse_append, List.reverse_singleton,
    List.singleton_append, List.dropWhile_cons_of_pos (by decide), dropWhile_percent_text,
    List.reverse_reverse]

theorem strip_percentText : strip (percentText x) = percentText x := by
  refine strip_eq_self fun c member => ?_
  rcases List.mem_append.mp member with own | own
  · exact x.forall_mem_text (p := fun c => isWhiteSpace c = false) (by decide) c own
  · obtain rfl := List.mem_singleton.mp own
    decide

theorem nearestDouble_le_natCast {value : ℚ} {number : ℕ} (nonneg : 0 ≤ value)
    (few : number ≤ 2 ^ 53) (bounded : value ≤ number) : nearestDouble value ≤ number := by
  rw [← nearestDouble_of_isDouble (isDouble_natCast few)]
  exact nearestDouble_mono nonneg bounded

theorem nearestDouble_le_one {value : ℚ} (nonneg : 0 ≤ value) (bounded : value ≤ 1) :
    nearestDouble value ≤ 1 := by
  have rounded := @nearestDouble_le_natCast value 1 nonneg (by decide) (by rwa [Nat.cast_one])
  rwa [Nat.cast_one] at rounded

/-- What is read of the text of a decimal which is at most a hundred. -/
theorem parsePercentage_of_read {text : String} (bounded : x.value ≤ 100)
    (read : stripPercent (strip text) = String.ofList x.text) :
    parsePercentage texts (.text text) =
      .ok (some (if 1 < nearestDouble x.value then nearestDouble (nearestDouble x.value / 100)
        else nearestDouble x.value)) := by
  have nonneg := x.value_nonneg
  have rounded : 0 ≤ nearestDouble x.value := by
    simpa [nearestDouble_zero] using nearestDouble_mono le_rfl nonneg
  have top : nearestDouble x.value ≤ 100 := nearestDouble_le_natCast nonneg (by decide) bounded
  have small : x.value < (floatBound : ℚ) := by
    have bound : (100 : ℚ) < floatBound := by
      exact_mod_cast (by decide +kernel : 100 < floatBound)
    linarith
  have inRange : 0 ≤ (if 1 < nearestDouble x.value then nearestDouble (nearestDouble x.value / 100)
        else nearestDouble x.value) ∧
      (if 1 < nearestDouble x.value then nearestDouble (nearestDouble x.value / 100)
        else nearestDouble x.value) ≤ 1 := by
    have part : 0 ≤ nearestDouble x.value / 100 := by linarith
    split
    next =>
      refine ⟨by simpa [nearestDouble_zero] using nearestDouble_mono le_rfl part, ?_⟩
      exact nearestDouble_le_one part (by linarith)
    next low => exact ⟨rounded, not_lt.mp low⟩
  simp only [parsePercentage, Cell.str, read, float_text small, Option.bind_some, scaled,
    numberUpTo, if_pos inRange]

/-- The number is read, and is taken for a percentage when it is larger than one. -/
theorem parsePercentage_percentText (bounded : x.value ≤ 100) :
    parsePercentage texts (.text (percentText x)) =
      .ok (some (if 1 < nearestDouble x.value then nearestDouble (nearestDouble x.value / 100)
        else nearestDouble x.value)) :=
  parsePercentage_of_read bounded (by rw [strip_percentText, stripPercent_percentText])

/-- A number between zero and one is read as it is. -/
theorem parsePercentage_text (bounded : x.value ≤ 1) :
    parsePercentage texts (.text (String.ofList x.text)) =
      .ok (some (nearestDouble x.value)) := by
  have solid : strip (String.ofList x.text) = String.ofList x.text :=
    strip_eq_self (x.forall_mem_text (p := fun c => isWhiteSpace c = false) (by decide))
  have top : nearestDouble x.value ≤ 1 := nearestDouble_le_one x.value_nonneg bounded
  rw [parsePercentage_of_read (by linarith) (by rw [solid, stripPercent_text]),
    if_neg (not_lt.mpr top)]

theorem parsePercentage_float {score : ℚ} (nonneg : 0 ≤ score) (bounded : score ≤ 1) :
    parsePercentage texts (.float score) = .ok (some score) := by
  change Except.ok (numberUpTo 1 (.finite score)) = _
  rw [numberUpTo, if_pos ⟨nonneg, bounded⟩]

/-- A percentage is read as one exactly when its number is divided without a loss. -/
theorem asPercentage_of_bounded (bounded : x.value ≤ 100) : AsPercentage texts x ↔ Divided x := by
  have parsed := @parsePercentage_percentText texts x bounded
  have nonneg := x.value_nonneg
  have part : 0 ≤ x.value / 100 := by linarith
  constructor
  · intro percentage
    have same := percentage.score
    rw [parsed, Except.ok.injEq, Option.some.injEq] at same
    split at same
    next large => exact Or.inr ⟨large, same⟩
    next =>
      refine Or.inl (by_contra fun rounded => ?_)
      exact (nearestDouble_div_lt nonneg rounded).ne same.symm
  · intro divided
    have score : parsePercentage texts (.text (percentText x)) =
        .ok (some (nearestDouble (x.value / 100))) := by
      rw [parsed]
      rcases divided with zero | ⟨large, same⟩
      · have none : nearestDouble (x.value / 100) = 0 := by
          refine le_antisymm ?_ ?_
          · exact zero ▸ nearestDouble_mono part (by linarith)
          · simpa [nearestDouble_zero] using nearestDouble_mono le_rfl part
        rw [zero, none, if_neg (by norm_num)]
      · rw [if_pos large, same]
    refine ⟨score, ?_, ?_⟩
    · rw [score, parsePercentage_float]
      · simpa [nearestDouble_zero] using nearestDouble_mono le_rfl part
      · exact nearestDouble_le_one part (by linarith)
    · intro bare written
      rw [score, parsePercentage_text (by linarith), written]

/-- The score of a row is what its cell is read as. -/
theorem epssScore_of_row {header row : List Cell} {cveId : String}
    {contribution : NormalisedContribution}
    (imported : rowContribution texts header cveId row = .ok contribution) :
    parsePercentage texts (col texts header row "EPSS Score") = .ok contribution.epssScore := by
  obtain ⟨cvssScore, -, imported⟩ := bind_eq_ok.mp imported
  obtain ⟨epssScore, parsed, imported⟩ := bind_eq_ok.mp imported
  cases imported
  exact parsed

theorem epssScore_of_percentText (bounded : x.value ≤ 100) {header row : List Cell} {cveId : String}
    {contribution : NormalisedContribution}
    (imported : rowContribution texts header cveId row = .ok contribution)
    (cell : col texts header row "EPSS Score" = .text (percentText x)) (divided : Divided x) :
    contribution.epssScore = some (nearestDouble (x.value / 100)) := by
  have own := epssScore_of_row imported
  rw [cell, ((asPercentage_of_bounded bounded).mpr divided).score] at own
  exact (Except.ok.inj own).symm

/-- The hundredth part of more than one is not rounded to zero. -/
theorem nearestDouble_div_pos {value : ℚ} (nonneg : 0 ≤ value) (large : 1 < nearestDouble value) :
    0 < nearestDouble (value / 100) := by
  have held : IsDouble (1 / 256 : ℚ) := ⟨1, -8, by decide, by decide, by norm_num⟩
  have half := nearestDouble_le_two_mul nonneg
  calc (0 : ℚ) < 1 / 256 := by norm_num
    _ = nearestDouble (1 / 256) := (nearestDouble_of_isDouble held).symm
    _ ≤ nearestDouble (value / 100) := nearestDouble_mono (by norm_num) (by linarith)

/-- The scores of two percentages are ordered as the percentages are where they are different
doubles, which they are when fifty binary digits tell the percentages apart. -/
structure Ordered (x y : Decimal) (score otherScore : ℚ) : Prop where
  mono : x.value ≤ y.value → score ≤ otherScore
  strict : score < otherScore ↔
    x.value < y.value ∧ nearestDouble (x.value / 100) ≠ nearestDouble (y.value / 100)
  apart : 1 < nearestDouble y.value → x.value * (1 + 1 / 2 ^ 50) ≤ y.value → score < otherScore

theorem ordered_of_divided (xDivided : Divided x) :
    Ordered x y (nearestDouble (x.value / 100)) (nearestDouble (y.value / 100)) := by
  have xPart : 0 ≤ x.value / 100 := div_nonneg x.value_nonneg (by norm_num)
  have yPart : 0 ≤ y.value / 100 := div_nonneg y.value_nonneg (by norm_num)
  have mono (less : x.value ≤ y.value) :
      nearestDouble (x.value / 100) ≤ nearestDouble (y.value / 100) :=
    nearestDouble_mono xPart (by linarith)
  refine ⟨mono, ⟨fun less => ⟨?_, less.ne⟩, fun both => lt_of_le_of_ne (mono both.1.le) both.2⟩, ?_⟩
  · by_contra reversed
    exact absurd (nearestDouble_mono yPart (by linarith)) (not_le.mpr less)
  · intro large apart
    rcases xDivided with zero | ⟨larger, -⟩
    · calc nearestDouble (x.value / 100) ≤ nearestDouble x.value :=
            nearestDouble_mono xPart (by linarith [x.value_nonneg])
        _ = 0 := zero
        _ < nearestDouble (y.value / 100) := nearestDouble_div_pos y.value_nonneg large
    · have half := nearestDouble_le_two_mul x.value_nonneg
      have normal : (2 : ℚ) ^ (-1022 : ℤ) ≤ 1 / 200 := by
        calc (2 : ℚ) ^ (-1022 : ℤ) ≤ 2 ^ (-8 : ℤ) := zpow_le_zpow_right₀ (by norm_num) (by decide)
          _ ≤ 1 / 200 := by norm_num
      exact nearestDouble_lt (by linarith) (by linarith)

/-- A percentage is read as one exactly when its number is divided without a loss, and the scores of
rows with such percentages are ordered as the percentages are. -/
theorem asPercentage_iff (bounded : x.value ≤ 100) (otherBounded : y.value ≤ 100) :
    (AsPercentage texts x ↔ Divided x) ∧
      ∀ header row other cveId otherId contribution otherContribution,
        rowContribution texts header cveId row = .ok contribution →
        rowContribution texts header otherId other = .ok otherContribution →
        col texts header row "EPSS Score" = .text (percentText x) →
        col texts header other "EPSS Score" = .text (percentText y) →
        Divided x → Divided y →
        ∃ score otherScore, contribution.epssScore = some score ∧
          otherContribution.epssScore = some otherScore ∧ Ordered x y score otherScore := by
  refine ⟨asPercentage_of_bounded bounded, ?_⟩
  intro header row other cveId otherId contribution otherContribution imported otherImported
    cell otherCell divided otherDivided
  exact ⟨_, _, epssScore_of_percentText bounded imported cell divided,
    epssScore_of_percentText otherBounded otherImported otherCell otherDivided,
    ordered_of_divided divided⟩

end Percent

namespace PercentageSample

/-- One half per cent. -/
def half : Decimal where
  whole := ['0']
  fraction := some ['5']
  digits := by decide
  nonempty := by decide

/-- Fifty per cent. -/
def fifty : Decimal where
  whole := ['5', '0']
  fraction := none
  digits := by decide
  nonempty := by decide

def texts : Texts where
  parseUrl _ := none
  number _ := ""

theorem half_value : half.value = 1 / 2 := by
  have digits : Nat.ofDigitChars 10 ['0', '5'] 0 = 5 := by decide
  norm_num [half, Decimal.value, digits]

theorem fifty_value : fifty.value = 50 := by
  have digits : Nat.ofDigitChars 10 ['5', '0'] 0 = 50 := by decide
  norm_num [fifty, Decimal.value, digits]

end PercentageSample

theorem asPercentage_iff_of_fifty :
    PercentageSample.fifty.value ≤ 100 ∧
      (AsPercentage PercentageSample.texts PercentageSample.fifty ↔
        Divided PercentageSample.fifty) := by
  have bounded : PercentageSample.fifty.value ≤ 100 := by
    norm_num [PercentageSample.fifty_value]
  exact ⟨bounded, (asPercentage_iff bounded bounded).1⟩

/-- One half per cent is read as one half. -/
theorem not_asPercentage_of_half :
    PercentageSample.half.value ≤ 100 ∧
      ¬AsPercentage PercentageSample.texts PercentageSample.half := by
  have bounded : PercentageSample.half.value ≤ 100 := by
    norm_num [PercentageSample.half_value]
  refine ⟨bounded, ?_⟩
  have held : IsDouble (1 / 2 : ℚ) := ⟨1, -1, by decide, by decide, by norm_num⟩
  rw [asPercentage_of_bounded bounded, Divided, PercentageSample.half_value,
    nearestDouble_of_isDouble held]
  norm_num

end ZeroShield.Intelligence
