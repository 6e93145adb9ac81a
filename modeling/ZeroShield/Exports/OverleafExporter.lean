import ZeroShield.Foundation.Substitution
import ZeroShield.Models.Experiment
import ZeroShield.Models.Run

/-!
# LaTeX exports

Measured values and free texts are written into LaTeX sources.  The special characters of a text are
replaced one after another, the backslash first, so the braces which stand for it are replaced
again.
-/

namespace ZeroShield.Exports

open Foundation Models

/-! ## Escaping -/

/-- The special characters other than the backslash. -/
def braceEscapes : List (Char × List Char) :=
  [('&', "\\&".toList), ('%', "\\%".toList), ('$', "\\$".toList), ('#', "\\#".toList),
    ('_', "\\_".toList), ('\x7b', "\\\x7b".toList), ('\x7d', "\\\x7d".toList),
    ('~', "\\textasciitilde\x7b\x7d".toList), ('^', "\\textasciicircum\x7b\x7d".toList)]

/-- The special characters and their replacements, in the order of replacement. -/
def latexEscapes : List (Char × List Char) :=
  ('\\', "\\textbackslash\x7b\x7d".toList) :: braceEscapes

/-- Replace the special characters one after another. -/
def escapeLatex (text : String) : String :=
  String.ofList (replaceInTurn latexEscapes text.toList)

/-! ## Exported texts -/

/-- The rows of a metrics table: the label and the measured value. -/
def metricLabels : List ((ExperimentMetrics → ℚ) × String) :=
  [(ExperimentMetrics.processingSuccessRate, "Processing success rate"),
    (ExperimentMetrics.blockRate, "Block rate"),
    (ExperimentMetrics.validAcceptanceRate, "Valid acceptance rate"),
    (ExperimentMetrics.falsePositiveRate, "False positive rate"),
    (ExperimentMetrics.falseNegativeRate, "False negative rate"),
    (ExperimentMetrics.parserReachRate, "Parser reach rate"),
    (ExperimentMetrics.meanLatencyMs, "Mean latency (ms)"),
    (ExperimentMetrics.logCompletenessRate, "Log completeness rate")]

def metricRows (report : ComparisonReport) : List (String × ℚ × ℚ × ℚ) :=
  metricLabels.map fun (measured, label) =>
    let baselineValue := measured report.baselineMetrics
    let mitigationValue := measured report.mitigationMetrics
    (label, baselineValue, mitigationValue, mitigationValue - baselineValue)

/-- The lines of a text, each followed by a line break. -/
def joinedLines (lines : List String) : String :=
  "\n".intercalate lines ++ "\n"

/-- The table of the metrics of both runs. -/
def exportMetricsTex (report : ComparisonReport) : String :=
  joinedLines <|
    ["% Auto-generated by ZeroShield - factual metrics only, do not edit by hand.",
      "% Experiment: " ++ escapeLatex report.experimentId,
      "\\begin\x7btabular\x7d\x7blrrr\x7d",
      "\\hline",
      "Metric & Baseline & Mitigation & Difference \\\\",
      "\\hline"] ++
    (metricRows report).map (fun (label, baselineValue, mitigationValue, difference) =>
      escapeLatex label ++ " & " ++ fixed 3 baselineValue ++ " & " ++ fixed 3 mitigationValue ++
        " & " ++ fixed 3 difference ++ " \\\\") ++
    ["\\hline", "\\end\x7btabular\x7d"]

/-- The paragraph which states what was measured. -/
def factualSummary (report : ComparisonReport) (experiment : ExperimentDefinition) : String :=
  let cveIds := ", ".intercalate (experiment.relatedCves.map (·.cveId))
  let percentage (rate : ℚ) := fixed 1 (rate * 100)
  "In a controlled synthetic ZeroShield experiment (" ++ escapeLatex report.experimentId ++ ", " ++
    toString report.totalCases ++ " test cases, dataset derived from " ++ escapeLatex cveIds ++
    "), the baseline strategy (" ++ escapeLatex experiment.baselineStrategy ++ ") blocked " ++
    percentage report.baselineMetrics.blockRate ++
    "\\% of cases expected to be blocked, while the mitigation strategy (" ++
    escapeLatex experiment.mitigationStrategy ++ ") blocked " ++
    percentage report.mitigationMetrics.blockRate ++
    "\\% of the same cases (a measured difference of " ++
    percentage report.blockRateImprovement ++ " percentage points). The baseline accepted " ++
    percentage report.baselineMetrics.validAcceptanceRate ++
    "\\% of cases expected to be accepted, and the mitigation accepted " ++
    percentage report.mitigationMetrics.validAcceptanceRate ++
    "\\%. The measured mean-latency overhead of the mitigation relative to the baseline was " ++
    fixed 3 report.latencyOverheadMs ++ " ms."

def exportFactualSummaryTex (report : ComparisonReport) (experiment : ExperimentDefinition) :
    String :=
  joinedLines
    ["% Auto-generated by ZeroShield - factual run outputs only, do not edit by hand.",
      "% Experiment: " ++ escapeLatex report.experimentId,
      "",
      factualSummary report experiment,
      "",
      "\\textbf\x7bLimitations:\x7d",
      " ".intercalate (report.limitations.map escapeLatex)]

/-! ## Escaping one character at a time -/

/-- Every character replaced by its own entry, if it has one. -/
def escapedCharacterwise (text : String) : String :=
  String.ofList (text.toList.flatMap (wordFor latexEscapes))

/-- Only the replacement of the backslash holds characters which are replaced later. -/
theorem braceEscapes_settled : Settled braceEscapes := by
  decide

/-- Escaping respects concatenation, also where replacements are escaped again. -/
theorem escapeLatex_append (left right : String) :
    escapeLatex (left ++ right) = escapeLatex left ++ escapeLatex right := by
  unfold escapeLatex
  rw [String.toList_append, replaceInTurn_append, String.ofList_append]

theorem wordFor_latexEscapes {c : Char} (plain : c ≠ '\\') :
    wordFor latexEscapes c = wordFor braceEscapes c := by
  unfold wordFor latexEscapes
  rw [List.lookup_cons, beq_eq_false_iff_ne.mpr plain]

/-- Besides the backslash every character is replaced by its own entry. -/
theorem replaceInTurn_latexEscapes {c : Char} (plain : c ≠ '\\') :
    replaceInTurn latexEscapes [c] = wordFor latexEscapes c := by
  have kept : replaceSymbol '\\' "\\textbackslash\x7b\x7d".toList [c] = [c] :=
    replaceSymbol_eq_self (mt (fun member => (List.mem_singleton.mp member).symm) plain)
  rw [wordFor_latexEscapes plain, latexEscapes, replaceInTurn_cons, kept,
    replaceInTurn_singleton braceEscapes_settled]

theorem replaceInTurn_backslash :
    replaceInTurn latexEscapes ['\\'] = "\\textbackslash\\\x7b\\\x7d".toList := by
  decide

theorem wordFor_backslash :
    wordFor latexEscapes '\\' = "\\textbackslash\x7b\x7d".toList := by
  decide

/-- Each backslash of a text leaves two more characters than its entry has. -/
theorem length_replaceInTurn_latexEscapes (text : List Char) :
    (replaceInTurn latexEscapes text).length =
      (text.flatMap (wordFor latexEscapes)).length + 2 * text.count '\\' := by
  induction text with
  | nil => rfl
  | cons c text ih =>
      rw [← List.singleton_append, replaceInTurn_append, List.length_append, ih,
        List.flatMap_append, List.length_append, List.flatMap_singleton, List.count_append]
      by_cases plain : c = '\\'
      · subst plain
        rw [replaceInTurn_backslash, List.count_singleton_self]
        have longer : "\\textbackslash\\\x7b\\\x7d".toList.length =
            "\\textbackslash\x7b\x7d".toList.length + 2 := by decide
        rw [wordFor_backslash, longer]
        omega
      · have none : [c].count '\\' = 0 := List.count_eq_zero.mpr
          (mt (fun member => (List.mem_singleton.mp member).symm) plain)
        rw [replaceInTurn_latexEscapes plain, none]
        omega

/-- Escaping replaces every character by exactly its entry, part by part, if and only if the text
holds no backslash. -/
theorem escapeLatex_characterwise_iff (text : String) :
    (escapeLatex text = escapedCharacterwise text ∧
      ∀ left right, text = left ++ right →
        escapeLatex text = escapeLatex left ++ escapeLatex right) ↔
      '\\' ∉ text.toList := by
  constructor
  · intro ⟨characterwise, _⟩ backslash
    have equal : replaceInTurn latexEscapes text.toList =
        text.toList.flatMap (wordFor latexEscapes) := String.ofList_inj.mp characterwise
    have lengths := length_replaceInTurn_latexEscapes text.toList
    have some : 0 < text.toList.count '\\' := List.count_pos_iff.mpr backslash
    rw [equal] at lengths
    omega
  · intro plain
    constructor
    · have words : ∀ c ∈ text.toList, replaceInTurn latexEscapes [c] = wordFor latexEscapes c := by
        intro c member
        apply replaceInTurn_latexEscapes
        rintro rfl
        exact plain member
      rw [escapeLatex, escapedCharacterwise, replaceInTurn_eq_flatMap, List.flatMap_congr words]
    · rintro left right rfl
      exact escapeLatex_append left right

/-- The braces which stand for a backslash are escaped once more. -/
theorem escapeLatex_backslash :
    ¬∀ text, escapeLatex text = escapedCharacterwise text := by
  intro all
  exact absurd (all "\\") (by decide)

end ZeroShield.Exports
