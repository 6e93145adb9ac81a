import ZeroShield.Intelligence.Normalisation

/-!
# The selection of a score

A record may state several scores.  Its contribution is coherent when score, vector and version all
come from the first entry which carries a score, and are all missing if there is none.
-/

namespace ZeroShield.Intelligence

open Foundation Models

/-- An entry which may carry a score. -/
structure MetricEntry where
  score : Json
  vector : Json
  version : String

def MetricEntry.scored (entry : MetricEntry) : Bool :=
  entry.score ≠ .null

/-- The entries which the mapper of the vulnerability database considers, in its order. -/
def nvdEntries (raw : List (String × Json)) : List MetricEntry :=
  let metrics := (Json.get raw "metrics").fields?.getD []
  cvssKeys.filterMap fun (key, version) =>
    (cvssData metrics key).map fun data =>
      ⟨Json.get data "baseScore", Json.get data "vectorString", version⟩

/-- An entry of an advisory. -/
def advisoryEntry (version : String) (fields : List (String × Json)) : MetricEntry :=
  ⟨Json.get fields "score", Json.get fields "vector_string", version⟩

/-- The entries which the mapper of advisories considers, in its order. -/
def advisoryEntries (raw : List (String × Json)) : List MetricEntry :=
  let severities := (Json.get raw "cvss_severities").fields?.getD []
  [((Json.get severities "cvss_v4").fields?, "4.0"),
    ((Json.get severities "cvss_v3").fields?, "3.1"),
    ((Json.get raw "cvss").fields?, "3.1")].filterMap fun (fields, version) =>
      fields.map (advisoryEntry version)

/-- Score, vector and version come from the first entry which carries a score. -/
def Coherent (entries : List MetricEntry) (contribution : RawContribution) : Prop :=
  match entries.find? (·.scored) with
  | some entry =>
      contribution.cvssScore = entry.score ∧ contribution.cvssVector = entry.vector ∧
        contribution.cvssVersion = some entry.version
  | none =>
      contribution.cvssScore = .null ∧ contribution.cvssVector = .null ∧
        contribution.cvssVersion = none

section Selection

variable {library : Library} {record : RawIntelligenceRecord} {contribution : RawContribution}
  {entries : List MetricEntry} {advisory : VendorAdvisory}

theorem head?_nvdEntries (raw : List (String × Json)) :
    (nvdEntries raw).head? =
      (cvssKeys.findSome? fun (key, version) =>
        (cvssData ((Json.get raw "metrics").fields?.getD []) key).map fun data =>
          (data, version)).map fun (data, version) =>
            ⟨Json.get data "baseScore", Json.get data "vectorString", version⟩ := by
  rw [nvdEntries, List.head?_filterMap, List.map_findSome?]
  congr 1
  funext entry
  obtain ⟨key, version⟩ := entry
  rw [Function.comp_apply, Option.map_map]
  rfl

/-- The mapper of the vulnerability database takes the first entry. -/
theorem nvd_takes_first (returned : normaliseNvd library record = .ok contribution) :
    contribution.cvssScore = ((nvdEntries record.raw).head?.map (·.score)).getD .null ∧
      contribution.cvssVector = ((nvdEntries record.raw).head?.map (·.vector)).getD .null ∧
        contribution.cvssVersion = (nvdEntries record.raw).head?.map (·.version) := by
  obtain ⟨cveId, -, returned⟩ := bind_eq_ok.mp returned
  obtain ⟨descriptions, -, returned⟩ := bind_eq_ok.mp returned
  obtain ⟨weaknesses, -, returned⟩ := bind_eq_ok.mp returned
  obtain ⟨cweIds, -, returned⟩ := bind_eq_ok.mp returned
  obtain ⟨references, -, returned⟩ := bind_eq_ok.mp returned
  obtain ⟨products, -, returned⟩ := bind_eq_ok.mp returned
  cases returned
  rw [head?_nvdEntries]
  dsimp only
  generalize cvssKeys.findSome? _ = cvss
  cases cvss <;> exact ⟨rfl, rfl, rfl⟩

/-- The first entry is coherent unless it carries no score. -/
theorem coherent_iff_of_first
    (score : contribution.cvssScore = (entries.head?.map (·.score)).getD .null)
    (vector : contribution.cvssVector = (entries.head?.map (·.vector)).getD .null)
    (version : contribution.cvssVersion = entries.head?.map (·.version)) :
    Coherent entries contribution ↔ ∀ entry ∈ entries.head?, entry.scored := by
  cases entries with
  | nil => exact iff_of_true ⟨score, vector, version⟩ nofun
  | cons entry entries =>
      rw [List.head?_cons, Option.map_some, Option.getD_some] at score vector
      rw [List.head?_cons, Option.map_some] at version
      by_cases carries : entry.scored
      · refine iff_of_true ?_ ?_
        · rw [Coherent, List.find?_cons_of_pos carries]
          exact ⟨score, vector, version⟩
        · rintro _ ⟨⟩
          exact carries
      · refine iff_of_false ?_ fun all => carries (all entry rfl)
        rw [Coherent, List.find?_cons_of_neg carries]
        have missing : entry.score = .null := by simpa [MetricEntry.scored] using carries
        cases found : entries.find? (·.scored) with
        | none =>
            rintro ⟨-, -, absent⟩
            rw [version] at absent
            cases absent
        | some other =>
            rintro ⟨same, -, -⟩
            have scored := List.find?_some found
            rw [score, missing] at same
            simp [MetricEntry.scored, ← same] at scored

/-- An entry with a score is the first one or comes after it. -/
theorem find?_scored_cons {fields : Option (List (String × Json))} {version : String}
    {others : List (Option (List (String × Json)) × String)} :
    (((fields, version) :: others).filterMap fun (fields, version) =>
        fields.map (advisoryEntry version)).find? (·.scored) =
      ((fields.filter fun fields => Json.get fields "score" ≠ .null).map
        (advisoryEntry version)).or
        ((others.filterMap fun (fields, version) =>
          fields.map (advisoryEntry version)).find? (·.scored)) := by
  cases fields with
  | none => rfl
  | some fields =>
      rw [List.filterMap_cons, Option.filter_some]
      change (advisoryEntry version fields :: _).find? _ = _
      by_cases scored : decide (Json.get fields "score" ≠ .null) = true
      · have carries : (advisoryEntry version fields).scored := scored
        rw [List.find?_cons_of_pos carries, if_pos scored]
        rfl
      · have lacks : ¬ (advisoryEntry version fields).scored := scored
        rw [List.find?_cons_of_neg lacks, if_neg scored]
        rfl

/-- The mapper of advisories takes the first entry with a score. -/
theorem advisoryCvss_of_scored {raw : List (String × Json)} {entry : MetricEntry}
    (first : (advisoryEntries raw).find? (·.scored) = some entry) :
    ∃ origin fields, advisoryCvss raw = some (origin, fields) ∧
      entry = advisoryEntry (advisoryCvssVersion raw) fields := by
  rw [advisoryEntries, find?_scored_cons, find?_scored_cons, find?_scored_cons] at first
  rw [advisoryCvssVersion, advisoryCvss, scoredEntry, scoredEntry]
  generalize
    (Json.get ((Json.get raw "cvss_severities").fields?.getD []) "cvss_v4").fields?.filter _
    = v4 at first ⊢
  generalize
    (Json.get ((Json.get raw "cvss_severities").fields?.getD []) "cvss_v3").fields?.filter _
    = v3 at first ⊢
  cases v4 with
  | some fields => exact ⟨_, fields, rfl, (Option.some.inj first).symm⟩
  | none =>
      cases v3 with
      | some fields => exact ⟨_, fields, rfl, (Option.some.inj first).symm⟩
      | none =>
          cases legacy : (Json.get raw "cvss").fields? with
          | none =>
              rw [legacy] at first
              cases first
          | some fields =>
              rw [legacy, Option.filter_some] at first
              split at first
              · exact ⟨_, fields, rfl, (Option.some.inj first).symm⟩
              · cases first

theorem advisory_takes (returned : normaliseVendorAdvisory library record =
      .ok (advisory, some contribution)) :
    contribution.cvssScore =
        ((advisoryCvss record.raw).map fun (_, entry) => Json.get entry "score").getD .null ∧
      contribution.cvssVector =
          ((advisoryCvss record.raw).map fun (_, entry) =>
            Json.get entry "vector_string").getD .null ∧
        contribution.cvssVersion = some (advisoryCvssVersion record.raw) := by
  unfold normaliseVendorAdvisory at returned
  split at returned
  · cases returned
  obtain ⟨references, -, returned⟩ := bind_eq_ok.mp returned
  obtain ⟨validated, -, returned⟩ := bind_eq_ok.mp returned
  dsimp only at returned
  split at returned
  · cases returned
  obtain ⟨weaknesses, -, returned⟩ := bind_eq_ok.mp returned
  cases returned
  exact ⟨rfl, rfl, rfl⟩

/-- An advisory states a version in any case, so its entry is coherent only if one has a score. -/
theorem advisory_coherent_iff (returned : normaliseVendorAdvisory library record =
      .ok (advisory, some contribution)) :
    Coherent (advisoryEntries record.raw) contribution ↔
      ∃ entry ∈ advisoryEntries record.raw, entry.scored := by
  obtain ⟨score, vector, version⟩ := advisory_takes returned
  rw [Coherent]
  cases first : (advisoryEntries record.raw).find? (·.scored) with
  | none =>
      refine iff_of_false ?_ ?_
      · rintro ⟨-, -, absent⟩
        rw [version] at absent
        cases absent
      · rintro ⟨entry, member, scored⟩
        exact List.find?_eq_none.mp first entry member scored
  | some entry =>
      refine iff_of_true ?_ ⟨entry, List.mem_of_find?_eq_some first, List.find?_some first⟩
      obtain ⟨origin, fields, taken, rfl⟩ := advisoryCvss_of_scored first
      rw [taken] at score vector
      exact ⟨score, vector, version⟩

/-- The score of a record of the vulnerability database is coherent unless its first entry carries
none; that of an advisory is coherent exactly if some entry carries one. -/
theorem coherent_iff (library : Library) (record : RawIntelligenceRecord)
    (contribution : RawContribution) :
    (normaliseNvd library record = .ok contribution →
      (Coherent (nvdEntries record.raw) contribution ↔
        ∀ entry ∈ (nvdEntries record.raw).head?, entry.scored)) ∧
    ∀ advisory, normaliseVendorAdvisory library record = .ok (advisory, some contribution) →
      (Coherent (advisoryEntries record.raw) contribution ↔
        ∃ entry ∈ advisoryEntries record.raw, entry.scored) := by
  constructor
  · intro returned
    obtain ⟨score, vector, version⟩ := nvd_takes_first returned
    exact coherent_iff_of_first score vector version
  · intro advisory returned
    exact advisory_coherent_iff returned

end Selection

namespace CvssSample

def library : Library where
  repr _ := "None"
  datetimeFromisoformat _ := none
  dateFromisoformat _ := none

/-- A record of the vulnerability database with score data for two versions. -/
def nvdRecord (preferred : List (String × Json)) : RawIntelligenceRecord where
  source := .nvd
  externalId := "CVE-2024-00001"
  raw :=
    [("id", .str "CVE-2024-00001"),
      ("metrics", .obj
        [("cvssMetricV31", .arr [.obj [("cvssData", .obj preferred)]]),
          ("cvssMetricV2", .arr [.obj [("cvssData", .obj [("baseScore", .float (15 / 2))])]])])]

/-- An advisory with score entries. -/
def advisoryRecord (severities : List (String × Json)) : RawIntelligenceRecord where
  source := .githubAdvisory
  externalId := "GHSA-0001"
  raw :=
    [("cve_id", .str "CVE-2024-00001"), ("summary", .str "Path traversal"),
      ("cvss_severities", .obj severities)]

end CvssSample

/-- Scores of entries which carry one are selected coherently. -/
theorem coherent_iff_of_sample :
    (∃ contribution,
      normaliseNvd CvssSample.library (CvssSample.nvdRecord [("baseScore", .float 9)]) =
        .ok contribution ∧
      (Coherent (nvdEntries (CvssSample.nvdRecord [("baseScore", .float 9)]).raw) contribution ↔
        ∀ entry ∈ (nvdEntries (CvssSample.nvdRecord [("baseScore", .float 9)]).raw).head?,
          entry.scored)) ∧
    ∃ advisory contribution,
      normaliseVendorAdvisory CvssSample.library
          (CvssSample.advisoryRecord [("cvss_v3", .obj [("score", .float 9)])]) =
        .ok (advisory, some contribution) ∧
      (Coherent (advisoryEntries
          (CvssSample.advisoryRecord [("cvss_v3", .obj [("score", .float 9)])]).raw) contribution ↔
        ∃ entry ∈ advisoryEntries
          (CvssSample.advisoryRecord [("cvss_v3", .obj [("score", .float 9)])]).raw,
            entry.scored) := by
  constructor
  · obtain ⟨contribution, returned⟩ : ∃ contribution, normaliseNvd CvssSample.library
        (CvssSample.nvdRecord [("baseScore", .float 9)]) = .ok contribution := ⟨_, rfl⟩
    exact ⟨contribution, returned, (coherent_iff _ _ contribution).1 returned⟩
  · obtain ⟨advisory, contribution, returned⟩ : ∃ advisory contribution,
        normaliseVendorAdvisory CvssSample.library
            (CvssSample.advisoryRecord [("cvss_v3", .obj [("score", .float 9)])]) =
          .ok (advisory, some contribution) := ⟨_, _, rfl⟩
    exact ⟨advisory, contribution, returned, (coherent_iff _ _ contribution).2 advisory returned⟩

/-- A preferred entry without a score hides one with a score, and an advisory without any score
states a version. -/
theorem not_coherent_of_unscored :
    (∃ contribution,
      normaliseNvd CvssSample.library (CvssSample.nvdRecord []) = .ok contribution ∧
        ¬ Coherent (nvdEntries (CvssSample.nvdRecord []).raw) contribution) ∧
    ∃ advisory contribution,
      normaliseVendorAdvisory CvssSample.library (CvssSample.advisoryRecord []) =
          .ok (advisory, some contribution) ∧
        ¬ Coherent (advisoryEntries (CvssSample.advisoryRecord []).raw) contribution := by
  constructor
  · refine ⟨_, rfl, ?_⟩
    rintro ⟨score, -, -⟩
    cases score
  · refine ⟨_, _, rfl, ?_⟩
    rintro ⟨-, -, version⟩
    cases version

end ZeroShield.Intelligence
