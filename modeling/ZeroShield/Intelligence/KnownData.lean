import ZeroShield.Intelligence.SourceOrder

/-!
# Known data

Missing data is meant never to overwrite known data.  Fields which are merged one by one keep what
is known.  The score and the exploit probability carry further fields along, which are taken over
with them even when the contribution leaves them out.
-/

namespace ZeroShield.Intelligence

open Foundation Models StringEnum

/-- A value which was known is known afterwards. -/
def StaysKnown {α : Type} (before after : Option α) : Prop :=
  before.isSome = true → after.isSome = true

section StaysKnown

variable {α : Type} {held offered : Option α}

theorem staysKnown_refl (held : Option α) : StaysKnown held held := id

theorem staysKnown_some (held : Option α) (value : α) : StaysKnown held (some value) :=
  fun _ => rfl

theorem staysKnown_or (held offered : Option α) : StaysKnown held (offered.or held) := by
  cases offered with
  | none => exact staysKnown_refl held
  | some value => exact staysKnown_some held value

/-- A field which is taken over on a condition stays known unless it is taken over without a
value. -/
theorem staysKnown_ite {takes : Bool} :
    StaysKnown held (if takes then offered else held) ↔
      (takes = true → StaysKnown held offered) := by
  cases takes <;> simp [staysKnown_refl]

theorem staysKnown_orElseText (held offered : Option String) :
    StaysKnown held (orElseText offered held) := by
  unfold orElseText
  split
  case isTrue truthy =>
    cases offered with
    | none => cases truthy
    | some text => exact staysKnown_some held text
  case isFalse => exact staysKnown_refl held

theorem staysKnown_earliest (held offered : Option DateTime) :
    StaysKnown held (earliest held offered) := by
  cases held <;> cases offered <;> simp [earliest, StaysKnown]

theorem staysKnown_latest (held offered : Option DateTime) :
    StaysKnown held (latest held offered) := by
  cases held <;> cases offered <;> simp [latest, StaysKnown]

/-- A text field is only taken over with a text. -/
theorem staysKnown_text (contribution : NormalisedContribution) (held offered : Option String) :
    StaysKnown held (if takesText contribution held offered then offered else held) := by
  refine staysKnown_ite.mpr fun takes => ?_
  cases offered with
  | none => cases takes
  | some text => exact staysKnown_some held text

end StaysKnown

/-- No known field of a view is unknown in another one. -/
structure KeepsKnown (before after : Vulnerability) : Prop where
  description : StaysKnown before.description after.description
  publishedAt : StaysKnown before.publishedAt after.publishedAt
  lastModifiedAt : StaysKnown before.lastModifiedAt after.lastModifiedAt
  cvssScore : StaysKnown before.cvssScore after.cvssScore
  cvssVector : StaysKnown before.cvssVector after.cvssVector
  cvssVersion : StaysKnown before.cvssVersion after.cvssVersion
  epssScore : StaysKnown before.epssScore after.epssScore
  epssPercentile : StaysKnown before.epssPercentile after.epssPercentile
  epssDate : StaysKnown before.epssDate after.epssDate
  kevDateAdded : StaysKnown before.kevDateAdded after.kevDateAdded
  kevDueDate : StaysKnown before.kevDueDate after.kevDueDate
  kevKnownRansomware : StaysKnown before.kevKnownRansomware after.kevKnownRansomware
  vendor : StaysKnown before.vendor after.vendor
  domainGuess : StaysKnown before.domainGuess after.domainGuess
  zeroClickRelevance : StaysKnown before.zeroClickRelevance after.zeroClickRelevance

/-- A contribution completes the groups it replaces: a probability comes with the percentile and
the date which are known, and a first score with the vector and the version which are known. -/
structure CompletesGroups (contribution : NormalisedContribution) (held : Vulnerability) :
    Prop where
  epss : contribution.epssScore.isSome = true →
    StaysKnown held.epssPercentile contribution.epssPercentile ∧
      StaysKnown held.epssDate contribution.epssDate
  cvss : contribution.cvssScore.isSome = true → held.cvssScore = none →
    StaysKnown held.cvssVector contribution.cvssVector ∧
      StaysKnown held.cvssVersion contribution.cvssVersion

/-- A score is taken when it is the first one. -/
theorem takesScore_iff {contribution : NormalisedContribution} {held : Option ℚ} :
    takesScore contribution held = true ↔
      contribution.cvssScore.isSome = true ∧ held = none := by
  rw [takesScore_eq, Bool.and_eq_true, Option.isNone_iff_eq_none]

/-- Merging a contribution keeps all known data exactly when it completes the groups it
replaces. -/
theorem keepsKnown_iff {texts : Texts} {held : Vulnerability}
    {contribution : NormalisedContribution} {now : DateTime} {result : MergeResult}
    (merged : merge texts (some held) contribution now = .ok result) :
    KeepsKnown held result.vulnerability ↔ CompletesGroups contribution held := by
  obtain ⟨⟨references, view⟩, -, -⟩ := merge_spec merged
  rw [view]
  constructor
  · intro keeps
    refine ⟨fun offered => ⟨?_, ?_⟩, fun offered unscored => ?_⟩
    · exact staysKnown_ite.mp keeps.epssPercentile offered
    · exact staysKnown_ite.mp keeps.epssDate offered
    · have takes := takesScore_iff.mpr ⟨offered, unscored⟩
      exact ⟨staysKnown_ite.mp keeps.cvssVector takes, staysKnown_ite.mp keeps.cvssVersion takes⟩
  · intro completes
    have first (takes : takesScore contribution held.cvssScore = true) :=
      completes.cvss (takesScore_iff.mp takes).1 (takesScore_iff.mp takes).2
    exact
      { description := staysKnown_text contribution _ _
        publishedAt := staysKnown_earliest _ _
        lastModifiedAt := staysKnown_latest _ _
        cvssScore := staysKnown_ite.mpr fun takes _ => (takesScore_iff.mp takes).1
        cvssVector := staysKnown_ite.mpr fun takes => (first takes).1
        cvssVersion := staysKnown_ite.mpr fun takes => (first takes).2
        epssScore := staysKnown_ite.mpr fun offered _ => offered
        epssPercentile := staysKnown_ite.mpr fun offered => (completes.epss offered).1
        epssDate := staysKnown_ite.mpr fun offered => (completes.epss offered).2
        kevDateAdded := staysKnown_ite.mpr fun _ => staysKnown_or _ _
        kevDueDate := staysKnown_ite.mpr fun _ => staysKnown_or _ _
        kevKnownRansomware := staysKnown_ite.mpr fun _ => staysKnown_orElseText _ _
        vendor := staysKnown_text contribution _ _
        domainGuess := staysKnown_refl _
        zeroClickRelevance := staysKnown_or _ _ }

namespace Sample

/-- A stored vulnerability with a probability, its percentile and its date. -/
def known : Vulnerability :=
  { mergedVulnerability probability 0 none [] with epssDate := some 19782 }

/-- A row of a workbook, which has a column for the probability only. -/
def workbookRow : NormalisedContribution where
  cveId := "CVE-2024-21762"
  source := .manualImport
  epssScore := some (3 / 5)

theorem acceptable_workbookRow : Acceptable texts workbookRow := by
  refine ⟨acceptable_probability.cveId, rfl, by decide +kernel, rfl, ?_⟩
  intro text member
  cases member

theorem known_valid : ∀ vulnerability, some known = some vulnerability →
    vulnerability.errors = [] := by
  rintro _ ⟨⟩
  exact @mergedVulnerability_valid _ none _ 0 (fun _ absent => by cases absent)
    acceptable_probability []

end Sample

/-- A description completes every group, since it replaces none. -/
theorem keepsKnown_of_sample :
    ∃ result, merge Sample.texts (some Sample.known) (Sample.described .nvd "Out-of-bounds write")
        60 = .ok result ∧
      KeepsKnown Sample.known result.vulnerability := by
  obtain ⟨result, merged⟩ := @merge_isOk _ _ _ 60 Sample.known_valid
    (Sample.acceptable_described .nvd "Out-of-bounds write")
  refine ⟨result, merged, (keepsKnown_iff merged).mpr ⟨?_, ?_⟩⟩
  · intro offered
    cases offered
  · exact fun _ _ => ⟨staysKnown_refl none, staysKnown_some none "3.1"⟩

/-- A workbook's probability erases the percentile and the date of the one before. -/
theorem not_keepsKnown_of_workbook :
    ¬ ∀ (texts : Texts) (held : Vulnerability) (contribution : NormalisedContribution)
      (now : DateTime) (result : MergeResult),
      merge texts (some held) contribution now = .ok result →
        KeepsKnown held result.vulnerability := by
  intro claim
  obtain ⟨result, merged⟩ := @merge_isOk _ _ _ 60 Sample.known_valid Sample.acceptable_workbookRow
  have keeps := claim Sample.texts Sample.known Sample.workbookRow 60 result merged
  obtain ⟨⟨references, view⟩, -, -⟩ := merge_spec merged
  have percentile := keeps.epssPercentile rfl
  rw [view] at percentile
  cases percentile

end ZeroShield.Intelligence
