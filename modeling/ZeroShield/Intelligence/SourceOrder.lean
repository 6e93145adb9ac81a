import ZeroShield.Intelligence.MergeSequence
import Mathlib.Data.List.MinMax

/-!
# The order of sources

Merging is meant to prefer sources by their priority.  The owner of a field is not recorded, so
the value which is kept depends on the order of the contributions; all orders agree with the
priorities exactly when no contribution disagrees with the preferred value.
-/

namespace ZeroShield.Intelligence

open Foundation Models StringEnum

/-- The rank of the source of a contribution. -/
def rank (contribution : NormalisedContribution) : ℕ :=
  sourcePriority (value contribution.source)

/-- The value given by the source of highest priority which gives one. -/
def preferred {α : Type} (field : NormalisedContribution → Option α)
    (contributions : List NormalisedContribution) : Option α :=
  ((contributions.filter fun contribution => (field contribution).isSome).argmin rank).bind field

section Preferred

variable {α : Type} {field : NormalisedContribution → Option α}
  {contributions : List NormalisedContribution}

/-- A preferred value is given by a contribution, and by none of a source of higher priority. -/
theorem preferred_spec {value_ : α} (chosen : preferred field contributions = some value_) :
    ∃ contribution ∈ contributions, field contribution = some value_ ∧
      ∀ other ∈ contributions, (field other).isSome = true →
        rank contribution ≤ rank other := by
  obtain ⟨contribution, least, given⟩ := Option.bind_eq_some_iff.mp chosen
  obtain ⟨member, -⟩ := List.mem_filter.mp (List.argmin_mem least)
  refine ⟨contribution, member, given, fun other present gives => ?_⟩
  exact List.le_of_mem_argmin (List.mem_filter.mpr ⟨present, gives⟩) least

theorem preferred_eq_none :
    preferred field contributions = none ↔
      ∀ contribution ∈ contributions, field contribution = none := by
  constructor
  · intro absent contribution member
    cases given : field contribution with
    | none => rfl
    | some value_ =>
        have listed : contribution ∈
            contributions.filter fun contribution => (field contribution).isSome :=
          List.mem_filter.mpr ⟨member, by simp [given]⟩
        cases least : (contributions.filter fun contribution =>
            (field contribution).isSome).argmin rank with
        | none =>
            rw [List.argmin_eq_none.mp least] at listed
            cases listed
        | some other =>
            obtain ⟨-, gives⟩ := List.mem_filter.mp (List.argmin_mem least)
            rw [preferred, least, Option.bind_some] at absent
            rw [absent] at gives
            cases gives
  · intro absent
    cases chosen : preferred field contributions with
    | none => rfl
    | some value_ =>
        obtain ⟨contribution, member, given, -⟩ := preferred_spec chosen
        rw [absent contribution member] at given
        cases given

end Preferred

/-- Every field of a view is the preferred one. -/
structure PrefersSources (contributions : List NormalisedContribution)
    (view : Option Vulnerability) : Prop where
  description : view.bind (·.description) = preferred (·.description) contributions
  cvssScore : view.bind (·.cvssScore) = preferred (·.cvssScore) contributions
  cvssVector : view.bind (·.cvssVector) = preferred (·.cvssVector) contributions
  cvssVersion : view.bind (·.cvssVersion) = preferred (·.cvssVersion) contributions
  vendor : view.bind (·.vendor) = preferred (·.vendor) contributions
  epssScore : view.bind (·.epssScore) = preferred (·.epssScore) contributions

/-- No contribution disagrees with the preferred values: every non-empty description and vendor,
every exploit probability, and every score with its vector and version is the preferred one, and
without a score there is no vector and no version. -/
structure SourcesAgree (contributions : List NormalisedContribution) : Prop where
  description : ∀ contribution ∈ contributions, ∀ text, contribution.description = some text →
    text ≠ "" → preferred (·.description) contributions = some text
  vendor : ∀ contribution ∈ contributions, ∀ text, contribution.vendor = some text →
    text ≠ "" → preferred (·.vendor) contributions = some text
  epssScore : ∀ contribution ∈ contributions, ∀ score, contribution.epssScore = some score →
    preferred (·.epssScore) contributions = some score
  cvss : ∀ contribution ∈ contributions, ∀ score, contribution.cvssScore = some score →
    preferred (·.cvssScore) contributions = some score ∧
      preferred (·.cvssVector) contributions = contribution.cvssVector ∧
      preferred (·.cvssVersion) contributions = contribution.cvssVersion
  unscored : (∀ contribution ∈ contributions, contribution.cvssScore = none) →
    ∀ contribution ∈ contributions,
      contribution.cvssVector = none ∧ contribution.cvssVersion = none

section Orders

variable {contributions : List NormalisedContribution}

/-- All orders keep the preferred text exactly when every non-empty text is the preferred one. -/
theorem text_orders_iff (field : NormalisedContribution → Option String) :
    (∀ order : List NormalisedContribution, order.Perm contributions →
        Register.collect (· ≠ "") field none order = preferred field contributions) ↔
      ∀ contribution ∈ contributions, ∀ text, field contribution = some text → text ≠ "" →
        preferred field contributions = some text := by
  refine (@Register.forall_orders_iff _ _ _ _ contributions
    fun held => held = preferred field contributions).trans ?_
  constructor
  · rintro ⟨contenders, -⟩ contribution member text given filled
    refine (contenders text ⟨⟨contribution, member, given⟩, Or.inl ?_⟩).symm
    simpa using filled
  · intro agree
    refine ⟨fun text contends => ?_, fun empty => (preferred_eq_none.mpr empty).symm⟩
    obtain ⟨⟨contribution, member, given⟩, settles | unsettled⟩ := contends
    · exact (agree contribution member text given (by simpa using settles)).symm
    · -- Every text is empty, the preferred one too.
      have blank (other : NormalisedContribution) (present : other ∈ contributions) (found : String)
          (gives : field other = some found) : found = "" := by
        simpa using unsettled other present found gives
      cases chosen : preferred field contributions with
      | none =>
          rw [preferred_eq_none.mp chosen contribution member] at given
          cases given
      | some found =>
          obtain ⟨other, present, gives, -⟩ := preferred_spec chosen
          rw [blank contribution member text given, blank other present found gives]

theorem epssScore_orders_iff :
    (∀ order : List NormalisedContribution, order.Perm contributions →
        Register.collect (fun _ => false) (·.epssScore) none order =
          preferred (·.epssScore) contributions) ↔
      ∀ contribution ∈ contributions, ∀ score, contribution.epssScore = some score →
        preferred (·.epssScore) contributions = some score := by
  refine (@Register.forall_orders_iff _ _ _ _ contributions
    fun held => held = preferred (·.epssScore) contributions).trans ?_
  constructor
  · rintro ⟨contenders, -⟩ contribution member score given
    exact (contenders score ⟨⟨contribution, member, given⟩, Or.inr fun _ _ _ _ => rfl⟩).symm
  · intro agree
    refine ⟨fun score contends => ?_, fun empty => (preferred_eq_none.mpr empty).symm⟩
    obtain ⟨⟨contribution, member, given⟩, -⟩ := contends
    exact (agree contribution member score given).symm

/-- The preferred score, vector and version. -/
def PrefersCvss (contributions : List NormalisedContribution)
    (held : Option (ℚ × Option String × Option String)) : Prop :=
  held.map (·.1) = preferred (·.cvssScore) contributions ∧
    held.bind (·.2.1) = preferred (·.cvssVector) contributions ∧
    held.bind (·.2.2) = preferred (·.cvssVersion) contributions

theorem cvss_orders_iff :
    (∀ order : List NormalisedContribution, order.Perm contributions →
        PrefersCvss contributions (Register.collect (fun _ => true) offeredCvss none order)) ↔
      (∀ contribution ∈ contributions, ∀ score, contribution.cvssScore = some score →
        preferred (·.cvssScore) contributions = some score ∧
          preferred (·.cvssVector) contributions = contribution.cvssVector ∧
          preferred (·.cvssVersion) contributions = contribution.cvssVersion) ∧
      ((∀ contribution ∈ contributions, contribution.cvssScore = none) →
        ∀ contribution ∈ contributions,
          contribution.cvssVector = none ∧ contribution.cvssVersion = none) := by
  refine Register.forall_orders_iff.trans ?_
  refine and_congr ⟨fun contenders contribution member score given => ?_,
    fun agree held contends => ?_⟩ ?_
  · obtain ⟨scores, vectors, versions⟩ := contenders
      (score, contribution.cvssVector, contribution.cvssVersion)
      ⟨⟨contribution, member, by simp [offeredCvss, given]⟩, Or.inl rfl⟩
    exact ⟨scores.symm, vectors.symm, versions.symm⟩
  · obtain ⟨⟨contribution, member, given⟩, -⟩ := contends
    obtain ⟨score, scored, rfl⟩ := Option.map_eq_some_iff.mp given
    obtain ⟨scores, vectors, versions⟩ := agree contribution member score scored
    exact ⟨scores.symm, vectors.symm, versions.symm⟩
  · have unoffered : (∀ contribution ∈ contributions, offeredCvss contribution = none) ↔
        ∀ contribution ∈ contributions, contribution.cvssScore = none := by
      simp [offeredCvss]
    rw [unoffered]
    refine forall_congr' fun unscored => ?_
    have score : preferred (·.cvssScore) contributions = none := preferred_eq_none.mpr unscored
    simp only [PrefersCvss, Option.map_none, Option.bind_none, score, true_and]
    rw [eq_comm, preferred_eq_none, eq_comm, preferred_eq_none]
    constructor
    · rintro ⟨vectors, versions⟩ contribution member
      exact ⟨vectors contribution member, versions contribution member⟩
    · intro bare
      exact ⟨fun contribution member => (bare contribution member).1,
        fun contribution member => (bare contribution member).2⟩

end Orders

/-- Acceptable contributions give the preferred values in every order exactly when no contribution
disagrees with them. -/
theorem prefersSources_iff {texts : Texts} {clock : ℕ → DateTime}
    {contributions : List NormalisedContribution}
    (acceptable : ∀ contribution ∈ contributions, Acceptable texts contribution) :
    (∀ order : List NormalisedContribution, order.Perm contributions →
        ∃ results, mergeAll texts clock 0 none order = .ok results ∧
          PrefersSources contributions (latestView none results)) ↔
      SourcesAgree contributions := by
  constructor
  · intro always
    refine ⟨?_, ?_, ?_, ?_, ?_⟩
    · refine (text_orders_iff (·.description)).mp fun order permuted => ?_
      obtain ⟨results, merged, prefers⟩ := always order permuted
      rw [← description_of_mergeAll merged]
      exact prefers.description
    · refine (text_orders_iff (·.vendor)).mp fun order permuted => ?_
      obtain ⟨results, merged, prefers⟩ := always order permuted
      rw [← vendor_of_mergeAll merged]
      exact prefers.vendor
    · refine epssScore_orders_iff.mp fun order permuted => ?_
      obtain ⟨results, merged, prefers⟩ := always order permuted
      rw [← epssScore_of_mergeAll merged]
      exact prefers.epssScore
    all_goals
      have cvss := cvss_orders_iff.mp fun order permuted => by
        obtain ⟨results, merged, prefers⟩ := always order permuted
        obtain ⟨score, vector, version⟩ := cvss_of_mergeAll merged
        exact ⟨score ▸ prefers.cvssScore, vector ▸ prefers.cvssVector,
          version ▸ prefers.cvssVersion⟩
    · exact cvss.1
    · exact cvss.2
  · intro agree order permuted
    obtain ⟨results, merged⟩ := @mergeAll_isOk _ clock _
      (fun contribution member => acceptable contribution (permuted.mem_iff.mp member)) 0 none
      (fun _ absent => by cases absent)
    obtain ⟨score, vector, version⟩ := cvss_of_mergeAll merged
    obtain ⟨scores, vectors, versions⟩ :=
      cvss_orders_iff.mpr ⟨agree.cvss, agree.unscored⟩ order permuted
    refine ⟨results, merged, ?_, score.trans scores, vector.trans vectors, version.trans versions,
      ?_, ?_⟩
    · rw [description_of_mergeAll merged]
      exact (text_orders_iff (·.description)).mpr agree.description order permuted
    · rw [vendor_of_mergeAll merged]
      exact (text_orders_iff (·.vendor)).mpr agree.vendor order permuted
    · rw [epssScore_of_mergeAll merged]
      exact epssScore_orders_iff.mpr agree.epssScore order permuted

namespace Sample

/-- Library functions which behave as the real ones on the sample contributions. -/
def texts : Texts where
  parseUrl := fun text => some ⟨text⟩
  number := fixed 1

def clock (reading : ℕ) : DateTime := reading

/-- A contribution with a description and a score. -/
def described (source : VulnerabilitySourceName) (description : String) :
    NormalisedContribution where
  cveId := "CVE-2024-21762"
  source
  description := some description
  cvssScore := some 9
  cvssVersion := some "3.1"

/-- Another source's contribution, without a description. -/
def probability : NormalisedContribution where
  cveId := "CVE-2024-21762"
  source := .epss
  epssScore := some (1 / 2)
  epssPercentile := some (9 / 10)

theorem acceptable_described (source : VulnerabilitySourceName) (description : String) :
    Acceptable texts (described source description) := by
  have cveId : isCveId "CVE-2024-21762" = true := by decide
  have score : requireUpTo "cvss_score" 10 (some 9) = [] := by decide
  refine ⟨cveId, score, rfl, rfl, ?_⟩
  intro text member
  cases member

theorem acceptable_probability : Acceptable texts probability := by
  refine ⟨by decide +kernel, rfl, by decide +kernel, by decide +kernel, ?_⟩
  intro text member
  cases member

end Sample

/-- A description from one source and a probability from another are merged in any order. -/
theorem prefersSources_of_sample :
    SourcesAgree [Sample.described .nvd "Out-of-bounds write", Sample.probability] ∧
      ∀ order : List NormalisedContribution,
        order.Perm [Sample.described .nvd "Out-of-bounds write", Sample.probability] →
          ∃ results, mergeAll Sample.texts Sample.clock 0 none order = .ok results ∧
            PrefersSources [Sample.described .nvd "Out-of-bounds write", Sample.probability]
              (latestView none results) := by
  have agree : SourcesAgree [Sample.described .nvd "Out-of-bounds write", Sample.probability] := by
    refine ⟨?_, ?_, ?_, ?_, ?_⟩ <;> decide +kernel
  refine ⟨agree, (prefersSources_iff ?_).mpr agree⟩
  intro contribution member
  simp only [List.mem_cons, List.not_mem_nil, or_false] at member
  rcases member with rfl | rfl
  · exact Sample.acceptable_described .nvd _
  · exact Sample.acceptable_probability

/-- Whichever description is merged first is kept, also against the source of higher priority. -/
theorem not_prefersSources_of_order :
    ¬ ∀ (texts : Texts) (clock : ℕ → DateTime) (contributions : List NormalisedContribution),
      (∀ contribution ∈ contributions, Acceptable texts contribution) →
      (contributions.map (·.source)).Nodup →
      ∀ order : List NormalisedContribution, order.Perm contributions →
        ∃ results, mergeAll texts clock 0 none order = .ok results ∧
          PrefersSources contributions (latestView none results) := by
  intro claim
  have prefers := claim Sample.texts Sample.clock
    [Sample.described .githubAdvisory "Draft", Sample.described .nvd "Out-of-bounds write"]
    (by
      intro contribution member
      simp only [List.mem_cons, List.not_mem_nil, or_false] at member
      rcases member with rfl | rfl
      · exact Sample.acceptable_described .githubAdvisory _
      · exact Sample.acceptable_described .nvd _)
    (by decide) _ (List.Perm.refl _)
  obtain ⟨results, merged, view⟩ := prefers
  have kept := view.description
  rw [description_of_mergeAll merged] at kept
  exact absurd kept (by decide)

end ZeroShield.Intelligence
