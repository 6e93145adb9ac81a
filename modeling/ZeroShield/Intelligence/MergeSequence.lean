import ZeroShield.Intelligence.Dedup

/-!
# Merging one contribution after another

Along a sequence of merges the text fields, the score and the exploit probability are registers to
which the contributions are offered in order.
-/

namespace ZeroShield.Intelligence

open Foundation Models

variable (texts : Texts) (clock : ℕ → DateTime)

/-- Merge contributions in order, each into the view left by the one before. -/
def mergeAll : ℕ → Option Vulnerability → List NormalisedContribution →
    Except ValidationError (List MergeResult)
  | _, _, [] => .ok []
  | reading, existing, contribution :: contributions => do
      let result ← merge texts existing contribution (clock reading)
      let results ← mergeAll (reading + 1) (some result.vulnerability) contributions
      return result :: results

/-- The view after a sequence of merges. -/
def latestView (existing : Option Vulnerability) (results : List MergeResult) :
    Option Vulnerability :=
  results.foldl (fun _ result => some result.vulnerability) existing

@[simp] theorem latestView_cons (existing : Option Vulnerability) (result : MergeResult)
    (results : List MergeResult) :
    latestView existing (result :: results) = latestView (some result.vulnerability) results :=
  rfl

variable {texts clock}

/-- Acceptable contributions can be merged in any order. -/
theorem mergeAll_isOk {contributions : List NormalisedContribution}
    (acceptable : ∀ contribution ∈ contributions, Acceptable texts contribution) (reading : ℕ)
    (existing : Option Vulnerability)
    (stored : ∀ vulnerability, existing = some vulnerability → vulnerability.errors = []) :
    ∃ results, mergeAll texts clock reading existing contributions = .ok results := by
  induction contributions generalizing reading existing with
  | nil => exact ⟨[], rfl⟩
  | cons contribution contributions ih =>
      obtain ⟨result, merged⟩ := @merge_isOk _ _ _ (clock reading) stored
        (acceptable contribution List.mem_cons_self)
      have valid : ∀ vulnerability, some result.vulnerability = some vulnerability →
          vulnerability.errors = [] := by
        intro vulnerability same
        cases same
        exact (merge_spec merged).2.2
      obtain ⟨results, rest⟩ := ih
        (fun other member => acceptable other (List.mem_cons_of_mem _ member)) (reading + 1)
        (some result.vulnerability) valid
      exact ⟨result :: results, bind_eq_ok.mpr ⟨result, merged,
        bind_eq_ok.mpr ⟨results, rest, rfl⟩⟩⟩

theorem mergeAll_cons {reading : ℕ} {existing : Option Vulnerability}
    {contribution : NormalisedContribution} {contributions : List NormalisedContribution}
    {results : List MergeResult}
    (merged : mergeAll texts clock reading existing (contribution :: contributions) = .ok results) :
    ∃ result rest, results = result :: rest ∧
      merge texts existing contribution (clock reading) = .ok result ∧
      mergeAll texts clock (reading + 1) (some result.vulnerability) contributions = .ok rest := by
  obtain ⟨result, first, merged⟩ := bind_eq_ok.mp merged
  obtain ⟨rest, others, merged⟩ := bind_eq_ok.mp merged
  cases merged
  exact ⟨result, rest, rfl, first, others⟩

/-- What one merge does to a field, a sequence of merges does to a register. -/
theorem field_of_mergeAll {α : Type} {settled : α → Bool} {field : Vulnerability → Option α}
    {offered : NormalisedContribution → Option α}
    (step : ∀ {existing contribution now result},
      merge texts existing contribution now = .ok result →
        field result.vulnerability =
          Register.offer settled (existing.bind field) (offered contribution))
    {reading : ℕ} {existing : Option Vulnerability} {contributions : List NormalisedContribution}
    {results : List MergeResult}
    (merged : mergeAll texts clock reading existing contributions = .ok results) :
    (latestView existing results).bind field =
      Register.collect settled offered (existing.bind field) contributions := by
  induction contributions generalizing reading existing results with
  | nil =>
      cases merged
      rfl
  | cons contribution contributions ih =>
      obtain ⟨result, rest, rfl, first, others⟩ := mergeAll_cons merged
      rw [latestView_cons, ih others, Option.bind_some, step first, Register.collect_cons]

theorem scoreComplete_of_mergeAll {reading : ℕ} {existing : Option Vulnerability}
    {contributions : List NormalisedContribution} {results : List MergeResult}
    (merged : mergeAll texts clock reading existing contributions = .ok results)
    (complete : ∀ vulnerability, existing = some vulnerability → ScoreComplete vulnerability) :
    ∀ vulnerability, latestView existing results = some vulnerability →
      ScoreComplete vulnerability := by
  induction contributions generalizing reading existing results with
  | nil =>
      cases merged
      exact complete
  | cons contribution contributions ih =>
      obtain ⟨result, rest, rfl, first, others⟩ := mergeAll_cons merged
      have afterFirst : ∀ vulnerability, some result.vulnerability = some vulnerability →
          ScoreComplete vulnerability := by
        intro vulnerability same
        cases same
        exact merge_scoreComplete first complete
      rw [latestView_cons]
      exact ih others afterFirst

/-! ## Contributions merged into nothing -/

section Fresh

variable {contributions : List NormalisedContribution} {results : List MergeResult}
  (merged : mergeAll texts clock 0 none contributions = .ok results)

include merged

theorem description_of_mergeAll :
    (latestView none results).bind (·.description) =
      Register.collect (· ≠ "") (·.description) none contributions :=
  field_of_mergeAll merge_description merged

theorem vendor_of_mergeAll :
    (latestView none results).bind (·.vendor) =
      Register.collect (· ≠ "") (·.vendor) none contributions :=
  field_of_mergeAll merge_vendor merged

theorem epssScore_of_mergeAll :
    (latestView none results).bind (·.epssScore) =
      Register.collect (fun _ => false) (·.epssScore) none contributions :=
  field_of_mergeAll merge_epssScore merged

/-- The score, the vector and the version are those of one contribution. -/
theorem cvss_of_mergeAll :
    let held := Register.collect (fun _ => true) offeredCvss none contributions
    (latestView none results).bind (·.cvssScore) = held.map (·.1) ∧
      (latestView none results).bind (·.cvssVector) = held.bind (·.2.1) ∧
      (latestView none results).bind (·.cvssVersion) = held.bind (·.2.2) := by
  intro held
  have register : (latestView none results).bind heldCvss = held :=
    field_of_mergeAll merge_cvss merged
  have complete := scoreComplete_of_mergeAll merged (fun _ absent => by cases absent)
  rw [← register]
  cases view : latestView none results with
  | none => simp
  | some vulnerability =>
      obtain ⟨vector, version⟩ := cvssVector_of_complete (complete vulnerability view)
      refine ⟨?_, vector, version⟩
      simp [heldCvss, Function.comp_def]

end Fresh

end ZeroShield.Intelligence
