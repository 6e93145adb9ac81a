import ZeroShield.Intelligence.SourceOrder

/-!
# Revisions by one source

A source which contributes again is meant to replace what it said before.  Its rank is not below
the rank of the assumed owner, so the first non-empty text and the first score are kept.  The
history records every change which does happen.
-/

namespace ZeroShield.Intelligence

open Foundation Models

/-- The last value given for a field. -/
def lastGiven {α : Type} (field : NormalisedContribution → Option α)
    (contributions : List NormalisedContribution) : Option α :=
  (contributions.filterMap field).getLast?

/-! ## The history of a sequence -/

/-- The recorded changes of a field, as pairs of the old and the new text. -/
def recordedChanges (field : String) (history : List VulnerabilityHistoryEntry) :
    List (Option String × Option String) :=
  (history.filter (·.field = field)).map fun entry => (entry.oldValue, entry.newValue)

/-- All entries recorded along a sequence of merges. -/
def wholeHistory (results : List MergeResult) : List VulnerabilityHistoryEntry :=
  results.flatMap (·.history)

@[simp] theorem recordedChanges_nil (field : String) : recordedChanges field [] = [] := rfl

@[simp] theorem recordedChanges_append (field : String)
    (first second : List VulnerabilityHistoryEntry) :
    recordedChanges field (first ++ second) =
      recordedChanges field first ++ recordedChanges field second := by
  simp [recordedChanges]

section Recorded

variable {contribution : NormalisedContribution} {now : DateTime} {α : Type} [DecidableEq α]

/-- Entries of other fields do not count. -/
theorem recordedChanges_track_ne {oldText text : α → String} {field other : String}
    {old new : Option α} (different : other ≠ field) :
    recordedChanges field (track contribution now oldText text other old new) = [] := by
  cases new with
  | none => rfl
  | some value => by_cases same : old = some value <;>
      simp [track, same, recordedChanges, different]

/-- A tracked field has one entry exactly when its value changes. -/
theorem recordedChanges_track {oldText text : α → String} {field : String} {old : Option α}
    {value : α} :
    recordedChanges field (track contribution now oldText text field old (some value)) =
      (changes old [some value]).map (Prod.map (Option.map oldText) (Option.map text)) := by
  by_cases same : old = some value <;> simp [track, changes, same, recordedChanges]

end Recorded

section MergeHistory

variable {texts : Texts} {existing : Option Vulnerability} {contribution : NormalisedContribution}
  {now : DateTime} {result : MergeResult}

/-- Merging records exactly the change of the description. -/
theorem merge_description_history (merged : merge texts existing contribution now = .ok result) :
    recordedChanges "description" result.history =
      changes (existing.bind (·.description)) [result.vulnerability.description] := by
  obtain ⟨⟨references, view⟩, history, -⟩ := merge_spec merged
  have others : recordedChanges "description" (historyEntries contribution now texts existing) =
      recordedChanges "description"
        (if takesText contribution (existing.bind (·.description)) contribution.description then
          track contribution now id id "description" (existing.bind (·.description))
            contribution.description else []) := by
    simp only [historyEntries, recordedChanges_append]
    split <;> split <;> split <;> simp [recordedChanges_track_ne]
  rw [history, others, view]
  simp only [mergedVulnerability]
  cases offered : contribution.description with
  | none => simp [takesText, better, changes]
  | some description =>
      split
      case isTrue => simp [recordedChanges_track]
      case isFalse => simp [changes]

/-- Merging records exactly the change of the score. -/
theorem merge_cvssScore_history (merged : merge texts existing contribution now = .ok result) :
    recordedChanges "cvss_score" result.history =
      (changes (existing.bind (·.cvssScore)) [result.vulnerability.cvssScore]).map
        (Prod.map (Option.map texts.number) (Option.map (contribution.scoreText texts))) := by
  obtain ⟨⟨references, view⟩, history, -⟩ := merge_spec merged
  have others : recordedChanges "cvss_score" (historyEntries contribution now texts existing) =
      recordedChanges "cvss_score"
        (if takesScore contribution (existing.bind (·.cvssScore)) then
          track contribution now texts.number (contribution.scoreText texts) "cvss_score"
            (existing.bind (·.cvssScore)) contribution.cvssScore else []) := by
    simp only [historyEntries, recordedChanges_append]
    split <;> split <;> split <;> simp [recordedChanges_track_ne]
  rw [history, others, view]
  simp only [mergedVulnerability]
  cases offered : contribution.cvssScore with
  | none => simp [takesScore, better, offered, changes]
  | some score =>
      split
      case isTrue => rw [recordedChanges_track]
      case isFalse => simp [changes]

end MergeHistory

/-- What one merge records of a field, a sequence of merges records of all its changes. -/
theorem history_of_mergeAll {texts : Texts} {clock : ℕ → DateTime} {α : Type} [DecidableEq α]
    {name : String} {field : Vulnerability → Option α} {text : α → String}
    (step : ∀ {existing contribution now result},
      merge texts existing contribution now = .ok result →
        recordedChanges name result.history =
          (changes (existing.bind field) [field result.vulnerability]).map
            (Prod.map (Option.map text) (Option.map text)))
    {reading : ℕ} {existing : Option Vulnerability} {contributions : List NormalisedContribution}
    {results : List MergeResult}
    (merged : mergeAll texts clock reading existing contributions = .ok results) :
    recordedChanges name (wholeHistory results) =
      (changes (existing.bind field) (results.map fun result => field result.vulnerability)).map
        (Prod.map (Option.map text) (Option.map text)) := by
  induction contributions generalizing reading existing results with
  | nil =>
      cases merged
      rfl
  | cons contribution contributions ih =>
      obtain ⟨result, rest, rfl, first, others⟩ := mergeAll_cons merged
      have later := ih others
      rw [Option.bind_some] at later
      rw [List.map_cons, changes_cons, List.map_append, ← later, ← step first]
      exact recordedChanges_append name result.history (wholeHistory rest)

/-- The text with which a score was first contributed. -/
def writtenScore (texts : Texts) (contributions : List NormalisedContribution) (score : ℚ) :
    String :=
  ((contributions.find? (·.cvssScore = some score)).map fun contribution =>
    contribution.scoreText texts score).getD (texts.number score)

section ScoreHistory

variable {texts : Texts} {clock : ℕ → DateTime} {reading : ℕ} {existing : Option Vulnerability}
  {contributions : List NormalisedContribution} {results : List MergeResult} {score : ℚ}

/-- A score which is held is kept by all merges. -/
theorem cvssScore_of_scored (held : existing.bind (·.cvssScore) = some score)
    (merged : mergeAll texts clock reading existing contributions = .ok results) :
    ∀ kept ∈ results.map (·.vulnerability.cvssScore), kept = some score := by
  induction contributions generalizing reading existing results with
  | nil =>
      cases merged
      exact List.forall_mem_nil _
  | cons contribution contributions ih =>
      obtain ⟨result, rest, rfl, first, others⟩ := mergeAll_cons merged
      have next : result.vulnerability.cvssScore = some score := by
        rw [merge_cvssScore first, held]
        cases contribution.cvssScore <;> simp [Register.offer]
      exact List.forall_mem_cons.mpr ⟨next, @ih _ (some result.vulnerability) _ next others⟩

/-- A sequence of merges records the first score, as it was written, and nothing else of scores. -/
theorem scoreHistory_of_mergeAll
    (merged : mergeAll texts clock reading existing contributions = .ok results) :
    recordedChanges "cvss_score" (wholeHistory results) =
      (changes (existing.bind (·.cvssScore))
        (results.map fun result => result.vulnerability.cvssScore)).map
          (Prod.map (Option.map texts.number) (Option.map (writtenScore texts contributions))) := by
  induction contributions generalizing reading existing results with
  | nil =>
      cases merged
      rfl
  | cons contribution contributions ih =>
      obtain ⟨result, rest, rfl, first, others⟩ := mergeAll_cons merged
      have later := ih others
      have whole : recordedChanges "cvss_score" (wholeHistory (result :: rest)) =
          recordedChanges "cvss_score" result.history ++
            recordedChanges "cvss_score" (wholeHistory rest) :=
        recordedChanges_append "cvss_score" result.history (wholeHistory rest)
      have step := merge_cvssScore first
      rw [whole, later, merge_cvssScore_history first, List.map_cons,
        changes_cons _ _ (rest.map fun result => result.vulnerability.cvssScore), List.map_append,
        Option.bind_some]
      cases next : result.vulnerability.cvssScore with
      | some score =>
          -- Nothing is recorded later, and now only if no score was held.
          have kept := changes_eq_nil (@cvssScore_of_scored _ _ _ (some result.vulnerability) _ _ _
            next others)
          rw [kept, List.map_nil, List.map_nil, List.append_nil, List.append_nil]
          rw [next] at step
          cases held : existing.bind (·.cvssScore) with
          | some earlier =>
              have same : some earlier = some score := by
                rw [step, held]
                cases contribution.cvssScore <;> simp [Register.offer]
              simp [changes, same]
          | none =>
              have offered : contribution.cvssScore = some score := by
                rw [held] at step
                cases offered : contribution.cvssScore <;> simp_all [Register.offer]
              simp [changes, writtenScore, offered]
      | none =>
          rw [next] at step
          have unscored : existing.bind (·.cvssScore) = none ∧ contribution.cvssScore = none := by
            cases held : existing.bind (·.cvssScore) <;>
              cases offered : contribution.cvssScore <;> rw [held, offered] at step <;>
                simp [Register.offer] at step ⊢
          have others : writtenScore texts (contribution :: contributions) =
              writtenScore texts contributions := by
            funext score
            simp [writtenScore, unscored.2]
          rw [unscored.1, others]
          simp [changes]

end ScoreHistory

/-! ## When a revision is applied -/

/-- The view holds what was given last, and the history has exactly the changes on the way. -/
structure RevisionApplied (texts : Texts) (contributions : List NormalisedContribution)
    (results : List MergeResult) : Prop where
  description : (latestView none results).bind (·.description) =
    lastGiven (·.description) contributions
  vendor : (latestView none results).bind (·.vendor) = lastGiven (·.vendor) contributions
  cvssScore : (latestView none results).bind (·.cvssScore) =
    lastGiven (·.cvssScore) contributions
  cvssVector : (latestView none results).bind (·.cvssVector) =
    (lastGiven offeredCvss contributions).bind (·.2.1)
  cvssVersion : (latestView none results).bind (·.cvssVersion) =
    (lastGiven offeredCvss contributions).bind (·.2.2)
  descriptionHistory : recordedChanges "description" (wholeHistory results) =
    changes none (results.map (·.vulnerability.description))
  scoreHistory : recordedChanges "cvss_score" (wholeHistory results) =
    (changes none (results.map (·.vulnerability.cvssScore))).map
      (Prod.map (Option.map texts.number) (Option.map (writtenScore texts contributions)))

/-- The first non-empty description and vendor are the last ones given, and the first score comes
with the vector and the version of the last one. -/
structure NothingRevised (contributions : List NormalisedContribution) : Prop where
  description : ∀ text, (contributions.filterMap (·.description)).find? (· ≠ "") = some text →
    lastGiven (·.description) contributions = some text
  vendor : ∀ text, (contributions.filterMap (·.vendor)).find? (· ≠ "") = some text →
    lastGiven (·.vendor) contributions = some text
  cvss : (contributions.filterMap offeredCvss).head? = lastGiven offeredCvss contributions

/-- A text register ends with the last text exactly when its first non-empty text is the last. -/
theorem text_last_iff {field : NormalisedContribution → Option String}
    {contributions : List NormalisedContribution} :
    Register.collect (· ≠ "") field none contributions = lastGiven field contributions ↔
      ∀ text, (contributions.filterMap field).find? (· ≠ "") = some text →
        lastGiven field contributions = some text := by
  rw [Register.collect_eq none contributions rfl, Option.or_none]
  cases first : (contributions.filterMap field).find? (· ≠ "") with
  | none => simp [lastGiven]
  | some text => simp [eq_comm]

theorem cvss_last_iff {contributions : List NormalisedContribution} :
    Register.collect (fun _ => true) offeredCvss none contributions =
        lastGiven offeredCvss contributions ↔
      (contributions.filterMap offeredCvss).head? = lastGiven offeredCvss contributions := by
  rw [Register.collect_eq none contributions rfl, Option.or_none]
  cases given : contributions.filterMap offeredCvss with
  | nil => simp [lastGiven, given]
  | cons first rest => simp

/-- The last score is the score of the last contribution with one. -/
theorem lastGiven_cvssScore (contributions : List NormalisedContribution) :
    lastGiven (·.cvssScore) contributions =
      (lastGiven offeredCvss contributions).map (·.1) := by
  have scores : contributions.filterMap (·.cvssScore) =
      (contributions.filterMap offeredCvss).map (·.1) := by
    rw [List.map_filterMap]
    refine List.filterMap_congr fun contribution _ => ?_
    cases scored : contribution.cvssScore <;> simp [offeredCvss, scored]
  rw [lastGiven, scores, List.getLast?_map]
  rfl

/-- A sequence of acceptable contributions, in particular one of a single source, leaves what was
given last exactly when nothing was revised; its changes are recorded in any case. -/
theorem revisionApplied_iff {texts : Texts} {clock : ℕ → DateTime}
    {contributions : List NormalisedContribution}
    (acceptable : ∀ contribution ∈ contributions, Acceptable texts contribution) :
    (∃ results, mergeAll texts clock 0 none contributions = .ok results ∧
        RevisionApplied texts contributions results) ↔
      NothingRevised contributions := by
  constructor
  · rintro ⟨results, merged, applied⟩
    obtain ⟨score, vector, version⟩ := cvss_of_mergeAll merged
    refine ⟨?_, ?_, ?_⟩
    · rw [← text_last_iff, ← description_of_mergeAll merged]
      exact applied.description
    · rw [← text_last_iff, ← vendor_of_mergeAll merged]
      exact applied.vendor
    · -- Score, vector and version agree, so the whole triples do.
      rw [← cvss_last_iff]
      have scores := applied.cvssScore
      have vectors := applied.cvssVector
      have versions := applied.cvssVersion
      rw [score, lastGiven_cvssScore] at scores
      rw [vector] at vectors
      rw [version] at versions
      generalize Register.collect (fun _ => true) offeredCvss none contributions = held at *
      generalize lastGiven offeredCvss contributions = last at *
      cases held <;> cases last <;> simp_all [Prod.ext_iff]
  · intro unrevised
    obtain ⟨results, merged⟩ := @mergeAll_isOk _ clock _ acceptable 0 none
      (fun _ absent => by cases absent)
    obtain ⟨score, vector, version⟩ := cvss_of_mergeAll merged
    have kept := cvss_last_iff.mpr unrevised.cvss
    refine ⟨results, merged, ?_, ?_, ?_, ?_, ?_, ?_, ?_⟩
    · rw [description_of_mergeAll merged]
      exact text_last_iff.mpr unrevised.description
    · rw [vendor_of_mergeAll merged]
      exact text_last_iff.mpr unrevised.vendor
    · rw [score, kept, lastGiven_cvssScore]
    · rw [vector, kept]
    · rw [version, kept]
    · have recorded := @history_of_mergeAll texts clock _ _ "description" (·.description) id
        (fun first => by simpa using merge_description_history first) _ _ _ _ merged
      simpa using recorded
    · exact scoreHistory_of_mergeAll merged

/-- A source which repeats its description leaves it in place. -/
theorem revisionApplied_of_sample :
    ∃ results, mergeAll Sample.texts Sample.clock 0 none
        [Sample.described .nvd "Out-of-bounds write", Sample.described .nvd "Out-of-bounds write"] =
          .ok results ∧
      RevisionApplied Sample.texts
        [Sample.described .nvd "Out-of-bounds write", Sample.described .nvd "Out-of-bounds write"]
        results := by
  refine (revisionApplied_iff ?_).mpr ⟨?_, ?_, ?_⟩
  · intro contribution member
    simp only [List.mem_cons, List.not_mem_nil, or_false, or_self] at member
    rw [member]
    exact Sample.acceptable_described .nvd _
  all_goals simp [Sample.described, lastGiven, offeredCvss]

/-- A source which describes a vulnerability anew does not replace its first description. -/
theorem not_revisionApplied_of_description :
    ¬ ∀ (texts : Texts) (clock : ℕ → DateTime) (source : VulnerabilitySourceName)
      (contributions : List NormalisedContribution), contributions ≠ [] →
      (∀ contribution ∈ contributions,
        contribution.source = source ∧ Acceptable texts contribution) →
      ∃ results, mergeAll texts clock 0 none contributions = .ok results ∧
        RevisionApplied texts contributions results := by
  intro claim
  obtain ⟨results, merged, applied⟩ := claim Sample.texts Sample.clock .nvd
    [Sample.described .nvd "Draft", Sample.described .nvd "Out-of-bounds write"] (by decide)
    (by
      intro contribution member
      simp only [List.mem_cons, List.not_mem_nil, or_false] at member
      rcases member with rfl | rfl
      all_goals exact ⟨rfl, Sample.acceptable_described .nvd _⟩)
  have kept := applied.description
  rw [description_of_mergeAll merged] at kept
  exact absurd kept (by decide)

end ZeroShield.Intelligence
