import ZeroShield.Intelligence.Rows

/-!
# Merging a contribution twice

Merging a contribution again is meant to change nothing but the time of the last update.  Every
field settles with the first merge, except for the references: a contributed text never equals a
stored address, so that the second merge stores it a second time.
-/

namespace ZeroShield.Intelligence

open Foundation Models StringEnum

/-! ## References -/

section References

variable {texts : Texts} {existing : Option Vulnerability} {contribution : NormalisedContribution}
  {now : DateTime} {result : MergeResult}

/-- The addresses which a contribution adds. -/
def addedReferences (texts : Texts) (contribution : NormalisedContribution) : List HttpUrl :=
  contribution.references.eraseDups.filterMap texts.parseUrl

/-- Merging removes repetitions among the stored addresses and among the contributed texts, but
none between the two. -/
theorem merge_references_eq (merged : merge texts existing contribution now = .ok result) :
    result.vulnerability.references =
      ((existing.map Vulnerability.references).getD []).eraseDups ++
        addedReferences texts contribution := by
  have apart : ∀ reference ∈ contribution.references.map Reference.text,
      reference ∉ ((existing.map Vulnerability.references).getD []).map Reference.url := by
    intro reference added stored
    obtain ⟨text, -, rfl⟩ := List.mem_map.mp added
    obtain ⟨url, -, same⟩ := List.mem_map.mp stored
    cases same
  have urls : Function.Injective Reference.url := fun _ _ same => by cases same; rfl
  have added : Function.Injective Reference.text := fun _ _ same => by cases same; rfl
  rw [merge_references merged, mergedReferences]
  rw [eraseDups_append_of_disjoint apart, eraseDups_map urls, eraseDups_map added, readReferences,
    List.map_append, List.map_map, List.map_map, List.filterMap_append, List.filterMap_map,
    List.filterMap_map]
  exact congrArg (· ++ _) (List.filterMap_some)

/-- An acceptable contribution adds an address exactly when it has a reference. -/
theorem addedReferences_eq_nil (acceptable : Acceptable texts contribution) :
    addedReferences texts contribution = [] ↔ contribution.references = [] := by
  constructor
  · intro none_
    refine List.eq_nil_iff_forall_not_mem.mpr fun text member => ?_
    have unread := List.filterMap_eq_nil_iff.mp none_ text (List.mem_eraseDups.mpr member)
    have read := acceptable.references text member
    rw [unread] at read
    cases read
  · intro none_
    rw [addedReferences, none_]
    rfl

end References

/-! ## The second merge -/

section Again

variable {texts : Texts} {existing : Option Vulnerability} {contribution : NormalisedContribution}
  {now later : DateTime} {references : List HttpUrl}

/-- A text which is taken again is the one which is held. -/
theorem takesText_again {held offered : Option String}
    (takes : takesText contribution
      (if takesText contribution held offered then offered else held) offered = true) :
    (if takesText contribution held offered then offered else held) = offered := by
  rw [text_eq_offer] at takes ⊢
  cases offered with
  | none => cases takes
  | some text =>
      cases held with
      | none => rfl
      | some current =>
          by_cases empty : current = ""
          · simp [Register.offer, empty]
          · simp [Register.offer, empty, takesText, better, isTruthy, sourcePriority] at takes

theorem text_again (held offered : Option String) :
    (if takesText contribution
        (if takesText contribution held offered then offered else held) offered then offered
      else if takesText contribution held offered then offered else held) =
      if takesText contribution held offered then offered else held := by
  have again := @takesText_again contribution held offered
  generalize (if takesText contribution held offered then offered else held) = settled at again ⊢
  by_cases takes : takesText contribution settled offered = true
  · rw [if_pos takes, again takes]
  · rw [if_neg takes]

/-- A score is not taken again. -/
theorem takesScore_again {held : Option ℚ} :
    takesScore contribution
      (if takesScore contribution held then contribution.cvssScore else held) = false := by
  rw [takesScore_eq, takesScore_eq]
  cases held <;> cases contribution.cvssScore <;> rfl

theorem earliest_again (held offered : Option DateTime) :
    earliest (earliest held offered) offered = earliest held offered := by
  cases held with
  | none => cases offered <;> simp [earliest]
  | some held =>
      cases offered with
      | none => rfl
      | some offered =>
          by_cases earlier : offered < held <;> simp [earliest, earlier]

theorem latest_again (held offered : Option DateTime) :
    latest (latest held offered) offered = latest held offered := by
  cases held with
  | none => cases offered <;> simp [latest]
  | some held =>
      cases offered with
      | none => rfl
      | some offered =>
          by_cases later : held < offered <;> simp [latest, later]

theorem or_again {α : Type} (held offered : Option α) :
    offered.or (offered.or held) = offered.or held := by
  cases offered <;> rfl

theorem orElseText_again (held offered : Option String) :
    orElseText offered (orElseText offered held) = orElseText offered held := by
  unfold orElseText
  split <;> rfl

/-- An update on a condition is made once if it is idempotent. -/
theorem ite_again {α : Type} {condition : Prop} [Decidable condition] {update : α → α} {held : α}
    (again : update (update held) = update held) :
    (if condition then update (if condition then update held else held)
      else if condition then update held else held) =
      if condition then update held else held := by
  by_cases holds : condition <;> simp [holds, again]

/-- A value which is held already is not recorded. -/
theorem track_eq_nil {α : Type} [DecidableEq α] {oldText text : α → String} {field : String}
    {old new : Option α} (held : ∀ value, new = some value → old = some value) :
    track contribution now oldText text field old new = [] := by
  cases new with
  | none => rfl
  | some value => exact if_pos (held value rfl)

variable {view : Vulnerability}
  (isView : view = mergedVulnerability contribution now existing references)

include isView

/-- Merging again replaces the references and the time of the update, and nothing else. -/
theorem mergedVulnerability_again (added : List HttpUrl) :
    mergedVulnerability contribution later (some view) added =
      { view with references := added, lastUpdatedAt := later } := by
  rw [isView]
  simp only [mergedVulnerability, Option.bind_some, Option.map_some, Option.getD_some,
    Option.any_some, takesScore_again, Vulnerability.mk.injEq, true_and, and_true]
  refine ⟨text_again _ _, earliest_again _ _, latest_again _ _, rfl, rfl, rfl,
    @ite_again _ _ _ (fun _ => _) _ rfl, @ite_again _ _ _ (fun _ => _) _ rfl,
    @ite_again _ _ _ (fun _ => _) _ rfl, ?_, ite_again (or_again _ _), ite_again (or_again _ _),
    ite_again (orElseText_again _ _), ?_, text_again _ _, or_again _ _, ?_⟩
  · rw [← Bool.or_assoc, Bool.or_self]
  · refine insertionSort_dedup_congr ?_
    ext cweId
    simp
  · refine sortedSources_congr ?_
    ext source
    simp [or_comm]

/-- Merging again records nothing. -/
theorem historyEntries_again : historyEntries contribution later texts (some view) = [] := by
  rw [isView]
  simp only [historyEntries, mergedVulnerability, Option.bind_some, Option.any_some,
    takesScore_again, List.append_eq_nil_iff]
  refine ⟨⟨⟨⟨?_, rfl⟩, ?_⟩, ?_⟩, ?_⟩
  · refine ite_eq_right_iff.mpr fun takes => track_eq_nil fun text given => ?_
    rw [takesText_again takes, given]
  · refine track_eq_nil fun score given => ?_
    simp [given]
  · split
    case isTrue listed =>
      simp only [listed, List.append_eq_nil_iff]
      refine ⟨⟨?_, ?_⟩, ?_⟩
      · refine track_eq_nil fun flag given => ?_
        rw [← given]
        rfl
      all_goals
        refine track_eq_nil fun date given => ?_
        simp [given]
    case isFalse => rfl
  · refine track_eq_nil fun relevance given => ?_
    simp [given]

end Again

/-! ## Storing twice -/

/-- Merging and storing a contribution twice leaves the row of the first time but for the time of
the update, records nothing the second time, and stores no repetitions. -/
def MergesOnce (texts : Texts) (database : Database) (contribution : NormalisedContribution)
    (now later : DateTime) : Prop :=
  ∃ first once second twice,
    database.mergeStored texts contribution now = .ok (first, once) ∧
      once.mergeStored texts contribution later = .ok (second, twice) ∧
      second.history = [] ∧
      ∃ row again, once.vulnerabilities.lookup contribution.cveId = some row ∧
        twice.vulnerabilities.lookup contribution.cveId = some again ∧
        again = { row with lastUpdatedAt := again.lastUpdatedAt } ∧
        again.cweIds.Nodup ∧ again.sources.Nodup ∧ again.references.Nodup

section MergesOnce

variable {texts : Texts} {database : Database} {contribution : NormalisedContribution}
  {existing : Option Vulnerability} {now later : DateTime}

/-- The row which a stored merge leaves. -/
theorem lookup_of_mergeStored
    (isRead : database.getVulnerability texts contribution.cveId = .ok existing)
    {result : MergeResult} {after : Database}
    (stored : database.mergeStored texts contribution now = .ok (result, after)) :
    after.vulnerabilities.lookup contribution.cveId = some (vulnToOrm result.vulnerability) := by
  obtain ⟨merged, rfl⟩ := (Database.mergeStored_eq_ok isRead).mp stored
  obtain ⟨⟨references, view⟩, -, -⟩ := merge_spec merged
  refine Table.lookup_upsert_of_eq ?_
  rw [view]
  rfl

/-- The view after the second merge. -/
theorem merge_again {first second : MergeResult}
    (merged : merge texts existing contribution now = .ok first)
    (mergedAgain : merge texts (some first.vulnerability) contribution later = .ok second) :
    second.vulnerability =
        { first.vulnerability with
          references := first.vulnerability.references.eraseDups ++
            addedReferences texts contribution
          lastUpdatedAt := later } ∧
      second.history = [] := by
  obtain ⟨⟨references, view⟩, -, -⟩ := merge_spec merged
  obtain ⟨⟨added, viewAgain⟩, history, -⟩ := merge_spec mergedAgain
  have references := merge_references_eq mergedAgain
  constructor
  · rw [mergedVulnerability_again view added] at viewAgain
    rw [viewAgain] at references ⊢
    exact congrArg (fun list => { first.vulnerability with
      references := list, lastUpdatedAt := later }) references
  · rw [history, historyEntries_again view]

/-- A contribution which is merged twice as once adds no address. -/
theorem addedReferences_of_mergesOnce (readsBack : texts.ReadsBack)
    (isRead : database.getVulnerability texts contribution.cveId = .ok existing)
    (dates : DatesInCalendar contribution)
    (once : MergesOnce texts database contribution now later) :
    addedReferences texts contribution = [] := by
  obtain ⟨first, once, second, twice, stored, storedAgain, -, row, again, -, isAgain, -, -, -,
    distinct⟩ := once
  have isReadAgain := Database.getVulnerability_of_mergeStored readsBack dates isRead stored
  obtain ⟨merged, -⟩ := (Database.mergeStored_eq_ok isRead).mp stored
  obtain ⟨mergedAgain, -⟩ := (Database.mergeStored_eq_ok isReadAgain).mp storedAgain
  rw [lookup_of_mergeStored isReadAgain storedAgain] at isAgain
  cases isAgain
  have references : (first.vulnerability.references.eraseDups ++
      addedReferences texts contribution).Nodup := by
    have addresses := List.Nodup.of_map _ distinct
    rwa [(merge_again merged mergedAgain).1] at addresses
  -- What the contribution adds was added by the first merge already.
  refine List.eq_nil_iff_forall_not_mem.mpr fun url member => ?_
  have present : url ∈ first.vulnerability.references := by
    rw [merge_references_eq merged]
    exact List.mem_append_right _ member
  exact (List.nodup_append.mp references).2.2 url (List.mem_eraseDups.mpr present) url member rfl

/-- What is stored of a merged view has no repetitions if its references have none. -/
theorem nodup_vulnToOrm {result : MergeResult}
    (merged : merge texts existing contribution now = .ok result)
    (references : result.vulnerability.references.Nodup) :
    let row := vulnToOrm result.vulnerability
    row.cweIds.Nodup ∧ row.sources.Nodup ∧ row.references.Nodup := by
  obtain ⟨⟨cweIds, sortedCweIds⟩, ⟨sources, sortedSources⟩⟩ := merge_setsSorted merged
  refine ⟨?_, List.Nodup.map value_injective ?_, List.Nodup.map ?_ references⟩
  · change result.vulnerability.cweIds.Nodup
    rw [sortedCweIds]
    exact nodup_insertionSort_dedup cweIds
  · rw [sortedSources]
    exact nodup_insertionSort_dedup sources
  · rintro ⟨left⟩ ⟨right⟩ same
    exact congrArg HttpUrl.mk same

/-- Merging an acceptable contribution twice is merging it once exactly when it has no
references. -/
theorem mergesOnce_iff (readsBack : texts.ReadsBack)
    (isRead : database.getVulnerability texts contribution.cveId = .ok existing)
    (acceptable : Acceptable texts contribution) (dates : DatesInCalendar contribution) :
    MergesOnce texts database contribution now later ↔ contribution.references = [] := by
  rw [← addedReferences_eq_nil acceptable]
  constructor
  · exact addedReferences_of_mergesOnce readsBack isRead dates
  · intro nothing
    have valid (vulnerability : Vulnerability) (found : existing = some vulnerability) :
        vulnerability.errors = [] :=
      (Database.storable_of_getVulnerability readsBack isRead vulnerability found).valid
    obtain ⟨first, merged⟩ := @merge_isOk _ _ _ now valid acceptable
    have stored := (Database.mergeStored_eq_ok isRead).mpr ⟨merged, rfl⟩
    have isReadAgain := Database.getVulnerability_of_mergeStored readsBack dates isRead stored
    obtain ⟨second, mergedAgain⟩ := @merge_isOk texts (some first.vulnerability) contribution later
      (by
        rintro vulnerability ⟨⟩
        exact (merge_spec merged).2.2)
      acceptable
    have storedAgain := (Database.mergeStored_eq_ok isReadAgain).mpr ⟨mergedAgain, rfl⟩
    obtain ⟨view, history⟩ := merge_again merged mergedAgain
    have references : first.vulnerability.references.eraseDups =
      first.vulnerability.references := by
      rw [merge_references_eq merged, nothing, List.append_nil]
      exact eraseDups_of_nodup (nodup_eraseDups _)
    rw [nothing, List.append_nil, references] at view
    refine ⟨first, _, second, _, stored, storedAgain, history, _, _,
      lookup_of_mergeStored isRead stored, lookup_of_mergeStored isReadAgain storedAgain, ?_,
      nodup_vulnToOrm mergedAgain ?_⟩
    · rw [view]
      rfl
    · rw [view]
      change first.vulnerability.references.Nodup
      rw [← references]
      exact nodup_eraseDups _

end MergesOnce

namespace Sample

theorem texts_readsBack : texts.ReadsBack := by
  intro text url read
  cases read
  rfl

theorem dates_probability : DatesInCalendar probability := by
  refine ⟨?_, ?_, ?_⟩ <;> exact fun date absent => by cases absent

/-- A contribution with a reference. -/
def referenced : NormalisedContribution where
  cveId := "CVE-2024-21762"
  source := .nvd
  references := ["https://fortiguard.com/psirt/FG-IR-24-015"]

theorem acceptable_referenced : Acceptable texts referenced :=
  ⟨acceptable_probability.cveId, rfl, rfl, rfl, fun _ _ => rfl⟩

theorem dates_referenced : DatesInCalendar referenced := by
  refine ⟨?_, ?_, ?_⟩ <;> exact fun date absent => by cases absent

end Sample

/-- A probability is merged twice into an empty database. -/
theorem mergesOnce_of_sample : MergesOnce Sample.texts {} Sample.probability 0 60 :=
  (mergesOnce_iff Sample.texts_readsBack rfl Sample.acceptable_probability
    Sample.dates_probability).mpr rfl

/-- A reference is stored twice after its contribution was merged twice. -/
theorem not_mergesOnce_of_reference :
    ¬ ∀ (texts : Texts) (database : Database) (contribution : NormalisedContribution)
      (existing : Option Vulnerability) (now later : DateTime), texts.ReadsBack →
      database.getVulnerability texts contribution.cveId = .ok existing →
      Acceptable texts contribution → DatesInCalendar contribution →
        MergesOnce texts database contribution now later := by
  intro claim
  have once := claim Sample.texts {} Sample.referenced none 0 60 Sample.texts_readsBack rfl
    Sample.acceptable_referenced Sample.dates_referenced
  have added :=
    addedReferences_of_mergesOnce Sample.texts_readsBack rfl Sample.dates_referenced once
  exact absurd ((addedReferences_eq_nil Sample.acceptable_referenced).mp added) (by decide)

end ZeroShield.Intelligence
