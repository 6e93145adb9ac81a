import Mathlib.Data.Int.ConditionallyCompleteOrder
import ZeroShield.Foundation.ChangeLog
import ZeroShield.Intelligence.Idempotence
import ZeroShield.Intelligence.KnownData
import ZeroShield.Intelligence.Revision

/-!
# The history as a chain

The history of a tracked field is meant to lead from its default to its present value.  It does,
except that a relevance is recorded as a value when it is new and with its class when it is old, so
the history of relevances is a chain only as long as the relevance does not change, and that a score
is recorded as it was given, while a number with a fraction is stored.
-/

namespace ZeroShield.Intelligence

open Foundation Models StringEnum

/-! ## The history of one merge -/

section Step

variable {texts : Texts} {existing : Option Vulnerability} {contribution : NormalisedContribution}
  {now : DateTime} {result : MergeResult}

theorem recordedChanges_ite {field : String} {condition : Prop} [Decidable condition]
    {entries : List VulnerabilityHistoryEntry} :
    recordedChanges field (if condition then entries else []) =
      if condition then recordedChanges field entries else [] := by
  split <;> rfl

end Step

@[simp] theorem wholeHistory_cons (result : MergeResult) (rest : List MergeResult) :
    wholeHistory (result :: rest) = result.history ++ wholeHistory rest :=
  rfl

/-! ## Every field -/

section Run

variable {texts : Texts} {clock : ℕ → DateTime} {reading : ℕ} {existing : Option Vulnerability}
  {contributions : List NormalisedContribution} {results : List MergeResult}

end Run

/-! ## The stored history -/

namespace Database

/-- Merge contributions in order, each into the stored view which the one before left. -/
def mergeAllStored (texts : Texts) (clock : ℕ → DateTime) :
    ℕ → Database → List NormalisedContribution → Except MergeError Database
  | _, database, [] => .ok database
  | reading, database, contribution :: contributions => do
      let (_, after) ← database.mergeStored texts contribution (clock reading)
      mergeAllStored texts clock (reading + 1) after contributions

variable {texts : Texts} {clock : ℕ → DateTime} {reading : ℕ} {database after : Database}
  {existing : Option Vulnerability} {contributions : List NormalisedContribution} {cveId : String}

/-- Merging into the database merges into the view which is stored there. -/
theorem mergeAll_of_mergeAllStored (readsBack : texts.ReadsBack)
    (sameId : ∀ contribution ∈ contributions, contribution.cveId = cveId)
    (dates : ∀ contribution ∈ contributions, DatesInCalendar contribution)
    (isRead : database.getVulnerability texts cveId = .ok existing)
    (stored : mergeAllStored texts clock reading database contributions = .ok after) :
    ∃ results, mergeAll texts clock reading existing contributions = .ok results ∧
      after.getVulnerability texts cveId = .ok (latestView existing results) ∧
      after.history = database.history ++ wholeHistory results := by
  induction contributions generalizing reading database existing with
  | nil =>
      cases stored
      exact ⟨[], rfl, isRead, (List.append_nil _).symm⟩
  | cons contribution contributions ih =>
      obtain ⟨⟨result, next⟩, first, others⟩ := bind_eq_ok.mp stored
      have isFirst := sameId contribution List.mem_cons_self
      rw [← isFirst] at isRead
      have isReadNext := getVulnerability_of_mergeStored readsBack
        (dates contribution List.mem_cons_self) isRead first
      obtain ⟨merged, isNext⟩ := (mergeStored_eq_ok isRead).mp first
      rw [isFirst] at isReadNext
      obtain ⟨rest, mergedRest, left, history⟩ := ih
        (fun other member => sameId other (List.mem_cons_of_mem _ member))
        (fun other member => dates other (List.mem_cons_of_mem _ member)) isReadNext others
      refine ⟨result :: rest, ?_, left, ?_⟩
      · exact bind_eq_ok.mpr ⟨result, merged, bind_eq_ok.mpr ⟨rest, mergedRest, rfl⟩⟩
      · rw [history, isNext, wholeHistory_cons]
        exact List.append_assoc database.history result.history (wholeHistory rest)

/-- Acceptable contributions to a vulnerability which can be read are merged and stored. -/
theorem mergeAllStored_isOk (readsBack : texts.ReadsBack)
    (sameId : ∀ contribution ∈ contributions, contribution.cveId = cveId)
    (dates : ∀ contribution ∈ contributions, DatesInCalendar contribution)
    (acceptable : ∀ contribution ∈ contributions, Acceptable texts contribution)
    (isRead : database.getVulnerability texts cveId = .ok existing) :
    ∃ after, mergeAllStored texts clock reading database contributions = .ok after := by
  induction contributions generalizing reading database existing with
  | nil => exact ⟨database, rfl⟩
  | cons contribution contributions ih =>
      have isFirst := sameId contribution List.mem_cons_self
      rw [← isFirst] at isRead
      obtain ⟨result, merged⟩ := @merge_isOk _ _ _ (clock reading)
        (fun vulnerability found =>
          (storable_of_getVulnerability readsBack isRead vulnerability found).valid)
        (acceptable contribution List.mem_cons_self)
      have first := (mergeStored_eq_ok isRead).mpr ⟨merged, rfl⟩
      have isReadNext := getVulnerability_of_mergeStored readsBack
        (dates contribution List.mem_cons_self) isRead first
      rw [isFirst] at isReadNext
      obtain ⟨after, others⟩ := ih
        (fun other member => sameId other (List.mem_cons_of_mem _ member))
        (fun other member => dates other (List.mem_cons_of_mem _ member))
        (fun other member => acceptable other (List.mem_cons_of_mem _ member)) isReadNext
      exact ⟨after, bind_eq_ok.mpr ⟨_, first, others⟩⟩

end Database

section Recorded

variable {texts : Texts} {contribution : NormalisedContribution} {now : DateTime}

theorem mem_track {α : Type} [DecidableEq α] {oldText text : α → String} {field : String}
    {old new : Option α} :
    ∀ entry ∈ track contribution now oldText text field old new,
      entry.cveId = contribution.cveId ∧ entry.observedAt = now := by
  intro entry member
  unfold track at member
  split at member
  case h_1 => cases member
  case h_2 =>
    split at member
    case isTrue => cases member
    case isFalse =>
      rw [List.mem_singleton] at member
      subst member
      exact ⟨rfl, rfl⟩

/-- Every entry is about the vulnerability of the contribution and has the time of the merge. -/
theorem mem_historyEntries {existing : Option Vulnerability} :
    ∀ entry ∈ historyEntries contribution now texts existing,
      entry.cveId = contribution.cveId ∧ entry.observedAt = now := by
  intro entry member
  simp only [historyEntries, List.mem_append] at member
  rcases member with (((member | member) | member) | member) | member
  · split at member
    · exact mem_track entry member
    · cases member
  · split at member
    · exact mem_track entry member
    · cases member
  · exact mem_track entry member
  · split at member
    · simp only [List.mem_append] at member
      rcases member with (member | member) | member
      all_goals exact mem_track entry member
    · cases member
  · exact mem_track entry member

variable {clock : ℕ → DateTime} {reading : ℕ} {existing : Option Vulnerability}
  {contributions : List NormalisedContribution} {results : List MergeResult}

/-- The entries of a sequence of merges of one vulnerability are about it. -/
theorem cveId_of_mergeAll {cveId : String}
    (sameId : ∀ contribution ∈ contributions, contribution.cveId = cveId)
    (merged : mergeAll texts clock reading existing contributions = .ok results) :
    ∀ entry ∈ wholeHistory results, entry.cveId = cveId := by
  induction contributions generalizing reading existing results with
  | nil =>
      cases merged
      exact fun entry absent => by cases absent
  | cons contribution contributions ih =>
      obtain ⟨result, rest, rfl, first, others⟩ := mergeAll_cons merged
      obtain ⟨-, history, -⟩ := merge_spec first
      intro entry member
      rw [wholeHistory_cons, List.mem_append] at member
      rcases member with member | member
      · rw [history] at member
        exact (mem_historyEntries entry member).1.trans (sameId contribution List.mem_cons_self)
      · exact ih (fun other isOther => sameId other (List.mem_cons_of_mem _ isOther)) others entry
          member

/-- The entries of a sequence of merges have the readings of the clock. -/
theorem observed_of_mergeAll
    (merged : mergeAll texts clock reading existing contributions = .ok results) :
    ∀ entry ∈ wholeHistory results, ∃ later, reading ≤ later ∧ entry.observedAt = clock later := by
  induction contributions generalizing reading existing results with
  | nil =>
      cases merged
      exact fun entry absent => by cases absent
  | cons contribution contributions ih =>
      obtain ⟨result, rest, rfl, first, others⟩ := mergeAll_cons merged
      obtain ⟨-, history, -⟩ := merge_spec first
      intro entry member
      rw [wholeHistory_cons, List.mem_append] at member
      rcases member with member | member
      · rw [history] at member
        exact ⟨reading, le_rfl, (mem_historyEntries entry member).2⟩
      · obtain ⟨later, isLater, observed⟩ := ih others entry member
        exact ⟨later, by omega, observed⟩

/-- A clock which never goes back orders the entries as they were recorded. -/
theorem pairwise_wholeHistory (forward : Monotone clock)
    (merged : mergeAll texts clock reading existing contributions = .ok results) :
    (wholeHistory results).Pairwise fun left right => left.observedAt ≤ right.observedAt := by
  induction contributions generalizing reading existing results with
  | nil =>
      cases merged
      exact List.Pairwise.nil
  | cons contribution contributions ih =>
      obtain ⟨result, rest, rfl, first, others⟩ := mergeAll_cons merged
      obtain ⟨-, history, -⟩ := merge_spec first
      rw [wholeHistory_cons, history, List.pairwise_append]
      refine ⟨?_, ih others, fun left isLeft right isRight => ?_⟩
      · refine List.pairwise_of_forall_mem_list fun left isLeft right isRight => ?_
        rw [(mem_historyEntries left isLeft).2, (mem_historyEntries right isRight).2]
      · obtain ⟨later, isLater, observed⟩ := observed_of_mergeAll others right isRight
        rw [(mem_historyEntries left isLeft).2, observed]
        exact forward (by omega)

end Recorded

section Stored

variable {texts : Texts} {clock : ℕ → DateTime} {database after : Database} {cveId : String}
  {contributions : List NormalisedContribution}

/-- The stored entries of a vulnerability which was not stored before. -/
theorem history_of_mergeAllStored (unrecorded : ∀ entry ∈ database.history, entry.cveId ≠ cveId)
    (sameId : ∀ contribution ∈ contributions, contribution.cveId = cveId)
    {results : List MergeResult}
    (merged : mergeAll texts clock 0 none contributions = .ok results)
    (history : after.history = database.history ++ wholeHistory results) :
    after.history.filter (·.cveId = cveId) = wholeHistory results := by
  have before : database.history.filter (·.cveId = cveId) = [] :=
    List.filter_eq_nil_iff.mpr fun entry member => by simpa using unrecorded entry member
  have own : (wholeHistory results).filter (·.cveId = cveId) = wholeHistory results :=
    List.filter_eq_self.mpr fun entry member => by
      simpa using cveId_of_mergeAll sameId merged entry member
  rw [history, List.filter_append, before, own, List.nil_append]

/-- With a clock which never goes back, the history is read in the order in which it was stored. -/
theorem getHistory_of_mergeAllStored (readsBack : texts.ReadsBack) (forward : Monotone clock)
    (fresh : database.getVulnerability texts cveId = .ok none)
    (unrecorded : ∀ entry ∈ database.history, entry.cveId ≠ cveId)
    (sameId : ∀ contribution ∈ contributions, contribution.cveId = cveId)
    (dates : ∀ contribution ∈ contributions, DatesInCalendar contribution)
    (stored : Database.mergeAllStored texts clock 0 database contributions = .ok after) :
    after.getHistory cveId = after.history.filter (·.cveId = cveId) := by
  obtain ⟨results, merged, -, history⟩ :=
    Database.mergeAll_of_mergeAllStored readsBack sameId dates fresh stored
  rw [Database.getHistory, history_of_mergeAllStored unrecorded sameId merged history]
  exact (pairwise_wholeHistory forward merged).insertionSort_eq

end Stored

namespace Sample

end Sample

end ZeroShield.Intelligence
