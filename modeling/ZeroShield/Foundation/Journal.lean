import ZeroShield.Foundation.StableSort

/-!
# Journals with entries in flight

Timed items are handed out in one order and recorded later, possibly in another.  A journal lists
the items in the order in which they were handed out and knows who still holds which.  When an item
is only handed out after all recorded ones, and strictly after all held ones, sorting the record by
time restores the order of the journal.
-/

namespace ZeroShield.Foundation

variable {α β : Type} [LinearOrder β]

/-- An item of a journal and, until it is recorded, its holder. -/
structure Entry (α : Type) where
  item : α
  holder : Option ℕ

/-- Later entries are not timed earlier, and strictly later than an entry which is held; then they
have other holders. -/
def Entry.Before (time : α → β) (earlier later : Entry α) : Prop :=
  time earlier.item ≤ time later.item ∧
    ∀ holder, earlier.holder = some holder →
      time earlier.item < time later.item ∧ later.holder ≠ some holder

/-- The items which are no longer held. -/
def settled (entries : List (Entry α)) : List α :=
  (entries.filter (·.holder.isNone)).map (·.item)

/-- A journal whose settled items are those of a record, up to the order of items of different
times. -/
structure Journal (time : α → β) (entries : List (Entry α)) (record : List α) : Prop where
  ordered : entries.Pairwise (Entry.Before time)
  recorded : ∀ value,
    (settled entries).filter (time · = value) = record.filter (time · = value)

namespace Journal

variable {time : α → β} {entries : List (Entry α)} {record : List α}

theorem empty : Journal time [] [] :=
  ⟨List.Pairwise.nil, fun _ => rfl⟩

theorem mem_record (journal : Journal time entries record) {entry : Entry α}
    (member : entry ∈ entries) (free : entry.holder = none) : entry.item ∈ record := by
  refine (mem_iff_of_filter_eq time journal.recorded entry.item).mp ?_
  exact List.mem_map_of_mem (List.mem_filter.mpr ⟨member, by simp [free]⟩)

/-- Hand out an item after all recorded ones and strictly after all held ones. -/
theorem hold (journal : Journal time entries record) {item : α} {holder : ℕ}
    (afterRecord : ∀ old ∈ record, time old ≤ time item)
    (afterHeld : ∀ entry ∈ entries, ∀ other, entry.holder = some other →
      time entry.item < time item ∧ other ≠ holder) :
    Journal time (entries ++ [⟨item, some holder⟩]) record := by
  constructor
  case ordered =>
    refine List.pairwise_append.mpr ⟨journal.ordered, List.pairwise_singleton _ _, ?_⟩
    rintro entry member _ (_ | ⟨_, ⟨⟩⟩)
    cases held : entry.holder with
    | none =>
        refine ⟨afterRecord _ (journal.mem_record member held), ?_⟩
        rw [held]
        rintro other ⟨⟩
    | some other =>
        obtain ⟨strict, different⟩ := afterHeld entry member other held
        refine ⟨strict.le, ?_⟩
        rw [held]
        rintro _ ⟨⟩
        exact ⟨strict, fun same => different (Option.some.inj same).symm⟩
  case recorded =>
    intro value
    rw [← journal.recorded value]
    simp [settled]

/-- Record a held item. -/
theorem settle {before later : List (Entry α)} {item : α} {holder : ℕ}
    (journal : Journal time (before ++ ⟨item, some holder⟩ :: later) record) :
    Journal time (before ++ ⟨item, none⟩ :: later) (record ++ [item]) := by
  obtain ⟨beforeOrdered, rest, across⟩ := List.pairwise_append.mp journal.ordered
  obtain ⟨afterItem, laterOrdered⟩ := List.pairwise_cons.mp rest
  constructor
  case ordered =>
    refine List.pairwise_append.mpr ⟨beforeOrdered, List.pairwise_cons.mpr ⟨?_, laterOrdered⟩, ?_⟩
    · intro entry member
      exact ⟨(afterItem entry member).1, by rintro _ ⟨⟩⟩
    · intro entry member other present
      rcases List.mem_cons.mp present with rfl | present
      · obtain ⟨le, strict⟩ := across entry member _ List.mem_cons_self
        exact ⟨le, fun owner held => ⟨(strict owner held).1, by simp⟩⟩
      · exact across entry member other (List.mem_cons_of_mem _ present)
  case recorded =>
    intro value
    have old := journal.recorded value
    simp only [settled, List.filter_append, List.filter_cons, Option.isNone_some,
      Option.isNone_none, List.map_append, List.map_cons, if_true, Bool.false_eq_true,
      if_false] at old ⊢
    rw [← old]
    by_cases hit : time item = value
    · -- nothing which was handed out later has the same time
      have none_later : ((later.filter (·.holder.isNone)).map (·.item)).filter (time · = value) =
          [] := by
        rw [List.filter_eq_nil_iff]
        intro other present
        obtain ⟨entry, member, rfl⟩ := List.mem_map.mp present
        have strict := ((afterItem entry (List.mem_of_mem_filter member)).2 holder rfl).1
        simpa using ne_of_gt (hit ▸ strict)
      simp [hit, none_later]
    · simp [hit]

/-- No entry next to a held one has the same holder. -/
theorem holder_ne {before later : List (Entry α)} {item : α} {holder : ℕ}
    (journal : Journal time (before ++ ⟨item, some holder⟩ :: later) record) {entry : Entry α}
    (member : entry ∈ before ++ later) : entry.holder ≠ some holder := by
  obtain ⟨-, rest, across⟩ := List.pairwise_append.mp journal.ordered
  rcases List.mem_append.mp member with earlier | after
  · intro held
    exact ((across entry earlier _ List.mem_cons_self).2 holder held).2 rfl
  · exact ((List.pairwise_cons.mp rest).1 entry after |>.2 holder rfl).2

/-- Once nothing is held, sorting the record by time yields the journal. -/
theorem insertionSort_record (journal : Journal time entries record)
    (free : ∀ entry ∈ entries, entry.holder = none) :
    (record.insertionSort fun left right => time left ≤ time right) =
      entries.map (·.item) := by
  have all : settled entries = entries.map (·.item) := by
    rw [settled, List.filter_eq_self.mpr]
    intro entry member
    simp [free entry member]
  refine insertionSort_eq_of_filter_eq time ?_ fun value => ?_
  · rw [List.pairwise_map]
    exact journal.ordered.imp And.left
  · rw [← all, journal.recorded value]

end Journal

end ZeroShield.Foundation
