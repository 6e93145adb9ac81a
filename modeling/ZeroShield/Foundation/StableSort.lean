import Mathlib.Data.List.Sort

/-!
# Stable sorting by a key

A list which is sorted by a key is determined by its entries under every single key.  Since sorting
is stable, this identifies the result of sorting without reference to permutations.
-/

namespace ZeroShield.Foundation

variable {α β : Type} [LinearOrder β] (key : α → β)

/-- Sorting by a key keeps the order of entries with equal keys. -/
theorem filter_insertionSort (list : List α) (value : β) :
    (list.insertionSort fun left right => key left ≤ key right).filter (key · = value) =
      list.filter (key · = value) := by
  have perm := List.perm_insertionSort (fun left right => key left ≤ key right) list
  have equalKeys : (list.filter (key · = value)).Pairwise fun left right =>
      key left ≤ key right := by
    refine List.Pairwise.imp_of_mem ?_ (List.pairwise_of_forall (R := fun _ _ => True) (by simp))
    intro left right atLeft atRight _
    simp only [List.mem_filter, decide_eq_true_eq] at atLeft atRight
    exact (atLeft.2.trans atRight.2.symm).le
  have kept := (List.sublist_insertionSort equalKeys List.filter_sublist).filter (key · = value)
  rw [List.filter_filter] at kept
  simp only [Bool.and_self] at kept
  exact (kept.eq_of_length (perm.filter _).length_eq.symm).symm

/-- Lists with the same entries under every key have the same entries. -/
theorem mem_iff_of_filter_eq {left right : List α}
    (same : ∀ value, left.filter (key · = value) = right.filter (key · = value)) (entry : α) :
    entry ∈ left ↔ entry ∈ right := by
  have filtered := congrArg (entry ∈ ·) (same (key entry))
  simpa using filtered

/-- Two sorted lists with the same entries under every key are equal. -/
theorem eq_of_filter_eq {left right : List α}
    (leftSorted : left.Pairwise fun first second => key first ≤ key second)
    (rightSorted : right.Pairwise fun first second => key first ≤ key second)
    (same : ∀ value, left.filter (key · = value) = right.filter (key · = value)) :
    left = right := by
  induction left generalizing right with
  | nil =>
      cases right with
      | nil => rfl
      | cons second right =>
          cases (mem_iff_of_filter_eq key same second).mpr List.mem_cons_self
  | cons first left ih =>
      cases right with
      | nil => cases (mem_iff_of_filter_eq key same first).mp List.mem_cons_self
      | cons second right =>
          have members := mem_iff_of_filter_eq key same
          obtain ⟨firstLe, leftTail⟩ := List.pairwise_cons.mp leftSorted
          obtain ⟨secondLe, rightTail⟩ := List.pairwise_cons.mp rightSorted
          -- both heads have the smallest key, and the entries under it agree
          have smallest : key first = key second := by
            refine le_antisymm ?_ ?_
            · rcases List.mem_cons.mp ((members second).mpr List.mem_cons_self) with rfl | later
              · exact le_rfl
              · exact firstLe second later
            · rcases List.mem_cons.mp ((members first).mp List.mem_cons_self) with rfl | later
              · exact le_rfl
              · exact secondLe first later
          have heads := same (key first)
          simp only [List.filter_cons, smallest, decide_true, if_true, List.cons.injEq] at heads
          obtain ⟨rfl, -⟩ := heads
          have tails (value : β) : left.filter (key · = value) = right.filter (key · = value) := by
            have both := same value
            by_cases hit : key first = value
            · simpa [List.filter_cons, hit] using both
            · simpa [List.filter_cons, hit] using both
          rw [ih leftTail rightTail tails]

/-- The sorted list with the same entries under every key is the result of sorting. -/
theorem insertionSort_eq_of_filter_eq {list sorted : List α}
    (ordered : sorted.Pairwise fun left right => key left ≤ key right)
    (same : ∀ value, list.filter (key · = value) = sorted.filter (key · = value)) :
    (list.insertionSort fun left right => key left ≤ key right) = sorted := by
  have total : Std.Total fun left right => key left ≤ key right :=
    ⟨fun left right => le_total (key left) (key right)⟩
  have transitive : IsTrans α fun left right => key left ≤ key right :=
    ⟨fun _ _ _ first second => first.trans second⟩
  refine eq_of_filter_eq key (List.pairwise_insertionSort _ list) ordered fun value => ?_
  rw [filter_insertionSort, same value]

/-- An entry with a key which is not smaller is sorted after a prefix of the sorted list. -/
theorem prefix_insertionSort_concat {list front : List α} {new : α}
    (isPrefix : front <+: list.insertionSort fun left right => key left ≤ key right)
    (later : ∀ entry ∈ front, key entry ≤ key new) :
    front <+: (list ++ [new]).insertionSort fun left right => key left ≤ key right := by
  have total : Std.Total fun left right => key left ≤ key right :=
    ⟨fun left right => le_total (key left) (key right)⟩
  have transitive : IsTrans α fun left right => key left ≤ key right :=
    ⟨fun _ _ _ first second => first.trans second⟩
  obtain ⟨back, split⟩ := isPrefix
  have sorted := List.pairwise_insertionSort (fun left right => key left ≤ key right) list
  rw [← split] at sorted
  obtain ⟨frontSorted, -, across⟩ := List.pairwise_append.mp sorted
  refine ⟨(back ++ [new]).insertionSort fun left right => key left ≤ key right, Eq.symm ?_⟩
  refine insertionSort_eq_of_filter_eq key ?_ fun value => ?_
  · refine List.pairwise_append.mpr ⟨frontSorted, List.pairwise_insertionSort _ _, ?_⟩
    intro first atFront second atBack
    rw [List.mem_insertionSort, List.mem_append, List.mem_singleton] at atBack
    rcases atBack with old | rfl
    · exact across first atFront second old
    · exact later first atFront
  · have old : list.filter (key · = value) =
        front.filter (key · = value) ++ back.filter (key · = value) := by
      rw [← List.filter_append, split, filter_insertionSort]
    rw [List.filter_append, old, List.filter_append, filter_insertionSort, List.filter_append,
      List.append_assoc]

end ZeroShield.Foundation
