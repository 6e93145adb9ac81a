import Mathlib.Data.List.Basic
import Mathlib.Tactic.Ring

/-!
# Pages of a list

A list is served in pages: a page holds the next items after an index, and at least one of them
unless none is left.
-/

namespace ZeroShield.Foundation

variable {α : Type}

/-- The page after an index holds the next items, of which there are at least one if any are
left. -/
def IsPage (items : List α) (start : ℕ) (page : List α) : Prop :=
  ∃ size, 0 < size ∧ page = (items.drop start).take size

namespace IsPage

variable {items page : List α} {start : ℕ}

/-- A page and what is served after it make up the items after the index. -/
theorem append_drop (isPage : IsPage items start page) :
    page ++ items.drop (start + page.length) = items.drop start := by
  obtain ⟨size, -, rfl⟩ := isPage
  rw [List.length_take, ← List.drop_drop]
  rcases Nat.le_total size (items.drop start).length with short | long
  · rw [Nat.min_eq_left short, List.take_append_drop]
  · rw [Nat.min_eq_right long, List.take_of_length_le long, List.drop_length, List.append_nil]

/-- Only an index at which no item is left has an empty page. -/
theorem drop_eq_nil (isPage : IsPage items start []) : items.drop start = [] := by
  obtain ⟨size, positive, empty⟩ := isPage
  rcases List.take_eq_nil_iff.mp empty.symm with zero | none
  · omega
  · exact none

/-- A page which ends at the end of the items holds all that are left. -/
theorem eq_drop (isPage : IsPage items start page) (last : items.length ≤ start + page.length) :
    page = items.drop start := by
  have whole := isPage.append_drop
  rwa [List.drop_eq_nil_of_le last, List.append_nil] at whole

end IsPage

/-! ## Pages of a fixed size -/

/-- How many pages are asked for until a list is known to be exhausted: an empty list has one. -/
def pageCount (cap length : ℕ) : ℕ :=
  max 1 ((length + cap - 1) / cap)

section PageCount

variable {cap length : ℕ}

/-- A list which fits in a page is exhausted by it. -/
theorem pageCount_of_le (positive : 0 < cap) (short : length ≤ cap) : pageCount cap length = 1 := by
  have quotient : (length + cap - 1) / cap ≤ 1 := by
    rw [Nat.div_le_iff_le_mul_add_pred positive]
    omega
  exact max_eq_left quotient

/-- A list which does not fit in a page needs one more than what remains behind the page. -/
theorem pageCount_of_lt (positive : 0 < cap) (long : cap < length) :
    pageCount cap length = pageCount cap (length - cap) + 1 := by
  have split : length + cap - 1 = length - cap + cap - 1 + cap := by omega
  have behind : 1 ≤ (length - cap + cap - 1) / cap := by
    rw [Nat.le_div_iff_mul_le positive]
    omega
  rw [pageCount, pageCount, split, Nat.add_div_right _ positive, max_eq_right behind]
  exact max_eq_right (Nat.le_add_left 1 _)

/-- Every page but the first starts at an item of the list. -/
theorem mul_lt_of_lt_pageCount (positive : 0 < cap) {page : ℕ}
    (within : page + 1 < pageCount cap length) : (page + 1) * cap < length := by
  rcases lt_max_iff.mp within with first | later
  · omega
  · have bound : (page + 1 + 1) * cap ≤ length + cap - 1 :=
      (Nat.le_div_iff_mul_le positive).mp later
    rw [Nat.succ_mul] at bound
    omega

/-- The pages after an index are the first page and the ones behind it. -/
theorem take_append_take_drop (items : List α) (start pages : ℕ) :
    (items.drop start).take cap ++ (items.drop (start + cap)).take (pages * cap) =
      (items.drop start).take ((pages + 1) * cap) := by
  rw [Nat.succ_mul, Nat.add_comm (pages * cap), List.take_add, List.drop_drop]

end PageCount

end ZeroShield.Foundation
