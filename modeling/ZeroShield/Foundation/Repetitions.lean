import Mathlib.Data.Finset.Dedup
import Mathlib.Data.List.Induction
import Mathlib.Data.List.Sort

/-!
# Lists without repetitions

Repetitions are removed from a list by keeping first occurrences, or by sorting its elements.
-/

namespace ZeroShield.Foundation

section FirstOccurrences

variable {α β : Type} [DecidableEq α] [DecidableEq β]

theorem eraseDups_concat (items : List α) (item : α) :
    (items ++ [item]).eraseDups =
      if item ∈ items then items.eraseDups else items.eraseDups ++ [item] := by
  rw [List.eraseDups_append]
  by_cases present : item ∈ items <;>
    simp [List.cons_removeAll, List.eraseDups_cons, present]

theorem nodup_eraseDups (items : List α) : items.eraseDups.Nodup := by
  induction items using List.reverseRecOn with
  | nil => exact List.nodup_nil
  | append_singleton items item ih =>
      rw [eraseDups_concat]
      split
      case isTrue => exact ih
      case isFalse absent =>
        refine List.nodup_append.mpr ⟨ih, List.nodup_singleton item, ?_⟩
        rintro other member _ last rfl
        exact absent (List.mem_singleton.mp last ▸ List.mem_eraseDups.mp member)

theorem eraseDups_of_nodup {items : List α} (distinct : items.Nodup) :
    items.eraseDups = items := by
  induction items using List.reverseRecOn with
  | nil => rfl
  | append_singleton items item ih =>
      obtain ⟨before, -, apart⟩ := List.nodup_append.mp distinct
      have absent : item ∉ items := fun member => apart item member item (by simp) rfl
      rw [eraseDups_concat, if_neg absent, ih before]

theorem eraseDups_map {f : α → β} (injective : Function.Injective f) (items : List α) :
    (items.map f).eraseDups = items.eraseDups.map f := by
  induction items using List.reverseRecOn with
  | nil => rfl
  | append_singleton items item ih =>
      rw [List.map_append, List.map_singleton, eraseDups_concat, eraseDups_concat, ih]
      simp only [List.mem_map_of_injective injective]
      split <;> simp

/-- Repetitions of elements of different kinds are removed kind by kind. -/
theorem eraseDups_append_of_disjoint {items others : List α}
    (disjoint : ∀ item ∈ others, item ∉ items) :
    (items ++ others).eraseDups = items.eraseDups ++ others.eraseDups := by
  have kept : others.removeAll items = others :=
    List.filter_eq_self.mpr fun item member => by simpa using disjoint item member
  rw [List.eraseDups_append, kept]

end FirstOccurrences

/-- Lists of the same elements have the same sorted list without repetitions. -/
theorem insertionSort_dedup_congr {α : Type} [DecidableEq α] {before : α → α → Prop}
    [DecidableRel before] [Std.Total before] [IsTrans α before] [Std.Antisymm before]
    {items others : List α} (same : items.toFinset = others.toFinset) :
    items.dedup.insertionSort before = others.dedup.insertionSort before := by
  have permuted : items.dedup.Perm others.dedup := by
    refine (List.perm_ext_iff_of_nodup items.nodup_dedup others.nodup_dedup).mpr fun element => ?_
    rw [List.mem_dedup, List.mem_dedup, ← List.mem_toFinset, same, List.mem_toFinset]
  have sameSorted : (items.dedup.insertionSort before).Perm (others.dedup.insertionSort before) :=
    (List.perm_insertionSort before _).trans
      (permuted.trans (List.perm_insertionSort before _).symm)
  exact sameSorted.eq_of_pairwise' (List.pairwise_insertionSort before _)
    (List.pairwise_insertionSort before _)

theorem nodup_insertionSort_dedup {α : Type} [DecidableEq α] {before : α → α → Prop}
    [DecidableRel before] (items : List α) : (items.dedup.insertionSort before).Nodup :=
  (List.perm_insertionSort before _).nodup_iff.mpr items.nodup_dedup

end ZeroShield.Foundation
