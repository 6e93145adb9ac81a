import Mathlib.Data.Finset.Dedup
import Mathlib.Data.Finset.Lattice.Fold
import Mathlib.Data.Fintype.Order
import Mathlib.Data.Multiset.Lattice
import Mathlib.Order.CompletePartialOrder
import Mathlib.Order.WithBot

/-!
# Joins

What a run joins out of its items is their least upper bound, whatever their order.  Sets, flags,
earliest and latest values are joined in this way.
-/

namespace ZeroShield.Foundation

section JoinAll

variable {ι α : Type} [SemilatticeSup α] [OrderBot α]

/-- The least upper bound of what the items offer. -/
def joinAll (offered : ι → α) (items : List ι) : α :=
  (items.map offered : Multiset α).sup

variable {offered : ι → α}

@[simp] theorem joinAll_nil : joinAll offered [] = ⊥ := rfl

@[simp] theorem joinAll_cons (item : ι) (items : List ι) :
    joinAll offered (item :: items) = offered item ⊔ joinAll offered items :=
  Multiset.sup_cons (offered item) (items.map offered : Multiset α)

/-- The order of the items does not matter. -/
theorem joinAll_perm {items others : List ι} (permuted : items.Perm others) :
    joinAll offered items = joinAll offered others := by
  rw [joinAll, joinAll, Multiset.coe_eq_coe.mpr (permuted.map offered)]

end JoinAll

section Kinds

variable {ι α : Type}

theorem joinAll_toFinset [DecidableEq α] (field : ι → List α) (items : List ι) :
    joinAll (fun item => (field item).toFinset) items = (items.flatMap field).toFinset := by
  induction items with
  | nil => rfl
  | cons item items ih =>
      rw [joinAll_cons, ih, List.flatMap_cons, List.toFinset_append, Finset.sup_eq_union]

theorem joinAll_flag (flag : ι → Bool) (items : List ι) :
    joinAll flag items = items.any flag := by
  induction items with
  | nil => rfl
  | cons item items ih =>
      rw [joinAll_cons, ih, List.any_cons]
      rfl

/-- A value which may be missing, with a missing one below all others. -/
def known : Option α → WithBot α
  | none => ⊥
  | some value => value

theorem known_injective : Function.Injective (known : Option α → WithBot α) := by
  intro left right same
  cases left <;> cases right <;> simp_all [known]

theorem joinAll_latest [LinearOrder α] (field : ι → Option α) (items : List ι) :
    joinAll (fun item => known (field item)) items = known (items.filterMap field).max? := by
  induction items with
  | nil => rfl
  | cons item items ih =>
      rw [joinAll_cons, ih]
      cases given : field item with
      | none => simp [known, given]
      | some value =>
          rw [List.filterMap_cons_some given, List.max?_cons]
          cases (items.filterMap field).max? with
          | none => simp [known]
          | some latest => simp [known]

theorem joinAll_earliest [LinearOrder α] (field : ι → Option α) (items : List ι) :
    joinAll (fun item => known ((field item).map OrderDual.toDual)) items =
      known ((items.filterMap field).min?.map OrderDual.toDual) := by
  induction items with
  | nil => rfl
  | cons item items ih =>
      rw [joinAll_cons, ih]
      cases given : field item with
      | none => simp [known, given]
      | some value =>
          rw [List.filterMap_cons_some given, List.min?_cons]
          cases (items.filterMap field).min? with
          | none => simp [known]
          | some earliest => simp [known]

end Kinds

end ZeroShield.Foundation
