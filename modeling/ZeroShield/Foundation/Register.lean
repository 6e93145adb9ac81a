import Mathlib.Data.List.Perm.Basic

/-!
# Registers

A register takes the values offered to it until it holds one which is settled.  With every value
settled the first one stays, with no value settled the last one does.  Over all orders of the same
offers a register can end with each contender, and with nothing else.
-/

namespace ZeroShield.Foundation

namespace Register

variable {ι α : Type} (settled : α → Bool)

/-- Keep a settled value, otherwise take what is offered. -/
def offer (held : Option α) : Option α → Option α
  | none => held
  | some value => if held.any settled then held else some value

/-- What a register holds after the items made their offers in order. -/
def collect (field : ι → Option α) (held : Option α) (items : List ι) : Option α :=
  items.foldl (fun held item => offer settled held (field item)) held

variable {settled}

@[simp] theorem offer_none (held : Option α) : offer settled held none = held := rfl

theorem offer_of_settled {held : Option α} (kept : held.any settled = true) (offered : Option α) :
    offer settled held offered = held := by
  cases offered with
  | none => rfl
  | some value => simp [offer, kept]

theorem offer_of_unsettled {held : Option α} (open_ : held.any settled = false) (value : α) :
    offer settled held (some value) = some value := by
  simp [offer, open_]

variable {field : ι → Option α}

@[simp] theorem collect_nil (held : Option α) : collect settled field held [] = held := rfl

@[simp] theorem collect_cons (held : Option α) (item : ι) (items : List ι) :
    collect settled field held (item :: items) =
      collect settled field (offer settled held (field item)) items := rfl

theorem collect_append_singleton (held : Option α) (items : List ι) (item : ι) :
    collect settled field held (items ++ [item]) =
      offer settled (collect settled field held items) (field item) := by
  simp [collect]

theorem collect_of_settled {held : Option α} (kept : held.any settled = true) (items : List ι) :
    collect settled field held items = held := by
  induction items with
  | nil => rfl
  | cons item items ih => rw [collect_cons, offer_of_settled kept, ih]

/-- A register ends with the first settled value, or else with the last value. -/
theorem collect_eq (held : Option α) (items : List ι) (open_ : held.any settled = false) :
    collect settled field held items =
      ((items.filterMap field).find? settled).or ((items.filterMap field).getLast?.or held) := by
  induction items generalizing held with
  | nil => simp
  | cons item items ih =>
      rw [collect_cons]
      cases offered : field item with
      | none => simp [offered, ih held open_]
      | some value =>
          rw [offer_of_unsettled open_, List.filterMap_cons_some offered]
          by_cases settles : settled value = true
          · rw [collect_of_settled (by simpa using settles), List.find?_cons_of_pos settles]
            rfl
          · rw [ih (some value) (by simpa using settles), List.find?_cons_of_neg settles,
              List.getLast?_cons]
            cases (items.filterMap field).getLast? <;> simp

/-! ## All orders -/

variable (settled field) in
/-- A value which some order of the items leaves in the register: a settled one, or any one when
none is settled. -/
def Contends (items : List ι) (value : α) : Prop :=
  (∃ item ∈ items, field item = some value) ∧
    (settled value = true ∨
      ∀ item ∈ items, ∀ other, field item = some other → settled other = false)

theorem Contends.perm {items order : List ι} {value : α} (permuted : order.Perm items)
    (contends : Contends settled field order value) : Contends settled field items value := by
  obtain ⟨⟨item, member, offered⟩, chosen⟩ := contends
  refine ⟨⟨item, permuted.mem_iff.mp member, offered⟩, chosen.imp_right fun none_settled => ?_⟩
  exact fun item member => none_settled item (permuted.mem_iff.mpr member)

theorem collect_eq_none {items : List ι} :
    collect settled field none items = none ↔ ∀ item ∈ items, field item = none := by
  rw [collect_eq none items rfl]
  simp only [Option.or_eq_none_iff, List.find?_eq_none, List.getLast?_eq_none_iff,
    List.filterMap_eq_nil_iff]
  refine ⟨fun empty => empty.2.1, fun empty => ⟨fun value member => ?_, empty, trivial⟩⟩
  obtain ⟨item, present, offered⟩ := List.mem_filterMap.mp member
  rw [empty item present] at offered
  cases offered

theorem contends_of_collect {items : List ι} {value : α}
    (held : collect settled field none items = some value) :
    Contends settled field items value := by
  rw [collect_eq none items rfl] at held
  cases first : (items.filterMap field).find? settled with
  | some found =>
      rw [first, Option.some_or, Option.some.injEq] at held
      subst held
      obtain ⟨item, member, offered⟩ := List.mem_filterMap.mp (List.mem_of_find?_eq_some first)
      exact ⟨⟨item, member, offered⟩, Or.inl (List.find?_some first)⟩
  | none =>
      rw [first, Option.none_or, Option.or_none] at held
      obtain ⟨item, member, offered⟩ := List.mem_filterMap.mp (List.mem_of_getLast? held)
      refine ⟨⟨item, member, offered⟩, Or.inr fun other present value offers => ?_⟩
      have unsettled := List.find?_eq_none.mp first value
        (List.mem_filterMap.mpr ⟨other, present, offers⟩)
      simpa using unsettled

/-- Every contender wins in some order. -/
theorem exists_order {items : List ι} {value : α} (contends : Contends settled field items value) :
    ∃ order, order.Perm items ∧ collect settled field none order = some value := by
  obtain ⟨⟨item, member, offered⟩, chosen⟩ := contends
  obtain ⟨before, after, rfl⟩ := List.append_of_mem member
  rcases chosen with settles | none_settled
  · refine ⟨item :: (before ++ after), List.perm_middle.symm, ?_⟩
    have taken : offer settled none (field item) = some value := by rw [offered]; rfl
    rw [collect_cons, taken, collect_of_settled (by simpa using settles)]
  · refine ⟨(before ++ after) ++ [item], ?_, ?_⟩
    · exact (List.perm_append_singleton item (before ++ after)).trans List.perm_middle.symm
    · rw [collect_append_singleton, offered]
      refine offer_of_unsettled ?_ value
      cases held : collect settled field none (before ++ after) with
      | none => rfl
      | some other =>
          obtain ⟨⟨source, present, offers⟩, -⟩ := contends_of_collect held
          refine none_settled source ?_ other offers
          rcases List.mem_append.mp present with first | last
          · exact List.mem_append_left _ first
          · exact List.mem_append_right _ (List.mem_cons_of_mem _ last)

/-- A property holds after all orders exactly when it holds of every contender, and of the empty
register when nothing is offered. -/
theorem forall_orders_iff {items : List ι} {holds : Option α → Prop} :
    (∀ order : List ι, order.Perm items → holds (collect settled field none order)) ↔
      (∀ value, Contends settled field items value → holds (some value)) ∧
        ((∀ item ∈ items, field item = none) → holds none) := by
  constructor
  · intro always
    refine ⟨fun value contends => ?_, fun empty => ?_⟩
    · obtain ⟨order, permuted, held⟩ := exists_order contends
      rw [← held]
      exact always order permuted
    · rw [← collect_eq_none.mpr empty]
      exact always items (List.Perm.refl items)
  · rintro ⟨contenders, empty⟩ order permuted
    cases held : collect settled field none order with
    | none =>
        refine empty fun item member => ?_
        exact collect_eq_none.mp held item (permuted.mem_iff.mpr member)
    | some value => exact contenders value ((contends_of_collect held).perm permuted)

end Register

/-! ## Changes along a sequence -/

/-- The consecutive pairs of a sequence whose values differ. -/
def changes {α : Type} [DecidableEq α] (previous : α) : List α → List (α × α)
  | [] => []
  | next :: rest =>
      if previous = next then changes next rest else (previous, next) :: changes next rest

/-- A sequence of the same value has no changes. -/
theorem changes_eq_nil {α : Type} [DecidableEq α] {previous : α} {rest : List α}
    (same : ∀ next ∈ rest, next = previous) : changes previous rest = [] := by
  induction rest with
  | nil => rfl
  | cons next rest ih =>
      obtain ⟨rfl, others⟩ := List.forall_mem_cons.mp same
      rw [changes, if_pos rfl, ih others]

theorem changes_cons {α : Type} [DecidableEq α] (previous next : α) (rest : List α) :
    changes previous (next :: rest) = changes previous [next] ++ changes next rest := by
  by_cases same : previous = next <;> simp [changes, same]

end ZeroShield.Foundation
