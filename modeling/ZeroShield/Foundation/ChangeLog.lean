import Mathlib.Data.List.Basic

/-!
# Logs of changes

A log lists the old and the new value of every change of a quantity.  It is linked when every
change starts from where the one before it ended, and is a change.
-/

namespace ZeroShield.Foundation

variable {α : Type}

/-- Changes which lead from one value to another. -/
def Linked (held : α) : List (α × α) → α → Prop
  | [], final => held = final
  | (old, new) :: later, final => old = held ∧ old ≠ new ∧ Linked new later final

@[simp] theorem linked_nil {held final : α} : Linked held [] final ↔ held = final := Iff.rfl

@[simp] theorem linked_cons {held old new final : α} {later : List (α × α)} :
    Linked held ((old, new) :: later) final ↔ old = held ∧ old ≠ new ∧ Linked new later final :=
  Iff.rfl

/-- Linked logs are linked when the second starts from where the first ends. -/
theorem Linked.append {held middle final : α} {earlier later : List (α × α)}
    (first : Linked held earlier middle) (second : Linked middle later final) :
    Linked held (earlier ++ later) final := by
  induction earlier generalizing held with
  | nil =>
      rw [linked_nil] at first
      exact first ▸ second
  | cons change earlier ih =>
      obtain ⟨starts, changed, rest⟩ := first
      exact ⟨starts, changed, ih rest⟩

end ZeroShield.Foundation
