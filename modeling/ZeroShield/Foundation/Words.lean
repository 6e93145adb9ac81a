import Mathlib.Data.List.Infix

/-!
# Words of a text

A part of a text is a word when no symbol of a word stands beside it.
-/

namespace ZeroShield.Foundation

section Words

variable {α : Type} (isPart : α → Bool)

/-- No symbol of a word stands at the place, if any does. -/
def Delimits (symbol : Option α) : Prop :=
  ∀ c ∈ symbol, isPart c = false

instance (symbol : Option α) : Decidable (Delimits isPart symbol) := by
  unfold Delimits
  infer_instance

variable (term text : List α)

/-- The term occurs with no symbol of a word before or behind it. -/
def OccursAsWord : Prop :=
  ∃ left right, text = left ++ term ++ right ∧
    Delimits isPart left.getLast? ∧ Delimits isPart right.head?

/-- The term occurs, but every time as a part of something longer. -/
def OnlyInside : Prop :=
  term <:+: text ∧ ∀ left right, text = left ++ term ++ right →
    ¬ (Delimits isPart left.getLast? ∧ Delimits isPart right.head?)

variable {isPart term text}

theorem OccursAsWord.isInfix (occurs : OccursAsWord isPart term text) : term <:+: text := by
  obtain ⟨left, right, rfl, -, -⟩ := occurs
  exact List.infix_append left term right

/-- What occurs is a word or stands only inside longer ones. -/
theorem infix_iff : term <:+: text ↔ OccursAsWord isPart term text ∨
    OnlyInside isPart term text := by
  constructor
  · intro occurs
    by_cases word : OccursAsWord isPart term text
    · exact .inl word
    · refine .inr ⟨occurs, fun left right split delimited => word ?_⟩
      exact ⟨left, right, split, delimited⟩
  · rintro (word | inside)
    · exact word.isInfix
    · exact inside.1

theorem OnlyInside.not_occursAsWord (inside : OnlyInside isPart term text) :
    ¬ OccursAsWord isPart term text := by
  rintro ⟨left, right, split, delimited⟩
  exact inside.2 left right split delimited

/-- A word starts at one of the places of the text. -/
theorem occursAsWord_iff :
    OccursAsWord isPart term text ↔
      ∃ start ∈ List.range (text.length + 1), term <+: text.drop start ∧
        Delimits isPart (text.take start).getLast? ∧
        Delimits isPart (text.drop (start + term.length)).head? := by
  constructor
  · rintro ⟨left, right, rfl, before, behind⟩
    refine ⟨left.length, ?_, ?_, ?_, ?_⟩
    · rw [List.mem_range, List.length_append, List.length_append]
      omega
    · rw [List.append_assoc, List.drop_left]
      exact List.prefix_append term right
    · rwa [List.append_assoc, List.take_left]
    · rwa [← List.length_append, List.drop_left]
  · rintro ⟨start, -, ⟨rest, starts⟩, before, behind⟩
    rw [← List.drop_drop, ← starts, List.drop_left] at behind
    refine ⟨text.take start, rest, ?_, before, behind⟩
    rw [List.append_assoc, starts, List.take_append_drop]

instance [DecidableEq α] : Decidable (OccursAsWord isPart term text) :=
  decidable_of_iff _ occursAsWord_iff.symm

end Words

end ZeroShield.Foundation
