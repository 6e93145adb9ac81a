import Mathlib.Data.List.Basic
import Mathlib.Tactic.Common

/-!
# Replacing symbols by words

Replacing the symbols of a table one after another, each in the whole text, is a homomorphism of
texts.  It replaces every symbol by its own entry when no entry holds a symbol replaced later.
-/

namespace ZeroShield.Foundation

variable {α : Type} [DecidableEq α] {symbol : α} {replacement text : List α}
  {table : List (α × List α)}

/-- Replace every occurrence of a symbol by a word. -/
def replaceSymbol (symbol : α) (replacement text : List α) : List α :=
  text.flatMap fun c => if c = symbol then replacement else [c]

/-- Replace the symbols of a table one after another, each in the whole text. -/
def replaceInTurn (table : List (α × List α)) (text : List α) : List α :=
  table.foldl (fun text entry => replaceSymbol entry.1 entry.2 text) text

/-- The word for a symbol: its entry in the table, or the symbol itself. -/
def wordFor (table : List (α × List α)) (symbol : α) : List α :=
  (table.lookup symbol).getD [symbol]

/-- No entry of the table holds a symbol which a later entry replaces. -/
def Settled (table : List (α × List α)) : Prop :=
  table.Pairwise fun earlier later => later.1 ∉ earlier.2

instance : Decidable (Settled table) :=
  inferInstanceAs (Decidable (List.Pairwise _ table))

/-! ## Homomorphisms -/

@[simp]
theorem replaceSymbol_append (left right : List α) :
    replaceSymbol symbol replacement (left ++ right) =
      replaceSymbol symbol replacement left ++ replaceSymbol symbol replacement right :=
  List.flatMap_append

theorem replaceInTurn_cons (entry : α × List α) :
    replaceInTurn (entry :: table) text =
      replaceInTurn table (replaceSymbol entry.1 entry.2 text) :=
  rfl

@[simp]
theorem replaceInTurn_nil : replaceInTurn table [] = [] := by
  induction table with
  | nil => rfl
  | cons entry table ih => exact ih

@[simp]
theorem replaceInTurn_append (left right : List α) :
    replaceInTurn table (left ++ right) =
      replaceInTurn table left ++ replaceInTurn table right := by
  induction table generalizing left right with
  | nil => rfl
  | cons entry table ih =>
      simp only [replaceInTurn_cons, replaceSymbol_append]
      exact ih _ _

/-- Symbols are replaced separately. -/
theorem replaceInTurn_eq_flatMap :
    replaceInTurn table text = text.flatMap fun c => replaceInTurn table [c] := by
  induction text with
  | nil => exact replaceInTurn_nil
  | cons c text ih =>
      rw [← List.singleton_append, replaceInTurn_append, ih]
      rfl

/-! ## Words for symbols -/

theorem replaceSymbol_eq_self (absent : symbol ∉ text) :
    replaceSymbol symbol replacement text = text := by
  induction text with
  | nil => rfl
  | cons c text ih =>
      obtain ⟨different, later⟩ := List.ne_and_not_mem_of_not_mem_cons absent
      have kept := ih later
      unfold replaceSymbol at kept ⊢
      rw [List.flatMap_cons, kept, if_neg (Ne.symm different)]
      rfl

/-- A text without symbols of the table stays as it is. -/
theorem replaceInTurn_eq_self (absent : ∀ entry ∈ table, entry.1 ∉ text) :
    replaceInTurn table text = text := by
  induction table with
  | nil => rfl
  | cons entry table ih =>
      have kept : replaceSymbol entry.1 entry.2 text = text :=
        replaceSymbol_eq_self (absent entry List.mem_cons_self)
      rw [replaceInTurn_cons, kept]
      exact ih fun later member => absent later (List.mem_cons_of_mem _ member)

theorem replaceInTurn_singleton (settled : Settled table) (c : α) :
    replaceInTurn table [c] = wordFor table c := by
  induction table with
  | nil => rfl
  | cons entry table ih =>
      obtain ⟨apart, settledLater⟩ := List.pairwise_cons.mp settled
      have first : replaceSymbol entry.1 entry.2 [c] = if c = entry.1 then entry.2 else [c] :=
        List.flatMap_singleton _ _
      rw [replaceInTurn_cons, first, wordFor, List.lookup_cons]
      by_cases here : c = entry.1
      · rw [if_pos here, beq_iff_eq.mpr here]
        exact replaceInTurn_eq_self apart
      · rw [if_neg here, beq_eq_false_iff_ne.mpr here]
        exact ih settledLater

end ZeroShield.Foundation
