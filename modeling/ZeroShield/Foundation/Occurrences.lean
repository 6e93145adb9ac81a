import Mathlib.Algebra.GroupWithZero.Nat
import Mathlib.Data.List.Infix

/-!
# Occurrences of a pattern

A text is cut at symbols which the pattern does not have; no occurrence crosses such a cut.
-/

namespace ZeroShield.Foundation

section Occurrences

variable {α : Type} [DecidableEq α] (pattern : List α)

/-- The number of positions at which the pattern occurs. -/
def occurrences : List α → ℕ
  | [] => 0
  | c :: rest => (if pattern <+: c :: rest then 1 else 0) + occurrences rest

@[simp] theorem occurrences_nil : occurrences pattern [] = 0 := rfl

theorem occurrences_cons (c : α) (rest : List α) :
    occurrences pattern (c :: rest) =
      (if pattern <+: c :: rest then 1 else 0) + occurrences pattern rest := rfl

variable {pattern}

/-- There is no occurrence exactly if the pattern is no part of the text. -/
theorem occurrences_eq_zero_iff (nonempty : pattern ≠ []) {text : List α} :
    occurrences pattern text = 0 ↔ ¬ pattern <:+: text := by
  induction text with
  | nil => simpa using nonempty
  | cons c rest ih =>
      rw [occurrences_cons, List.infix_cons_iff, not_or, ← ih]
      by_cases starts : pattern <+: c :: rest
      · simp [starts]
      · simp [starts]

/-! ## Cuts -/

omit [DecidableEq α] in
/-- A pattern which starts before a symbol it does not have ends before it. -/
theorem prefix_append_cons_iff {c : α} (absent : c ∉ pattern) (left right : List α) :
    pattern <+: left ++ c :: right ↔ pattern <+: left := by
  constructor
  · intro starts
    have cut : left ++ [c] <+: left ++ c :: right := ⟨right, by simp⟩
    rcases List.prefix_or_prefix_of_prefix starts cut with before | beyond
    · rcases List.prefix_concat_iff.mp before with same | before
      · exact absurd (same ▸ List.mem_append_right _ List.mem_cons_self) absent
      · exact before
    · exact absurd (beyond.subset (List.mem_append_right _ List.mem_cons_self)) absent
  · exact fun starts => starts.trans (List.prefix_append _ _)

/-- No occurrence crosses a symbol which the pattern does not have. -/
theorem occurrences_append_cons {c : α} (nonempty : pattern ≠ []) (absent : c ∉ pattern)
    (left right : List α) :
    occurrences pattern (left ++ c :: right) =
      occurrences pattern left + occurrences pattern right := by
  induction left with
  | nil =>
      have starts : ¬ pattern <+: c :: right := by
        intro starts
        have empty := (prefix_append_cons_iff absent [] right).mp starts
        exact nonempty (List.prefix_nil.mp empty)
      rw [List.nil_append, occurrences_cons, if_neg starts, occurrences_nil]
  | cons d left ih =>
      have starts := prefix_append_cons_iff absent (d :: left) right
      rw [List.cons_append] at starts ⊢
      rw [occurrences_cons, occurrences_cons, ih, Nat.add_assoc]
      simp only [starts]

/-- The text is empty or starts with a symbol which the pattern does not have. -/
def Opens (pattern text : List α) : Prop :=
  ∀ c ∈ text.head?, c ∉ pattern

/-- The text is empty or ends with a symbol which the pattern does not have. -/
def Closes (pattern text : List α) : Prop :=
  ∀ c ∈ text.getLast?, c ∉ pattern

instance (text : List α) : Decidable (Opens pattern text) := by
  unfold Opens
  infer_instance

instance (text : List α) : Decidable (Closes pattern text) := by
  unfold Closes
  infer_instance

theorem occurrences_append_of_opens (nonempty : pattern ≠ []) {left right : List α}
    (opens : Opens pattern right) :
    occurrences pattern (left ++ right) =
      occurrences pattern left + occurrences pattern right := by
  cases right with
  | nil => simp
  | cons c right =>
      have absent : c ∉ pattern := opens c rfl
      have alone := occurrences_append_cons nonempty absent [] right
      rw [List.nil_append, occurrences_nil, Nat.zero_add] at alone
      rw [occurrences_append_cons nonempty absent, alone]

theorem occurrences_append_of_closes (nonempty : pattern ≠ []) {left right : List α}
    (closes : Closes pattern left) :
    occurrences pattern (left ++ right) =
      occurrences pattern left + occurrences pattern right := by
  rcases List.eq_nil_or_concat left with rfl | ⟨front, c, rfl⟩
  · simp
  · have absent : c ∉ pattern := closes c (by simp)
    have alone := occurrences_append_cons nonempty absent front []
    rw [occurrences_nil, Nat.add_zero] at alone
    rw [List.concat_eq_append, List.append_assoc, List.singleton_append,
      occurrences_append_cons nonempty absent, alone]

/-! ## Texts between cuts -/

/-- Entries which each follow a lead, and a tail. -/
def assemble (pieces : List (List α × List α)) (tail : List α) : List α :=
  pieces.foldr (fun piece rest => piece.1 ++ (piece.2 ++ rest)) tail

omit [DecidableEq α] in
theorem assemble_cons (piece : List α × List α) (pieces : List (List α × List α))
    (tail : List α) :
    assemble (piece :: pieces) tail = piece.1 ++ (piece.2 ++ assemble pieces tail) := rfl

/-- A lead which is no part of the entries around it. -/
structure Cuts (pattern lead : List α) : Prop where
  present : lead ≠ []
  opens : Opens pattern lead
  closes : Closes pattern lead

instance (lead : List α) : Decidable (Cuts pattern lead) :=
  decidable_of_iff (lead ≠ [] ∧ Opens pattern lead ∧ Closes pattern lead)
    ⟨fun ⟨present, opens, closes⟩ => ⟨present, opens, closes⟩,
      fun ⟨present, opens, closes⟩ => ⟨present, opens, closes⟩⟩

omit [DecidableEq α] in
theorem opens_assemble {pieces : List (List α × List α)} {tail : List α}
    (cuts : ∀ piece ∈ pieces, Cuts pattern piece.1) (opens : Opens pattern tail) :
    Opens pattern (assemble pieces tail) := by
  cases pieces with
  | nil => exact opens
  | cons piece pieces =>
      have first := cuts piece List.mem_cons_self
      intro c head
      rw [assemble_cons, List.head?_append_of_ne_nil _ first.present] at head
      exact first.opens c head

/-- The occurrences in a text are those in its leads, its entries and its tail. -/
theorem occurrences_assemble (nonempty : pattern ≠ []) {pieces : List (List α × List α)}
    {tail : List α} (cuts : ∀ piece ∈ pieces, Cuts pattern piece.1) (opens : Opens pattern tail) :
    occurrences pattern (assemble pieces tail) =
      (pieces.map fun piece => occurrences pattern piece.1 + occurrences pattern piece.2).sum +
        occurrences pattern tail := by
  induction pieces with
  | nil => simp [assemble]
  | cons piece pieces ih =>
      have others : ∀ other ∈ pieces, Cuts pattern other.1 :=
        fun other member => cuts other (List.mem_cons_of_mem _ member)
      rw [assemble_cons, occurrences_append_of_closes nonempty
        (cuts piece List.mem_cons_self).closes,
        occurrences_append_of_opens nonempty (opens_assemble others opens), ih others,
        List.map_cons, List.sum_cons]
      omega

/-- The occurrences in a list are those in its items. -/
theorem occurrences_intercalate (nonempty : pattern ≠ []) {separator : List α}
    (cuts : Cuts pattern separator) (none : occurrences pattern separator = 0)
    (items : List (List α)) :
    occurrences pattern (separator.intercalate items) = (items.map (occurrences pattern)).sum := by
  induction items with
  | nil => rfl
  | cons item items ih =>
      cases items with
      | nil => simp
      | cons next items =>
          have opens : Opens pattern (separator ++ separator.intercalate (next :: items)) := by
            intro c head
            rw [List.head?_append_of_ne_nil _ cuts.present] at head
            exact cuts.opens c head
          rw [List.intercalate_cons_cons, List.append_assoc,
            occurrences_append_of_opens nonempty opens,
            occurrences_append_of_closes nonempty cuts.closes, ih, none, Nat.zero_add]
          simp only [List.map_cons, List.sum_cons]

/-! ## Escapes -/

/-- Symbols of the pattern stay as they are; other symbols may be escaped by a mark which the
pattern does not have, followed by symbols with which the pattern does not start. -/
def EscapesAround (pattern : List α) (escape : α → List α) : Prop :=
  ∀ c, escape c = [c] ∨ c ∉ pattern ∧ ∃ mark tail, escape c = mark :: tail ∧ mark ∉ pattern ∧
    ∀ d ∈ tail, pattern.head? ≠ some d

variable {escape : α → List α}

omit [DecidableEq α] in
/-- The beginning of an escaped text which consists of symbols of the pattern is not escaped. -/
theorem prefix_flatMap_iff (around : EscapesAround pattern escape) {part text : List α}
    (symbols : ∀ c ∈ part, c ∈ pattern) : part <+: text.flatMap escape ↔ part <+: text := by
  induction text generalizing part with
  | nil => rfl
  | cons c text ih =>
      cases part with
      | nil => simp
      | cons d part =>
          have first := symbols d List.mem_cons_self
          rw [List.flatMap_cons]
          rcases around c with kept | ⟨absent, mark, tail, escaped, foreign, -⟩
          · rw [kept, List.singleton_append, List.cons_prefix_cons, List.cons_prefix_cons,
              ih fun e member => symbols e (List.mem_cons_of_mem _ member)]
          · rw [escaped, List.cons_append, List.cons_prefix_cons, List.cons_prefix_cons]
            constructor
            · rintro ⟨rfl, -⟩
              exact absurd first foreign
            · rintro ⟨rfl, -⟩
              exact absurd first absent

theorem occurrences_append_of_head (nonempty : pattern ≠ []) {tail rest : List α}
    (foreign : ∀ d ∈ tail, pattern.head? ≠ some d) :
    occurrences pattern (tail ++ rest) = occurrences pattern rest := by
  induction tail with
  | nil => rfl
  | cons d tail ih =>
      have starts : ¬ pattern <+: d :: (tail ++ rest) := by
        intro starts
        cases pattern with
        | nil => exact nonempty rfl
        | cons p pattern =>
            obtain ⟨rfl, -⟩ := List.cons_prefix_cons.mp starts
            exact foreign p List.mem_cons_self rfl
      rw [List.cons_append, occurrences_cons, if_neg starts, Nat.zero_add,
        ih fun e member => foreign e (List.mem_cons_of_mem _ member)]

/-- Escaping neither makes nor breaks an occurrence. -/
theorem occurrences_flatMap (nonempty : pattern ≠ []) (around : EscapesAround pattern escape)
    (text : List α) :
    occurrences pattern (text.flatMap escape) = occurrences pattern text := by
  induction text with
  | nil => rfl
  | cons c text ih =>
      have starts : pattern <+: (c :: text).flatMap escape ↔ pattern <+: c :: text :=
        prefix_flatMap_iff around fun _ member => member
      rw [List.flatMap_cons] at starts ⊢
      rcases around c with kept | ⟨absent, mark, tail, escaped, foreign, others⟩
      · rw [kept, List.singleton_append] at starts ⊢
        rw [occurrences_cons, occurrences_cons, ih]
        simp only [starts]
      · rw [escaped, List.cons_append, ← List.nil_append (mark :: _),
          occurrences_append_cons nonempty foreign, occurrences_append_of_head nonempty others, ih,
          ← List.nil_append (c :: text), occurrences_append_cons nonempty absent]

end Occurrences

end ZeroShield.Foundation
