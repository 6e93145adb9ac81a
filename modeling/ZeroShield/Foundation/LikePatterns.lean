import Mathlib.Data.List.Infix

/-!
# Patterns with wildcards

In a pattern an underscore stands for any character and a percent sign for any text.  A backslash
takes the next character as it is, where it is known as an escape.
-/

namespace ZeroShield.Foundation

namespace LikePattern

/-- A part of a pattern. -/
inductive Token
  | char (c : Char)
  | one
  | any
  deriving DecidableEq

/-- Whether a text is matched by the parts of a pattern. -/
def isMatch : List Token → List Char → Bool
  | [], text => text.isEmpty
  | .char c :: rest, text => text.head? = some c && isMatch rest text.tail
  | .one :: rest, text => text.head?.isSome && isMatch rest text.tail
  | .any :: rest, text => text.tails.any fun behind => isMatch rest behind

section Patterns

variable (escapes : Bool)

/-- The parts of a pattern, or of what follows an escape; no pattern ends with an escape. -/
def tokens : (escaped : Bool) → List Char → Option (List Token)
  | false, [] => some []
  | true, [] => none
  | true, c :: rest => (tokens false rest).map (.char c :: ·)
  | false, c :: rest =>
      if c = '%' then (tokens false rest).map (.any :: ·)
      else if c = '_' then (tokens false rest).map (.one :: ·)
      else if escapes = true ∧ c = '\\' then tokens true rest
      else (tokens false rest).map (.char c :: ·)

/-- A character which stands for something else than itself. -/
def IsSpecial (c : Char) : Prop :=
  c = '%' ∨ c = '_' ∨ escapes = true ∧ c = '\\'

instance (c : Char) : Decidable (IsSpecial escapes c) := by
  unfold IsSpecial
  infer_instance

/-- Every character of a pattern stands for itself. -/
def IsPlain (pattern : List Char) : Prop :=
  ∀ c ∈ pattern, ¬ IsSpecial escapes c

/-! ## Plain patterns -/

theorem isMatch_any_iff {rest : List Token} {text : List Char} :
    isMatch (.any :: rest) text = true ↔ ∃ behind, behind <:+ text ∧
      isMatch rest behind = true := by
  rw [isMatch, List.any_eq_true]
  simp only [List.mem_tails]

theorem isMatch_char_cons {c : Char} {rest : List Token} {text : List Char} :
    isMatch (.char c :: rest) (c :: text) = isMatch rest text := by
  simp [isMatch]

/-- Characters match the text which starts with them and goes on with a match of what follows. -/
theorem isMatch_chars_append {pattern text : List Char} {rest : List Token} :
    isMatch (pattern.map .char ++ rest) text = true ↔
      ∃ behind, text = pattern ++ behind ∧ isMatch rest behind = true := by
  induction pattern generalizing text with
  | nil => simp
  | cons c pattern ih =>
      cases text with
      | nil => simp [isMatch]
      | cons d text =>
          rw [List.map_cons, List.cons_append, isMatch, Bool.and_eq_true, decide_eq_true_iff,
            List.head?_cons, List.tail_cons, ih, Option.some.injEq]
          constructor
          · rintro ⟨rfl, behind, rfl, matched⟩
            exact ⟨behind, rfl, matched⟩
          · rintro ⟨behind, split, matched⟩
            obtain ⟨rfl, rfl⟩ := List.cons_eq_cons.mp split
            exact ⟨rfl, behind, rfl, matched⟩

theorem isMatch_nil_iff {text : List Char} : isMatch [] text = true ↔ text = [] := by
  rw [isMatch, List.isEmpty_iff]

/-- A text is matched by its own characters only. -/
theorem isMatch_chars_iff {pattern text : List Char} :
    isMatch (pattern.map .char) text = true ↔ text = pattern := by
  have appended := @isMatch_chars_append pattern text []
  rw [List.append_nil] at appended
  rw [appended]
  constructor
  · rintro ⟨behind, rfl, last⟩
    rw [isMatch_nil_iff.mp last, List.append_nil]
  · rintro rfl
    exact ⟨[], (List.append_nil _).symm, rfl⟩

/-- Characters between two wildcards match what contains them. -/
theorem isMatch_contains_iff {pattern text : List Char} :
    isMatch (.any :: (pattern.map .char ++ [.any])) text = true ↔ pattern <:+: text := by
  have anything (text : List Char) : isMatch [.any] text = true :=
    isMatch_any_iff.mpr ⟨[], List.nil_suffix, rfl⟩
  rw [isMatch_any_iff, List.infix_iff_prefix_suffix]
  refine exists_congr fun behind => ?_
  rw [isMatch_chars_append, and_comm]
  refine and_congr_left' ?_
  constructor
  · rintro ⟨rest, rfl, -⟩
    exact List.prefix_append pattern rest
  · rintro ⟨rest, rfl⟩
    exact ⟨rest, rfl, anything rest⟩

variable {escapes}

theorem tokens_cons_of_plain {c : Char} (plain : ¬ IsSpecial escapes c) (rest : List Char) :
    tokens escapes false (c :: rest) = (tokens escapes false rest).map (.char c :: ·) := by
  obtain ⟨notAny, notOne, notEscape⟩ := by simpa only [IsSpecial, not_or] using plain
  rw [tokens, if_neg notAny, if_neg notOne, if_neg notEscape]

theorem tokens_append_of_plain {pattern : List Char} (plain : IsPlain escapes pattern)
    (rest : List Char) :
    tokens escapes false (pattern ++ rest) =
      (tokens escapes false rest).map (pattern.map .char ++ ·) := by
  induction pattern with
  | nil => simp
  | cons c pattern ih =>
      obtain ⟨first, others⟩ := List.forall_mem_cons.mp plain
      rw [List.cons_append, tokens_cons_of_plain first, ih others, Option.map_map]
      rfl

/-! ## A text which a pattern matches -/

variable (escapes) (filler : Char)

/-- The text with a filler in place of each wildcard and without the escapes; a percent sign stands
for what an escape at the end lacks. -/
def filled : (escaped : Bool) → List Char → List Char
  | false, [] => []
  | true, [] => ['%']
  | true, c :: rest => c :: filled false rest
  | false, c :: rest =>
      if c = '%' ∨ c = '_' then filler :: filled false rest
      else if escapes = true ∧ c = '\\' then filled true rest
      else c :: filled false rest

theorem isMatch_any_cons {d : Char} {rest : List Token} {text : List Char}
    (matched : isMatch rest text = true) : isMatch (.any :: rest) (d :: text) = true :=
  isMatch_any_iff.mpr ⟨text, List.suffix_cons d text, matched⟩

/-- A pattern matches the text in which it is filled. -/
theorem isMatch_filled {escaped : Bool} {pattern : List Char} {parts : List Token}
    (read : tokens escapes escaped pattern = some parts) :
    isMatch parts (filled escapes filler escaped pattern) = true := by
  induction pattern generalizing escaped parts with
  | nil =>
      cases escaped with
      | false =>
          cases read
          rfl
      | true => cases read
  | cons c rest ih =>
      cases escaped with
      | true =>
          obtain ⟨others, isRead, rfl⟩ := Option.map_eq_some_iff.mp read
          rw [filled, isMatch_char_cons]
          exact ih isRead
      | false =>
          rw [tokens] at read
          rw [filled]
          split_ifs at read with isAny isOne isEscape
          · obtain ⟨others, isRead, rfl⟩ := Option.map_eq_some_iff.mp read
            rw [if_pos (.inl isAny)]
            exact isMatch_any_cons (ih isRead)
          · obtain ⟨others, isRead, rfl⟩ := Option.map_eq_some_iff.mp read
            rw [if_pos (.inr isOne)]
            exact ih isRead
          · rw [if_neg (not_or.mpr ⟨isAny, isOne⟩), if_pos isEscape]
            exact ih read
          · obtain ⟨others, isRead, rfl⟩ := Option.map_eq_some_iff.mp read
            rw [if_neg (not_or.mpr ⟨isAny, isOne⟩), if_neg isEscape, isMatch_char_cons]
            exact ih isRead

/-- A pattern which goes on with a percent sign can be read, and matches the text in which it is
filled. -/
theorem isMatch_filled_append (escaped : Bool) (pattern : List Char) :
    ∃ parts, tokens escapes escaped (pattern ++ ['%']) = some parts ∧
      isMatch parts (filled escapes filler escaped pattern) = true := by
  induction pattern generalizing escaped with
  | nil =>
      cases escaped with
      | false => exact ⟨[.any], rfl, rfl⟩
      | true => exact ⟨[.char '%'], rfl, rfl⟩
  | cons c rest ih =>
      cases escaped with
      | true =>
          obtain ⟨parts, isRead, matched⟩ := ih false
          refine ⟨.char c :: parts, ?_, isMatch_char_cons.trans matched⟩
          rw [List.cons_append, tokens, isRead]
          rfl
      | false =>
          obtain ⟨parts, isRead, matched⟩ := ih false
          rw [List.cons_append, tokens, filled, isRead]
          by_cases isAny : c = '%'
          · rw [if_pos isAny, if_pos (.inl isAny)]
            exact ⟨_, rfl, isMatch_any_cons matched⟩
          by_cases isOne : c = '_'
          · rw [if_neg isAny, if_pos isOne, if_pos (.inr isOne)]
            exact ⟨_, rfl, matched⟩
          rw [if_neg isAny, if_neg isOne, if_neg (not_or.mpr ⟨isAny, isOne⟩)]
          by_cases isEscape : escapes = true ∧ c = '\\'
          · rw [if_pos isEscape, if_pos isEscape]
            exact ih true
          · rw [if_neg isEscape, if_neg isEscape]
            exact ⟨_, rfl, isMatch_char_cons.trans matched⟩

theorem length_filled_le (escaped : Bool) (pattern : List Char)
    (some_left : escaped = true → pattern ≠ []) :
    (filled escapes filler escaped pattern).length ≤ pattern.length := by
  induction pattern generalizing escaped with
  | nil =>
      cases escaped with
      | false => exact le_rfl
      | true => exact absurd rfl (some_left rfl)
  | cons c rest ih =>
      have shorter : (filled escapes filler false rest).length + 1 ≤ rest.length + 1 :=
        Nat.succ_le_succ (ih false nofun)
      cases escaped with
      | true => exact shorter
      | false =>
          rw [filled]
          split_ifs with isWildcard isEscape
          · exact shorter
          · cases rest with
            | nil => exact le_rfl
            | cons d rest => exact (ih true fun _ => List.cons_ne_nil d rest).trans (Nat.le_succ _)
          · exact shorter

/-- Only a plain pattern is filled with itself. -/
theorem isPlain_of_filled (other : filler ≠ '%' ∧ filler ≠ '_') {pattern : List Char}
    (same : filled escapes filler false pattern = pattern) : IsPlain escapes pattern := by
  induction pattern with
  | nil => exact nofun
  | cons c rest ih =>
      rw [filled] at same
      split_ifs at same with isWildcard isEscape
      · obtain ⟨rfl, -⟩ := List.cons_eq_cons.mp same
        exact absurd isWildcard (not_or.mpr other)
      · cases rest with
        | nil =>
            obtain ⟨-, rfl⟩ := isEscape
            cases same
        | cons d rest =>
            have shorter := length_filled_le escapes filler true (d :: rest)
              fun _ => List.cons_ne_nil d rest
            rw [same] at shorter
            exact absurd shorter (Nat.not_succ_le_self _)
      · have plain : ¬ IsSpecial escapes c := by
          rintro (isAny | isOne | escape)
          · exact isWildcard (.inl isAny)
          · exact isWildcard (.inr isOne)
          · exact isEscape escape
        exact List.forall_mem_cons.mpr ⟨plain, ih (List.cons_eq_cons.mp same).2⟩

/-- A pattern which is not plain is not contained in the text in which it is filled. -/
theorem not_infix_filled (other : filler ≠ '%' ∧ filler ≠ '_') {pattern : List Char}
    (special : ¬ IsPlain escapes pattern) :
    ¬ pattern <:+: filled escapes filler false pattern := by
  intro contained
  have short := length_filled_le escapes filler false pattern nofun
  have same := contained.eq_of_length (le_antisymm contained.length_le short)
  exact special (isPlain_of_filled escapes filler other same.symm)

theorem filled_ne_nil {pattern : List Char} (nonempty : pattern ≠ []) :
    filled escapes filler false pattern ≠ [] := by
  cases pattern with
  | nil => exact absurd rfl nonempty
  | cons c rest =>
      rw [filled]
      split_ifs
      · exact List.cons_ne_nil _ _
      · cases rest with
        | nil => exact List.cons_ne_nil _ _
        | cons d rest => exact List.cons_ne_nil _ _
      · exact List.cons_ne_nil _ _

/-! ## Folding characters -/

/-- Folding takes no other character for one which may be special. -/
def KeepsSpecial (fold : Char → Char) : Prop :=
  ∀ special ∈ ['%', '_', '\\'], ∀ c, fold c = special ↔ c = special

variable {fold : Char → Char} (keeps : KeepsSpecial fold)

include keeps

theorem isPlain_map {pattern : List Char} :
    IsPlain escapes (pattern.map fold) ↔ IsPlain escapes pattern := by
  have special (c : Char) : IsSpecial escapes (fold c) ↔ IsSpecial escapes c := by
    rw [IsSpecial, IsSpecial, keeps '%' (by decide), keeps '_' (by decide),
      keeps '\\' (by decide)]
  simp only [IsPlain, List.forall_mem_map, special]

/-- What is filled is folded like the pattern. -/
theorem map_filled (escaped : Bool) (pattern : List Char) :
    (filled escapes filler escaped pattern).map fold =
      filled escapes (fold filler) escaped (pattern.map fold) := by
  have percent : fold '%' = '%' := (keeps '%' (by decide) '%').mpr rfl
  induction pattern generalizing escaped with
  | nil =>
      cases escaped with
      | false => rfl
      | true => exact congrArg (fun c => [c]) percent
  | cons c rest ih =>
      cases escaped with
      | true => exact congrArg (fold c :: ·) (ih false)
      | false =>
          simp only [List.map_cons, filled, keeps '%' (by decide), keeps '_' (by decide),
            keeps '\\' (by decide)]
          split_ifs
          · exact congrArg (fold filler :: ·) (ih false)
          · exact ih true
          · exact congrArg (fold c :: ·) (ih false)

end Patterns

end LikePattern

end ZeroShield.Foundation
