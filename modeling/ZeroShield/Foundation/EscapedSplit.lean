import Mathlib.Data.List.Basic

/-!
# Splitting at separators which are not escaped

A text whose parts may contain escaped separators is split at the others.  Splitting it at every
separator gives the same parts up to the first one with an escaped separator.
-/

namespace ZeroShield.Foundation

variable {α : Type} {separator escape : α} {text first : List α} {parts : List (List α)}

theorem intercalate_cons {others : List (List α)} (more : others ≠ []) :
    List.intercalate [separator] (first :: others) =
      first ++ separator :: List.intercalate [separator] others := by
  obtain ⟨second, others, rfl⟩ := List.exists_cons_of_ne_nil more
  rw [List.intercalate_cons_cons, List.append_assoc]
  rfl

theorem intercalate_modifyHead (some : parts ≠ []) :
    List.intercalate [separator] (parts.modifyHead (first ++ ·)) =
      first ++ List.intercalate [separator] parts := by
  obtain ⟨head, others, rfl⟩ := List.exists_cons_of_ne_nil some
  rw [List.modifyHead_cons]
  cases others with
  | nil => rw [List.intercalate_singleton, List.intercalate_singleton]
  | cons second others =>
      rw [intercalate_cons (List.cons_ne_nil _ _), intercalate_cons (List.cons_ne_nil _ _),
        List.append_assoc]

variable [DecidableEq α]

/-- Split at the separators before which no escape stands; an escape at the end escapes nothing. -/
def splitUnescaped (separator escape : α) : List α → Option (List (List α))
  | [] => some [[]]
  | [c] =>
      if c = escape then none
      else if c = separator then some [[], []]
      else some [[c]]
  | c :: d :: rest =>
      if c = escape then (splitUnescaped separator escape rest).map (·.modifyHead ([c, d] ++ ·))
      else if c = separator then (splitUnescaped separator escape (d :: rest)).map ([] :: ·)
      else (splitUnescaped separator escape (d :: rest)).map (·.modifyHead ([c] ++ ·))

theorem splitUnescaped_ne_nil (split : splitUnescaped separator escape text = some parts) :
    parts ≠ [] := by
  fun_induction splitUnescaped separator escape text generalizing parts with
  | case1 => cases split; exact List.cons_ne_nil _ _
  | case2 => cases split
  | case3 => cases split; exact List.cons_ne_nil _ _
  | case4 => cases split; exact List.cons_ne_nil _ _
  | case5 d rest ih =>
      obtain ⟨later, found, rfl⟩ := Option.map_eq_some_iff.mp split
      simpa using ih found
  | case6 d rest _ ih =>
      obtain ⟨later, found, rfl⟩ := Option.map_eq_some_iff.mp split
      exact List.cons_ne_nil _ _
  | case7 c d rest _ _ ih =>
      obtain ⟨later, found, rfl⟩ := Option.map_eq_some_iff.mp split
      simpa using ih found

/-- The parts make up the text. -/
theorem intercalate_splitUnescaped (split : splitUnescaped separator escape text = some parts) :
    List.intercalate [separator] parts = text := by
  fun_induction splitUnescaped separator escape text generalizing parts with
  | case1 => cases split; rfl
  | case2 => cases split
  | case3 => cases split; rfl
  | case4 => cases split; rfl
  | case5 d rest ih =>
      obtain ⟨later, found, rfl⟩ := Option.map_eq_some_iff.mp split
      rw [intercalate_modifyHead (splitUnescaped_ne_nil found), ih found]
      rfl
  | case6 d rest _ ih =>
      obtain ⟨later, found, rfl⟩ := Option.map_eq_some_iff.mp split
      rw [intercalate_cons (splitUnescaped_ne_nil found), ih found]
      rfl
  | case7 c d rest _ _ ih =>
      obtain ⟨later, found, rfl⟩ := Option.map_eq_some_iff.mp split
      rw [intercalate_modifyHead (splitUnescaped_ne_nil found), ih found]
      rfl

/-- No part contains the separator. -/
theorem not_mem_of_mem_splitOn {part : List α} (member : part ∈ text.splitOn separator) :
    separator ∉ part := by
  induction text generalizing part with
  | nil =>
      obtain rfl := List.mem_singleton.mp member
      exact List.not_mem_nil
  | cons c text ih =>
      rw [List.splitOn_cons_eq_if_modifyHead] at member
      split at member
      next =>
        rcases List.mem_cons.mp member with rfl | later
        · exact List.not_mem_nil
        · exact ih later
      next other =>
        cases found : text.splitOn separator with
        | nil =>
            rw [found] at member
            cases member
        | cons head others =>
            rw [found, List.modifyHead_cons] at member
            rcases List.mem_cons.mp member with rfl | later
            · have inner : separator ∉ head := ih (found ▸ List.mem_cons_self)
              intro inside
              rcases List.mem_cons.mp inside with rfl | inside
              · exact other (beq_self_eq_true _)
              · exact inner inside
            · exact ih (found ▸ List.mem_cons_of_mem _ later)

/-- A part without separators is split off. -/
theorem splitOn_cons (absent : separator ∉ first) (rest : List α) :
    (first ++ separator :: rest).splitOn separator = first :: rest.splitOn separator := by
  induction first with
  | nil => simp [List.splitOn_cons_eq_if_modifyHead]
  | cons c first ih =>
      obtain ⟨other, later⟩ := not_or.mp (mt List.mem_cons.mpr absent)
      rw [List.cons_append, List.splitOn_cons_eq_if_modifyHead, ih later,
        if_neg (by simpa using Ne.symm other)]
      rfl

/-- Splitting at every separator gives the parts before the first one with an escaped separator. -/
theorem splitOn_of_splitUnescaped (split : splitUnescaped separator escape text = some parts)
    {front others : List (List α)} (parted : parts = front ++ others)
    (absent : ∀ part ∈ front, separator ∉ part) (more : others ≠ []) :
    text.splitOn separator =
      front ++ (List.intercalate [separator] others).splitOn separator := by
  rw [← intercalate_splitUnescaped split, parted]
  clear split parted
  induction front with
  | nil => rfl
  | cons part front ih =>
      obtain ⟨own, later⟩ := List.forall_mem_cons.mp absent
      rw [List.cons_append, intercalate_cons (List.append_ne_nil_of_right_ne_nil _ more),
        splitOn_cons own, ih later]
      rfl

end ZeroShield.Foundation
