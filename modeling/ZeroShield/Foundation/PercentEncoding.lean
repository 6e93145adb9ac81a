import Mathlib.Data.List.Basic
import Mathlib.Tactic.Common

/-!
# Percent-encoding

A text is a sequence of pieces: characters, and escapes of single octets by two hexadecimal digits.
Splitting the decoded octets at a separator is splitting the pieces where one denotes it.
-/

namespace ZeroShield.Foundation

def hexDigits : List Char :=
  "0123456789abcdefABCDEF".toList

/-- The value of a hexadecimal digit. -/
def hexValue (digit : Char) : ℕ :=
  let index := hexDigits.idxOf digit
  if index < 16 then index else index - 6

/-- A character which stands for itself, or the escape of an octet. -/
inductive Piece
  | character (c : Char)
  | escape (high low : Char)
  deriving DecidableEq

namespace Piece

/-- The piece as it is written. -/
def text : Piece → List Char
  | character c => [c]
  | escape high low => ['%', high, low]

/-- The octets which the piece denotes. -/
def octets : Piece → List UInt8
  | character c => String.utf8EncodeChar c
  | escape high low => [UInt8.ofNat (16 * hexValue high + hexValue low)]

theorem octets_ne_nil (piece : Piece) : piece.octets ≠ [] := by
  cases piece with
  | character c => exact String.utf8EncodeChar_ne_nil
  | escape high low => exact List.cons_ne_nil _ _

/-- Only a single octet is ASCII. -/
theorem octets_eq_of_mem {piece : Piece} {octet : UInt8} (member : octet ∈ piece.octets)
    (ascii : octet < 0x80) : piece.octets = [octet] := by
  cases piece with
  | escape high low =>
      obtain rfl := List.mem_singleton.mp member
      rfl
  | character c =>
      have outside : ∀ number, 128 ≤ number → number < 256 → octet ≠ UInt8.ofNat number := by
        rintro number large small rfl
        have value : (UInt8.ofNat number).toNat = number := UInt8.toNat_ofNat_of_lt' small
        have below : (UInt8.ofNat number).toNat < 128 := ascii
        omega
      unfold octets String.utf8EncodeChar at member ⊢
      dsimp only at member ⊢
      split at member
      next small =>
        obtain rfl := List.mem_singleton.mp member
        rw [if_pos small]
      next =>
        split at member
        next =>
          simp only [List.mem_cons, List.not_mem_nil, or_false] at member
          rcases member with same | same
          all_goals exact absurd same (outside _ (by omega) (by omega))
        next =>
          split at member
          next =>
            simp only [List.mem_cons, List.not_mem_nil, or_false] at member
            rcases member with same | same | same
            all_goals exact absurd same (outside _ (by omega) (by omega))
          next =>
            simp only [List.mem_cons, List.not_mem_nil, or_false] at member
            rcases member with same | same | same | same
            all_goals exact absurd same (outside _ (by omega) (by omega))

/-- The character which denotes an ASCII octet. -/
theorem eq_of_character {c : Char} {octet : UInt8} (denotes : (character c).octets = [octet])
    (ascii : octet < 0x80) : c = Char.ofNat octet.toNat := by
  have value : c.val.toNat ≤ 0x7f ∧ octet = UInt8.ofNat c.val.toNat := by
    unfold octets String.utf8EncodeChar at denotes
    dsimp only at denotes
    split at denotes
    next small => exact ⟨small, (List.cons.inj denotes).1.symm⟩
    next =>
      split at denotes
      · cases (List.cons.inj denotes).2
      · split at denotes
        all_goals cases (List.cons.inj denotes).2
  obtain ⟨small, rfl⟩ := value
  rw [UInt8.toNat_ofNat_of_lt' (Nat.lt_of_le_of_lt small (by decide))]
  exact (Char.ofNat_toNat c).symm

end Piece

/-- The pieces of a text; a percent sign without two digits stands for itself. -/
def pieces : List Char → List Piece
  | '%' :: high :: low :: rest =>
      if high ∈ hexDigits ∧ low ∈ hexDigits then .escape high low :: pieces rest
      else .character '%' :: pieces (high :: low :: rest)
  | c :: rest => .character c :: pieces rest
  | [] => []

/-- One round of decoding. -/
def percentDecode (text : List Char) : List UInt8 :=
  (pieces text).flatMap Piece.octets

example : percentDecode "%2e.%2F%zz".toList = [0x2e, 0x2e, 0x2f, 0x25, 0x7a, 0x7a] := by decide

/-- The pieces are all of the text. -/
theorem flatMap_text_pieces (text : List Char) : (pieces text).flatMap Piece.text = text := by
  fun_induction pieces text with
  | case1 high low rest digits ih => simp [Piece.text, ih]
  | case2 high low rest other ih => rw [List.flatMap_cons, ih]; rfl
  | case3 c rest other ih => rw [List.flatMap_cons, ih]; rfl
  | case4 => rfl

/-- Adjacent pieces are adjacent in the text. -/
theorem infix_text {text : List Char} {part : List Piece} (inside : part <:+: pieces text) :
    part.flatMap Piece.text <:+: text := by
  obtain ⟨before, after, same⟩ := inside
  refine ⟨before.flatMap Piece.text, after.flatMap Piece.text, ?_⟩
  rw [← List.flatMap_append, ← List.flatMap_append, same, flatMap_text_pieces]

theorem infix_of_mem {α : Type} {item : α} {items : List α} (member : item ∈ items) :
    [item] <:+: items := by
  obtain ⟨before, after, rfl⟩ := List.append_of_mem member
  exact ⟨before, after, by simp⟩

theorem digits_of_mem_pieces {text : List Char} {high low : Char}
    (member : .escape high low ∈ pieces text) : high ∈ hexDigits ∧ low ∈ hexDigits := by
  fun_induction pieces text with
  | case1 first second rest digits ih =>
      rcases List.mem_cons.mp member with same | later
      · obtain ⟨rfl, rfl⟩ := Piece.escape.inj same
        exact digits
      · exact ih later
  | case2 first second rest other ih => exact ih ((List.mem_cons.mp member).resolve_left nofun)
  | case3 c rest other ih => exact ih ((List.mem_cons.mp member).resolve_left nofun)
  | case4 => cases member

/-- Pieces which denote ASCII octets denote one each. -/
theorem flatMap_octets_eq {written : List Piece} {octets : List UInt8}
    (ascii : ∀ octet ∈ octets, octet < 0x80) :
    written.flatMap Piece.octets = octets ↔ written.map Piece.octets = octets.map ([·]) := by
  constructor
  · intro decoded
    induction written generalizing octets with
    | nil =>
        obtain rfl := decoded
        rfl
    | cons piece written ih =>
        rw [List.flatMap_cons] at decoded
        obtain ⟨octet, rest, nonempty⟩ := List.exists_cons_of_ne_nil piece.octets_ne_nil
        have first : octet < 0x80 := ascii octet (by rw [← decoded, nonempty]; simp)
        have single := Piece.octets_eq_of_mem (by rw [nonempty]; exact List.mem_cons_self) first
        rw [single, List.singleton_append] at decoded
        subst decoded
        rw [List.map_cons, List.map_cons, single, ih (fun other member =>
          ascii other (List.mem_cons_of_mem _ member)) rfl]
  · intro denoted
    rw [List.flatMap_def, denoted, ← List.flatMap_def, List.flatMap_singleton']

/-! ## Segments -/

section Segments

variable (separator : UInt8)

/-- The parts of a sequence of pieces between those which denote a separator. -/
def segments (written : List Piece) : List (List Piece) :=
  written.splitOnP fun piece => piece.octets = [separator]

variable {separator}

/-- Octets without the separator belong to the first part. -/
theorem splitOn_append {octets rest : List UInt8} (absent : separator ∉ octets) :
    (octets ++ rest).splitOn separator = (rest.splitOn separator).modifyHead (octets ++ ·) := by
  induction octets with
  | nil =>
      rw [List.nil_append]
      cases rest.splitOn separator <;> rfl
  | cons octet octets ih =>
      obtain ⟨other, later⟩ := not_or.mp (mt List.mem_cons.mpr absent)
      rw [List.cons_append, List.splitOn_cons_eq_if_modifyHead, ih later,
        if_neg (by simpa using Ne.symm other)]
      cases rest.splitOn separator <;> rfl

/-- The parts of the decoded octets are the decoded parts. -/
theorem splitOn_flatMap_octets (ascii : separator < 0x80) (written : List Piece) :
    (written.flatMap Piece.octets).splitOn separator =
      (segments separator written).map (·.flatMap Piece.octets) := by
  rw [segments]
  induction written with
  | nil => rfl
  | cons piece written ih =>
      rw [List.flatMap_cons, List.splitOnP_cons_eq_if_modifyHead]
      by_cases separates : piece.octets = [separator]
      · rw [separates, List.singleton_append, List.splitOn_cons_eq_if_modifyHead,
          if_pos (beq_self_eq_true separator), if_pos (by simp), ih]
        rfl
      · have absent : separator ∉ piece.octets := fun member =>
          separates (Piece.octets_eq_of_mem member ascii)
        rw [splitOn_append absent, ih, if_neg (by simp [separates])]
        cases written.splitOnP fun piece => piece.octets = [separator] <;> rfl

/-- The first part is what the text starts with. -/
theorem prefix_of_splitOnP {α : Type} {p : α → Bool} {items first : List α} {others : List (List α)}
    (parts : items.splitOnP p = first :: others) : first <+: items := by
  induction items generalizing first others with
  | nil =>
      obtain ⟨rfl, -⟩ := List.cons.inj parts
      exact List.nil_prefix
  | cons item items ih =>
      rw [List.splitOnP_cons_eq_if_modifyHead] at parts
      split at parts
      · obtain ⟨rfl, -⟩ := List.cons.inj parts
        exact List.nil_prefix
      · cases later : items.splitOnP p with
        | nil => exact absurd later (List.splitOnP_ne_nil p items)
        | cons head tail =>
            rw [later, List.modifyHead_cons] at parts
            obtain ⟨rfl, -⟩ := List.cons.inj parts
            exact List.prefix_cons_inj _ |>.mpr (ih later)

/-- Every part occurs in the text. -/
theorem infix_of_mem_splitOnP {α : Type} {p : α → Bool} {items part : List α}
    (member : part ∈ items.splitOnP p) : part <:+: items := by
  induction items generalizing part with
  | nil =>
      obtain rfl := List.mem_singleton.mp member
      exact List.infix_rfl
  | cons item items ih =>
      cases parts : (item :: items).splitOnP p with
      | nil => exact absurd parts (List.splitOnP_ne_nil p _)
      | cons first others =>
          rw [parts] at member
          rcases List.mem_cons.mp member with rfl | later
          · exact (prefix_of_splitOnP parts).isInfix
          · rw [List.splitOnP_cons_eq_if_modifyHead] at parts
            have tail : part ∈ items.splitOnP p := by
              split at parts
              · obtain ⟨-, rfl⟩ := List.cons.inj parts
                exact later
              · cases found : items.splitOnP p with
                | nil => exact absurd found (List.splitOnP_ne_nil p items)
                | cons head rest =>
                    rw [found, List.modifyHead_cons] at parts
                    obtain ⟨-, rfl⟩ := List.cons.inj parts
                    exact List.mem_cons_of_mem _ later
            exact (ih tail).trans (List.suffix_cons _ _).isInfix

end Segments

end ZeroShield.Foundation
