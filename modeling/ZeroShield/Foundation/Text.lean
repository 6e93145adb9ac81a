import Mathlib.Data.List.Basic
import Mathlib.Data.Rat.Floor

/-!
# Text

Character-level matchers for anchored patterns, and the fact that a numbered name determines both
its stem and its number.
-/

namespace ZeroShield.Foundation

/-- The code points of the digit zero in every decimal block of Unicode. -/
def decimalZeros : List ℕ :=
  [0x30, 0x660, 0x6f0, 0x7c0, 0x966, 0x9e6, 0xa66, 0xae6, 0xb66, 0xbe6, 0xc66, 0xce6, 0xd66, 0xde6,
    0xe50, 0xed0, 0xf20, 0x1040, 0x1090, 0x17e0, 0x1810, 0x1946, 0x19d0, 0x1a80, 0x1a90, 0x1b50,
    0x1bb0, 0x1c40, 0x1c50, 0xa620, 0xa8d0, 0xa900, 0xa9d0, 0xa9f0, 0xaa50, 0xabf0, 0xff10,
    0x104a0, 0x10d30, 0x11066, 0x110f0, 0x11136, 0x111d0, 0x112f0, 0x11450, 0x114d0, 0x11650,
    0x116c0, 0x11730, 0x118e0, 0x11950, 0x11c50, 0x11d50, 0x11da0, 0x16a60, 0x16ac0, 0x16b50,
    0x1d7ce, 0x1d7d8, 0x1d7e2, 0x1d7ec, 0x1d7f6, 0x1e140, 0x1e2f0, 0x1e950, 0x1fbf0]

/-- A statement about the characters of a text is decided for one after another. -/
instance (priority := 2000) decidableForallMemText {text : List Char} {p : Char → Prop}
    [DecidablePred p] : Decidable (∀ c ∈ text, p c) :=
  List.decidableBAll p text

/-- The pattern class `\d`: a decimal digit of any script. -/
def isDecimalDigit (c : Char) : Bool :=
  decimalZeros.any fun start => decide (start ≤ c.toNat ∧ c.toNat < start + 10)

/-- The pattern class `[0-9a-f]`. -/
def isLowerHexDigit (c : Char) : Bool :=
  c.isDigit || decide ('a' ≤ c ∧ c ≤ 'f')

/-- The text after a fixed prefix, if the text starts with it. -/
def afterPrefix : List Char → List Char → Option (List Char)
  | [], text => some text
  | _ :: _, [] => none
  | c :: expected, d :: text => if c = d then afterPrefix expected text else none

/-- Whether a text is a run of the class whose length is admitted. -/
def isRun (class_ : Char → Bool) (admitted : ℕ → Bool) (text : List Char) : Bool :=
  admitted text.length && text.all class_

/-- Whether a text is a fixed prefix followed by an admitted run of the class. -/
def isPrefixedRun (expected : String) (class_ : Char → Bool) (admitted : ℕ → Bool)
    (text : String) : Bool :=
  match afterPrefix expected.toList text.toList with
  | some rest => isRun class_ admitted rest
  | none => false

/-! ## Case and white space -/

/-- The characters which are removed from both ends of a text. -/
def isWhiteSpace (c : Char) : Bool :=
  let point := c.toNat
  (0x9 ≤ point && point ≤ 0xd) || (0x1c ≤ point && point ≤ 0x20) || point = 0x85 ||
    point = 0xa0 || point = 0x1680 || (0x2000 ≤ point && point ≤ 0x200a) || point = 0x2028 ||
    point = 0x2029 || point = 0x202f || point = 0x205f || point = 0x3000

/-- A text without white space at its ends. -/
def strip (text : String) : String :=
  String.ofList ((text.toList.dropWhile isWhiteSpace).reverse.dropWhile isWhiteSpace).reverse

/-- A text with its ASCII letters in lower case. -/
def lower (text : String) : String :=
  String.ofList (text.toList.map Char.toLower)

/-- A text with its ASCII letters in upper case. -/
def upper (text : String) : String :=
  String.ofList (text.toList.map Char.toUpper)

/-! ## Numbered names -/

/-- A stem and a number joined by a separating character. -/
def numbered (stem : String) (separator : Char) (number : ℕ) : String :=
  stem ++ String.ofList [separator] ++ toString number

theorem digit_ne_of_mem_toString {c separator : Char} {number : ℕ}
    (other : separator.isDigit = false)
    (member : c ∈ Nat.toDigits 10 number) : c ≠ separator := by
  rintro rfl
  have digit := Nat.isDigit_of_mem_toDigits (by decide) (by decide) member
  simp [digit] at other

/-- A separator which is no digit makes numbered names injective in stem and number. -/
theorem numbered_inj {left right : String} {separator : Char} {m n : ℕ}
    (other : separator.isDigit = false) :
    numbered left separator m = numbered right separator n ↔ left = right ∧ m = n := by
  refine ⟨fun equal => ?_, fun ⟨stems, numbers⟩ => by rw [stems, numbers]⟩
  have lists : left.toList ++ separator :: Nat.toDigits 10 m =
      right.toList ++ separator :: Nat.toDigits 10 n := by
    simpa [numbered, Nat.toString_eq_ofList_toDigits] using congrArg String.toList equal
  have reversed := congrArg List.reverse lists
  simp only [List.reverse_append, List.reverse_cons, List.append_assoc, List.cons_append,
    List.nil_append] at reversed
  have clean : ∀ number : ℕ, separator ∉ (Nat.toDigits 10 number).reverse := fun number member =>
    digit_ne_of_mem_toString other (List.mem_reverse.mp member) rfl
  obtain ⟨digits, stems⟩ : (Nat.toDigits 10 m).reverse = (Nat.toDigits 10 n).reverse ∧
      left.toList.reverse = right.toList.reverse := by
    have split := List.append_eq_append_iff.mp reversed
    rcases split with ⟨middle, shorter, longer⟩ | ⟨middle, shorter, longer⟩
    all_goals
      cases middle with
      | nil => simp_all
      | cons c middle =>
          obtain ⟨rfl, -⟩ := List.cons_eq_cons.mp longer
          exact absurd (by rw [shorter]; simp) (clean _)
  refine ⟨String.toList_inj.mp (List.reverse_injective stems), ?_⟩
  calc m = Nat.ofDigitChars 10 (Nat.toDigits 10 m) 0 := Nat.ofDigitChars_ten_toDigits.symm
    _ = Nat.ofDigitChars 10 (Nat.toDigits 10 n) 0 := by rw [List.reverse_injective digits]
    _ = n := Nat.ofDigitChars_ten_toDigits

/-! ## Fixed-point text -/

/-- The nearest integer; a number halfway between two goes to the even one. -/
def roundHalfEven (value : ℚ) : ℤ :=
  let low := ⌊value⌋
  let excess := value - low
  if excess < 1 / 2 ∨ (excess = 1 / 2 ∧ low % 2 = 0) then low else low + 1

/-- The decimal digits of a number, filled up with zeros in front. -/
def padded (width number : ℕ) : String :=
  let digits := Nat.toDigits 10 number
  String.ofList (List.replicate (width - digits.length) '0' ++ digits)

/-- A number written with a fixed number of digits after the point. -/
def fixed (digits : ℕ) (value : ℚ) : String :=
  let scaled := (roundHalfEven (|value| * 10 ^ digits)).toNat
  (if value < 0 then "-" else "") ++ toString (scaled / 10 ^ digits) ++ "." ++
    padded digits (scaled % 10 ^ digits)

/-! ## Hexadecimal text -/

/-- A number written with lower-case hexadecimal digits. -/
def hexText (number : ℕ) : String :=
  String.ofList (Nat.toDigits 16 number)

private theorem digitChar_inj : ∀ m < 16, ∀ n < 16, m.digitChar = n.digitChar → m = n := by
  decide

private theorem toDigits_inj {m n : ℕ} (equal : Nat.toDigits 16 m = Nat.toDigits 16 n) : m = n := by
  induction m using Nat.strongRecOn generalizing n with
  | ind m ih =>
      have last (number : ℕ) : (Nat.toDigits 16 number).getLast? =
        some (number % 16).digitChar := by
        rw [Nat.toDigits_eq_if (by decide)]
        split
        case isTrue small => simp [Nat.mod_eq_of_lt small]
        case isFalse => simp
      have front (number : ℕ) : (Nat.toDigits 16 number).dropLast =
          if number < 16 then [] else Nat.toDigits 16 (number / 16) := by
        rw [Nat.toDigits_eq_if (by decide)]
        split <;> simp
      have digits : m % 16 = n % 16 := by
        refine digitChar_inj _ (Nat.mod_lt _ (by decide)) _ (Nat.mod_lt _ (by decide)) ?_
        simpa [last] using congrArg List.getLast? equal
      have fronts := congrArg List.dropLast equal
      rw [front, front] at fronts
      split at fronts <;> split at fronts
      · omega
      · exact absurd fronts.symm Nat.toDigits_ne_nil
      · exact absurd fronts Nat.toDigits_ne_nil
      · have quotients := ih (m / 16) (by omega) fronts
        omega

theorem hexText_inj {m n : ℕ} : hexText m = hexText n ↔ m = n := by
  refine ⟨fun equal => toDigits_inj ?_, fun equal => by rw [equal]⟩
  simpa [hexText] using congrArg String.toList equal

/-- A common suffix does not identify different names. -/
theorem append_suffix_inj {left right suffix : String} :
    left ++ suffix = right ++ suffix ↔ left = right := by
  refine ⟨fun equal => ?_, fun equal => by rw [equal]⟩
  have lists := congrArg String.toList equal
  simp only [String.toList_append, List.append_cancel_right_eq] at lists
  exact String.toList_inj.mp lists

/-- A common prefix does not identify different names. -/
theorem prefix_append_inj {stem left right : String} :
    stem ++ left = stem ++ right ↔ left = right := by
  refine ⟨fun equal => ?_, fun equal => by rw [equal]⟩
  have lists := congrArg String.toList equal
  simp only [String.toList_append, List.append_cancel_left_eq] at lists
  exact String.toList_inj.mp lists

end ZeroShield.Foundation
