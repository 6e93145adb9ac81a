import Mathlib.Algebra.Order.Field.Rat
import Mathlib.Data.List.TakeWhile
import Mathlib.Tactic.Positivity
import ZeroShield.Foundation.Doubles
import ZeroShield.Foundation.Text

/-!
# Numbers in texts

How a text is read as a number, and that the digits of a decimal are read as its value.
-/

namespace ZeroShield.Foundation

/-- A number with a fraction, which need not be finite. -/
inductive Number
  | finite (value : ℚ)
  | infinity (negative : Bool)
  | nan
  deriving DecidableEq

namespace Number

/-- Whether a number is at most another one; what is not a number compares to nothing. -/
def le : Number → Number → Bool
  | finite left, finite right => left ≤ right
  | finite _, infinity negative => !negative
  | infinity negative, finite _ => negative
  | infinity left, infinity right => left || !right
  | _, _ => false

instance : LE Number := ⟨fun left right => left.le right = true⟩

instance (left right : Number) : Decidable (left ≤ right) :=
  inferInstanceAs (Decidable (_ = true))

instance : Zero Number := ⟨finite 0⟩

/-- Whether a number is neither infinite nor no number at all. -/
def isFinite : Number → Bool
  | finite _ => true
  | _ => false

/-- The text of a number; `floatText` writes the finite ones. -/
def text (floatText : ℚ → String) : Number → String
  | finite value => floatText value
  | infinity false => "Infinity"
  | infinity true => "-Infinity"
  | nan => "NaN"

end Number

/-- The least whole number which is too large for a number with a fraction. -/
def floatBound : ℕ := 2 ^ 1024 - 2 ^ 970

/-- A digit of any script as a digit between `0` and `9`. -/
def asciiDigit (c : Char) : Char :=
  match decimalZeros.find? fun start => decide (start ≤ c.toNat ∧ c.toNat < start + 10) with
  | none => c
  | some start => (c.toNat - start).digitChar

/-- Drop the underscores of a text, each of which stands between two digits. -/
def dropUnderscores (previous : Char) : List Char → Option (List Char)
  | [] => if previous = '_' then none else some []
  | c :: text =>
      if c = '_' then if previous.isDigit then dropUnderscores c text else none
      else if previous = '_' ∧ ¬c.isDigit then none
      else (dropUnderscores c text).map (c :: ·)

/-- The sign of a text and what follows it. -/
def readSign : List Char → ℤ × List Char
  | '-' :: text => (-1, text)
  | '+' :: text => (1, text)
  | text => (1, text)

/-- The number at the start of a text and what follows it. -/
def readNumber (text : List Char) : Option (ℚ × List Char) :=
  let whole := text.takeWhile Char.isDigit
  let (fraction, rest) :=
    match text.dropWhile Char.isDigit with
    | '.' :: rest => (rest.takeWhile Char.isDigit, rest.dropWhile Char.isDigit)
    | rest => ([], rest)
  if whole ++ fraction = [] then none
  else some (Nat.ofDigitChars 10 (whole ++ fraction) 0 / 10 ^ fraction.length, rest)

/-- The power of ten which a text states. -/
def readExponent : List Char → Option ℤ
  | [] => some 0
  | c :: text =>
      let (sign, digits) := readSign text
      if (c = 'e' ∨ c = 'E') ∧ digits ≠ [] ∧ digits.all Char.isDigit then
        some (sign * Nat.ofDigitChars 10 digits 0)
      else none

/-- The number which a text states. -/
def statedNumber (text : String) : Option Number := do
  let text ← dropUnderscores ' ' ((strip text).toList.map asciiDigit)
  let (sign, unsigned) := readSign text
  let name := lower (String.ofList unsigned)
  if name = "nan" then return .nan
  else if name = "inf" ∨ name = "infinity" then return .infinity (sign < 0)
  else
    let (number, rest) ← readNumber unsigned
    let exponent ← readExponent rest
    return .finite (sign * number * 10 ^ exponent)

/-- A number as a double. -/
def Number.rounded : Number → Number
  | finite value =>
      if floatBound ≤ |value| then infinity (value < 0) else finite (nearestDouble value)
  | other => other

/-- Whether a number is within the range of doubles. -/
def Number.InRange : Number → Prop
  | finite value => |value| < floatBound
  | _ => True

/-- A number scaled by a positive factor. -/
def Number.times (factor : ℚ) : Number → Number
  | finite value => finite (value * factor)
  | other => other

/-- Whether a number is a double. -/
def Number.Held : Number → Prop
  | finite value => IsDouble value ∧ |value| < floatBound
  | _ => True

/-- A number held as a double. -/
structure Double where
  number : Number
  held : number.Held

/-- A double scaled by a power of two is a double unless it is out of range. -/
theorem Double.rounded_times_iff (double : Double) (places : ℕ) :
    (double.number.times (2 ^ places)).rounded = double.number.times (2 ^ places) ↔
      (double.number.times (2 ^ places)).InRange := by
  obtain ⟨number, held⟩ := double
  cases number with
  | finite value =>
      have scaled := nearestDouble_of_isDouble (held.1.mul_two_pow places)
      simp only [Number.times, Number.rounded, Number.InRange]
      by_cases large : (floatBound : ℚ) ≤ |value * 2 ^ places|
      · rw [if_pos large]
        exact iff_of_false nofun (not_lt.mpr large)
      · rw [if_neg large, scaled]
        exact iff_of_true rfl (not_le.mp large)
  | infinity | nan => exact iff_of_true rfl trivial

/-- Read a number as a double. -/
def float (text : String) : Option Number :=
  (statedNumber text).map Number.rounded

/-! ## Decimals -/

/-- A number written with decimal digits and at most one point. -/
structure Decimal where
  whole : List Char
  fraction : Option (List Char)
  digits : ∀ c ∈ whole ++ fraction.getD [], c.isDigit = true
  nonempty : whole ++ fraction.getD [] ≠ []

namespace Decimal

variable (decimal : Decimal)

def text : List Char :=
  decimal.whole ++ decimal.fraction.elim [] ('.' :: ·)

def value : ℚ :=
  Nat.ofDigitChars 10 (decimal.whole ++ decimal.fraction.getD []) 0 /
    10 ^ (decimal.fraction.getD []).length

theorem value_nonneg : 0 ≤ decimal.value := by
  unfold value
  positivity

theorem mem_of_isDigit {c : Char} (digit : c.isDigit = true) : c ∈ "0123456789".toList := by
  simp only [Char.isDigit, Bool.and_eq_true, decide_eq_true_eq] at digit
  obtain ⟨low, high⟩ := digit
  have bounds : 48 ≤ c.toNat ∧ c.toNat ≤ 57 := ⟨UInt32.le_iff_toNat_le.mp low,
    UInt32.le_iff_toNat_le.mp high⟩
  have each : ∀ point < 58, 48 ≤ point → Char.ofNat point ∈ "0123456789".toList := by decide
  rw [← Char.ofNat_toNat c]
  exact each c.toNat (by omega) bounds.1

/-- What holds of the digits and the point holds of every character of a decimal. -/
theorem forall_mem_text {p : Char → Prop} (each : ∀ c ∈ ".0123456789".toList, p c) :
    ∀ c ∈ decimal.text, p c := by
  intro c member
  apply each
  have digit (own : c ∈ decimal.whole ++ decimal.fraction.getD []) : c ∈ ".0123456789".toList :=
    List.mem_cons_of_mem _ (mem_of_isDigit (decimal.digits c own))
  rcases List.mem_append.mp member with own | own
  · exact digit (List.mem_append_left _ own)
  · cases written : decimal.fraction with
    | none =>
        rw [written] at own
        cases own
    | some fraction =>
        rw [written] at own
        rcases List.mem_cons.mp own with rfl | own
        · exact List.mem_cons_self
        · exact digit (List.mem_append_right _ (by rw [written]; exact own))

theorem text_ne_nil : decimal.text ≠ [] := by
  intro empty
  obtain ⟨whole, fraction⟩ := List.append_eq_nil_iff.mp empty
  apply decimal.nonempty
  cases written : decimal.fraction with
  | none => rw [whole]; rfl
  | some digits =>
      rw [written] at fraction
      cases fraction

end Decimal

theorem dropUnderscores_eq_some {previous : Char} {text : List Char} (other : previous ≠ '_')
    (absent : ∀ c ∈ text, c ≠ '_') : dropUnderscores previous text = some text := by
  induction text generalizing previous with
  | nil => rw [dropUnderscores, if_neg other]
  | cons c text ih =>
      obtain ⟨first, later⟩ := List.forall_mem_cons.mp absent
      rw [dropUnderscores, if_neg first, if_neg (fun both => other both.1), ih first later]
      rfl

theorem strip_eq_self {text : List Char} (solid : ∀ c ∈ text, isWhiteSpace c = false) :
    strip (String.ofList text) = String.ofList text := by
  have kept (text : List Char) (solid : ∀ c ∈ text, isWhiteSpace c = false) :
      text.dropWhile isWhiteSpace = text := by
    cases text with
    | nil => rfl
    | cons c text => exact List.dropWhile_cons_of_neg (by simp [solid c List.mem_cons_self])
  rw [strip, String.toList_ofList, kept text solid,
    kept text.reverse fun c member => solid c (List.mem_reverse.mp member), List.reverse_reverse]

theorem readSign_eq {text : List Char} (unsigned : ∀ c ∈ text, c ≠ '-' ∧ c ≠ '+') :
    readSign text = (1, text) := by
  unfold readSign
  split
  next => exact absurd rfl (unsigned _ List.mem_cons_self).1
  next => exact absurd rfl (unsigned _ List.mem_cons_self).2
  next => rfl

theorem readNumber_text (decimal : Decimal) :
    readNumber decimal.text = some (decimal.value, []) := by
  have digits := decimal.digits
  simp only [List.mem_append, or_imp, forall_and] at digits
  obtain ⟨whole, fraction⟩ := digits
  unfold readNumber Decimal.text
  cases written : decimal.fraction with
  | none =>
      have nonempty : decimal.whole ≠ [] := by simpa [written] using decimal.nonempty
      simp only [Option.elim_none, List.append_nil, List.takeWhile_eq_self_iff.mpr whole,
        List.dropWhile_eq_nil_iff.mpr whole, if_neg nonempty]
      simp [Decimal.value, written]
  | some digits =>
      have nonempty : decimal.whole ++ digits ≠ [] := by simpa [written] using decimal.nonempty
      have all : ∀ c ∈ digits, c.isDigit = true := by simpa [written] using fraction
      simp only [Option.elim_some, List.takeWhile_append_of_pos whole,
        List.dropWhile_append_of_pos whole]
      rw [List.takeWhile_cons_of_neg (by decide), List.dropWhile_cons_of_neg (by decide)]
      simp only [List.append_nil, List.takeWhile_eq_self_iff.mpr all,
        List.dropWhile_eq_nil_iff.mpr all, if_neg nonempty]
      simp [Decimal.value, written]

/-- A decimal states its value. -/
theorem statedNumber_text (decimal : Decimal) :
    statedNumber (String.ofList decimal.text) = some (.finite decimal.value) := by
  have ascii : decimal.text.map asciiDigit = decimal.text :=
    (List.map_congr_left (decimal.forall_mem_text (by decide))).trans (List.map_id _)
  have plain := @dropUnderscores_eq_some ' ' _ (by decide)
    (decimal.forall_mem_text (p := (· ≠ '_')) (by decide))
  have unsigned := readSign_eq (decimal.forall_mem_text (by decide))
  have named (name : String) (member : name ∈ ["nan", "inf", "infinity"]) :
      lower (String.ofList decimal.text) ≠ name := by
    rintro rfl
    obtain ⟨c, text, cons⟩ := List.exists_cons_of_ne_nil decimal.text_ne_nil
    have first := decimal.forall_mem_text (p := fun c => c.toLower ∉ ['i', 'n']) (by decide) c
      (by rw [cons]; exact List.mem_cons_self)
    have head : ∀ name ∈ ["nan", "inf", "infinity"], name.toList.head? ∈ [some 'i', some 'n'] := by
      decide
    have named : (lower (String.ofList decimal.text)).toList.head? = some c.toLower := by
      simp [lower, cons]
    apply first
    simpa [named] using head _ member
  rw [statedNumber, strip_eq_self (decimal.forall_mem_text (by decide)),
    String.toList_ofList, ascii, plain]
  simp only [Option.bind_eq_bind, Option.bind_some, unsigned, named "nan" (by simp),
    named "inf" (by simp), named "infinity" (by simp), or_self, if_false, readNumber_text,
    readExponent, zpow_zero, Int.cast_one, one_mul, mul_one]
  rfl

/-- A decimal is read as the double nearest to its value. -/
theorem float_text {decimal : Decimal} (small : decimal.value < floatBound) :
    float (String.ofList decimal.text) = some (.finite (nearestDouble decimal.value)) := by
  have bounded : ¬(floatBound : ℚ) ≤ |decimal.value| := by
    rw [abs_of_nonneg decimal.value_nonneg]
    exact not_le.mpr small
  rw [float, statedNumber_text, Option.map_some, Number.rounded, if_neg bounded]

end ZeroShield.Foundation
