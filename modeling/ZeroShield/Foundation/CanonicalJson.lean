import ZeroShield.Foundation.Decimal
import ZeroShield.Foundation.JsonText

/-!
# Canonical text is unique

Two values have the same canonical text exactly when they are equal once the names of every object
are sorted.  Every token ends before a mark which cannot continue it, so that the text is read from
left to right in one way only.
-/

namespace ZeroShield.Foundation.Json

variable {ν : Type}

/-- Induction over the values: an array over its items, an object over its fields. -/
@[elab_as_elim]
theorem ind {motive : Json ν → Prop} (null : motive .null) (bool : ∀ value, motive (.bool value))
    (int : ∀ value, motive (.int value)) (float : ∀ value, motive (.float value))
    (str : ∀ value, motive (.str value))
    (arr : ∀ items, (∀ item ∈ items, motive item) → motive (.arr items))
    (obj : ∀ fields, (∀ field ∈ fields, motive field.2) → motive (.obj fields)) (json : Json ν) :
    motive json :=
  @Json.rec ν motive (fun items => ∀ item ∈ items, motive item)
    (fun fields => ∀ field ∈ fields, motive field.2) (fun field => motive field.2)
    null bool int float str (fun items => arr items) (fun fields => obj fields)
    (fun _ member => absurd member List.not_mem_nil)
    (fun _ _ first others => List.forall_mem_cons.mpr ⟨first, others⟩)
    (fun _ member => absurd member List.not_mem_nil)
    (fun _ _ first others => List.forall_mem_cons.mpr ⟨first, others⟩) (fun _ _ value => value) json

/-! ## Reading escapes -/

/-- The value of a hexadecimal digit. -/
def hexValue (c : Char) : ℕ :=
  if c.toNat < 58 then c.toNat - 48 else c.toNat - 87

@[simp] theorem hexValue_hexDigit {digit : ℕ} (small : digit < 16) :
    hexValue (hexDigit digit) = digit := by
  revert digit
  decide

/-- Read the escape of a code unit. -/
def readUnit : List Char → Option (ℕ × List Char)
  | '\\' :: 'u' :: a :: b :: c :: d :: rest =>
      some (hexValue a * 4096 + hexValue b * 256 + hexValue c * 16 + hexValue d, rest)
  | _ => none

theorem readUnit_escapeUnit {code : ℕ} (small : code < 0x10000) (rest : List Char) :
    readUnit (escapeUnit code ++ rest) = some (code, rest) := by
  have first : code / 4096 % 16 < 16 := Nat.mod_lt _ (by decide)
  have second : code / 256 % 16 < 16 := Nat.mod_lt _ (by decide)
  have third : code / 16 % 16 < 16 := Nat.mod_lt _ (by decide)
  have last : code % 16 < 16 := Nat.mod_lt _ (by decide)
  have value : code / 4096 % 16 * 4096 + code / 256 % 16 * 256 + code / 16 % 16 * 16 + code % 16 =
      code := by
    omega
  simp only [escapeUnit, List.cons_append, List.nil_append, readUnit, hexValue_hexDigit first,
    hexValue_hexDigit second, hexValue_hexDigit third, hexValue_hexDigit last, value]

/-- Read one character of a quoted text, unless the quotation mark comes. -/
def unescape : List Char → Option (Char × List Char)
  | '\\' :: 'n' :: rest => some ('\n', rest)
  | '\\' :: 'r' :: rest => some ('\r', rest)
  | '\\' :: 't' :: rest => some ('\t', rest)
  | '\\' :: 'b' :: rest => some (Char.ofNat 8, rest)
  | '\\' :: 'f' :: rest => some (Char.ofNat 12, rest)
  | '\\' :: 'u' :: text => do
      let (unit, rest) ← readUnit ('\\' :: 'u' :: text)
      if 0xd800 ≤ unit ∧ unit < 0xdc00 then
        let (low, rest) ← readUnit rest
        return (Char.ofNat (0x10000 + (unit - 0xd800) * 1024 + (low - 0xdc00)), rest)
      else return (Char.ofNat unit, rest)
  | '\\' :: c :: rest => some (c, rest)
  | c :: rest => if c.toNat = 34 then none else some (c, rest)
  | [] => none

theorem unescape_escapeUnit {code : ℕ} (small : code < 0x10000)
    (plane : ¬ (0xd800 ≤ code ∧ code < 0xdc00)) (rest : List Char) :
    unescape (escapeUnit code ++ rest) = some (Char.ofNat code, rest) := by
  change (do
    let (unit, rest) ← readUnit (escapeUnit code ++ rest)
    if 0xd800 ≤ unit ∧ unit < 0xdc00 then
      let (low, rest) ← readUnit rest
      return (Char.ofNat (0x10000 + (unit - 0xd800) * 1024 + (low - 0xdc00)), rest)
    else return (Char.ofNat unit, rest)) = _
  rw [readUnit_escapeUnit small]
  exact if_neg plane

theorem unescape_surrogates {high low : ℕ} (first : 0xd800 ≤ high) (second : high < 0xdc00)
    (small : low < 0x10000) (rest : List Char) :
    unescape (escapeUnit high ++ escapeUnit low ++ rest) =
      some (Char.ofNat (0x10000 + (high - 0xd800) * 1024 + (low - 0xdc00)), rest) := by
  rw [List.append_assoc]
  change (do
    let (unit, rest) ← readUnit (escapeUnit high ++ (escapeUnit low ++ rest))
    if 0xd800 ≤ unit ∧ unit < 0xdc00 then
      let (low, rest) ← readUnit rest
      return (Char.ofNat (0x10000 + (unit - 0xd800) * 1024 + (low - 0xdc00)), rest)
    else return (Char.ofNat unit, rest)) = _
  rw [readUnit_escapeUnit (by omega)]
  change (if _ then _ else _) = _
  rw [if_pos ⟨first, second⟩, readUnit_escapeUnit small]
  rfl

theorem ofNat_of_toNat_eq {c : Char} {code : ℕ} (same : c.toNat = code) : Char.ofNat code = c := by
  rw [← same, Char.ofNat_toNat]

/-- What is escaped is read again. -/
theorem unescape_escapeChar (c : Char) (rest : List Char) :
    unescape (escapeChar c ++ rest) = some (c, rest) := by
  unfold escapeChar
  dsimp only
  split
  next mark =>
    rcases mark with mark | mark <;> rw [← ofNat_of_toNat_eq mark] <;> rfl
  next plain =>
    split
    next feed => rw [← ofNat_of_toNat_eq feed]; rfl
    split
    next return_ => rw [← ofNat_of_toNat_eq return_]; rfl
    split
    next tab => rw [← ofNat_of_toNat_eq tab]; rfl
    split
    next back => rw [← ofNat_of_toNat_eq back]; rfl
    split
    next form => rw [← ofNat_of_toNat_eq form]; rfl
    split
    next ascii =>
      have other : c ≠ '\\' := by
        rintro rfl
        exact plain (Or.inr rfl)
      rw [List.singleton_append, unescape]
      · rw [if_neg fun quote => plain (Or.inl quote)]
      all_goals simp [other]
    split
    next small =>
      have scalar := c.valid
      have high : ¬ (0xd800 ≤ c.toNat ∧ c.toNat < 0xdc00) := by
        intro surrogate
        rcases scalar with low | ⟨above, -⟩
        · have below : c.toNat < 0xd800 := low
          omega
        · have beyond : 0xdfff < c.toNat := above
          omega
      rw [unescape_escapeUnit small high, Char.ofNat_toNat]
    next large =>
      have bound : c.toNat < 0x110000 := by
        rcases c.valid with low | ⟨-, below⟩
        · have before : c.toNat < 0xd800 := low
          omega
        · exact below
      have value : 0x10000 + (0xd800 + (c.toNat - 0x10000) / 1024 - 0xd800) * 1024 +
          (0xdc00 + (c.toNat - 0x10000) % 1024 - 0xdc00) = c.toNat := by
        omega
      rw [unescape_surrogates (by omega) (by omega) (by omega), value, Char.ofNat_toNat]

/-- A quoted text ends at its quotation mark. -/
theorem escaped_append_inj {left right rest rest' : List Char}
    (same : left.flatMap escapeChar ++ Char.ofNat 34 :: rest =
      right.flatMap escapeChar ++ Char.ofNat 34 :: rest') : left = right ∧ rest = rest' := by
  have read := congrArg unescape same
  induction left generalizing right with
  | nil =>
      cases right with
      | nil => exact ⟨rfl, (List.cons.inj same).2⟩
      | cons d right =>
          rw [List.flatMap_cons, List.append_assoc, unescape_escapeChar] at read
          cases read
  | cons c left ih =>
      rw [List.flatMap_cons, List.append_assoc, unescape_escapeChar] at read
      cases right with
      | nil => cases read
      | cons d right =>
          rw [List.flatMap_cons, List.append_assoc, unescape_escapeChar] at read
          obtain ⟨rfl, others⟩ := Prod.mk.inj (Option.some.inj read)
          obtain ⟨rfl, rests⟩ := ih others (congrArg unescape others)
          exact ⟨rfl, rests⟩

theorem quoted_append_inj {left right : String} {rest rest' : List Char}
    (same : (quoted left).toList ++ rest = (quoted right).toList ++ rest') :
    left = right ∧ rest = rest' := by
  simp only [quoted, String.toList_ofList, List.append_assoc, List.cons_append, List.nil_append,
    List.cons.injEq, true_and] at same
  obtain ⟨texts, rests⟩ := escaped_append_inj same
  exact ⟨String.toList_inj.mp texts, rests⟩

/-! ## Numbers -/

/-- The characters of which numbers are made. -/
def isNumberChar (c : Char) : Bool :=
  c.isDigit || c = '-' || c = '+' || c = '.' || c = 'e'

/-- Numbers with a fraction are written alike only if they are equal, and never as an integer. -/
structure NumberText (floatText : ℚ → String) : Prop where
  injective : Function.Injective floatText
  numberChars : ∀ number, ∀ c ∈ (floatText number).toList, isNumberChar c = true
  marked : ∀ number, '.' ∈ (floatText number).toList ∨ 'e' ∈ (floatText number).toList

/-- The characters of `Infinity` and `NaN`, and those of which other numbers are made. -/
def isLeafChar (c : Char) : Bool :=
  isNumberChar c || "InfityNa".toList.contains c

def isLeafStart (c : Char) : Bool :=
  isNumberChar c || c = 'I' || c = 'N'

def isIntegerChar (c : Char) : Bool :=
  c.isDigit || c = '-'

/-- Numbers are written alike only if they are equal, and never as an integer or a literal. -/
structure LeafText (text : ν → String) : Prop where
  injective : Function.Injective text
  leafChars : ∀ number, ∀ c ∈ (text number).toList, isLeafChar c = true
  starts : ∀ number, ∃ c rest, (text number).toList = c :: rest ∧ isLeafStart c = true
  marked : ∀ number, ∃ c ∈ (text number).toList, isIntegerChar c = false

/-- The text of an integer: an optional sign and digits. -/
theorem toList_toString_int (value : ℤ) :
    (toString value).toList = (if value < 0 then ['-'] else []) ++
      Nat.toDigits 10 value.natAbs := by
  cases value with
  | ofNat n => simp [Int.toString_eq_repr, Int.repr_eq_if, Nat.repr]
  | negSucc n => simp [Int.toString_eq_repr, Int.repr_eq_if, Nat.repr]

theorem isIntegerChar_of_mem_toString {value : ℤ} {c : Char}
    (member : c ∈ (toString value).toList) : isIntegerChar c = true := by
  rw [toList_toString_int] at member
  rcases List.mem_append.mp member with sign | digit
  · have minus : c = '-' := by
      split at sign
      · exact List.mem_singleton.mp sign
      · cases sign
    subst minus
    decide
  · have digit := Nat.isDigit_of_mem_toDigits (by decide) (by decide) digit
    simp [isIntegerChar, digit]

theorem isNumberChar_of_mem_toString {value : ℤ} {c : Char} (member : c ∈ (toString value).toList) :
    isNumberChar c = true ∧ c ≠ '.' ∧ c ≠ 'e' := by
  have integer := isIntegerChar_of_mem_toString member
  refine ⟨?_, ?_, ?_⟩
  · simp only [isIntegerChar, Bool.or_eq_true] at integer
    rcases integer with digit | minus
    · simp [isNumberChar, digit]
    · simp [isNumberChar, minus]
  · rintro rfl
    cases integer
  · rintro rfl
    cases integer

theorem isLeafChar_of_isNumberChar {c : Char} (number : isNumberChar c = true) :
    isLeafChar c = true := by
  rw [isLeafChar, number, Bool.true_or]

theorem isLeafChar_of_mem_toString {value : ℤ} {c : Char} (member : c ∈ (toString value).toList) :
    isLeafChar c = true :=
  isLeafChar_of_isNumberChar (isNumberChar_of_mem_toString member).1

theorem isIntegerChar_of_marked {text : List Char} (marked : '.' ∈ text ∨ 'e' ∈ text) :
    ∃ c ∈ text, isIntegerChar c = false := by
  rcases marked with member | member
  · exact ⟨_, member, by decide⟩
  · exact ⟨_, member, by decide⟩

/-- Finite numbers are written as what they are. -/
theorem NumberText.leafText {floatText : ℚ → String} (numbers : NumberText floatText) :
    LeafText floatText where
  injective := numbers.injective
  leafChars number c member := isLeafChar_of_isNumberChar (numbers.numberChars number c member)
  starts number := by
    obtain ⟨c, member, -⟩ := isIntegerChar_of_marked (numbers.marked number)
    obtain ⟨first, rest, text⟩ := List.exists_cons_of_ne_nil (List.ne_nil_of_mem member)
    have start := numbers.numberChars number first (text ▸ List.mem_cons_self)
    exact ⟨first, rest, text, by rw [isLeafStart, start]; rfl⟩
  marked number := isIntegerChar_of_marked (numbers.marked number)

/-- The numbers which are not finite. -/
def specials : List Number := [.infinity false, .infinity true, .nan]

theorem specials_leaf : ∀ number ∈ specials, let name := (number.text fun _ => "").toList
    name.all isLeafChar = true ∧ name.head?.all isLeafStart = true ∧ name ≠ [] ∧
      (name.any fun c => !isIntegerChar c && !isNumberChar c) = true := by
  decide

/-- The name of a number which is not finite has a letter that no number has. -/
theorem exists_letter {number : Number} (special : number ∈ specials) :
    ∃ c ∈ (number.text fun _ => "").toList, isIntegerChar c = false ∧ isNumberChar c = false := by
  obtain ⟨c, member, letter⟩ := List.any_eq_true.mp (specials_leaf number special).2.2.2
  rw [Bool.and_eq_true, Bool.not_eq_true', Bool.not_eq_true'] at letter
  exact ⟨c, member, letter⟩

theorem specials_injective : ∀ left ∈ specials, ∀ right ∈ specials,
    (left.text fun _ => "") = (right.text fun _ => "") → left = right := by
  decide

theorem special_cases (floatText : ℚ → String) (number : Number) :
    (∃ value, number = .finite value) ∨
      number ∈ specials ∧ number.text floatText = number.text fun _ => "" := by
  cases number with
  | finite value => exact .inl ⟨value, rfl⟩
  | infinity negative => cases negative <;> exact .inr ⟨by decide, rfl⟩
  | nan => exact .inr ⟨by decide, rfl⟩

/-- Numbers which are not finite are written apart from the finite ones. -/
theorem NumberText.leafText_text {floatText : ℚ → String} (numbers : NumberText floatText) :
    LeafText (Number.text floatText) where
  injective := by
    have apart (value : ℚ) {number : Number} (special : number ∈ specials) :
        floatText value ≠ number.text fun _ => "" := by
      intro same
      obtain ⟨c, member, -, letter⟩ := exists_letter special
      rw [numbers.numberChars value c (same ▸ member)] at letter
      cases letter
    intro left right same
    rcases special_cases floatText left with ⟨value, rfl⟩ | ⟨special, text⟩
    · rcases special_cases floatText right with ⟨value', rfl⟩ | ⟨special, text⟩
      · exact congrArg Number.finite (numbers.injective same)
      · exact absurd (same.trans text) (apart value special)
    · rcases special_cases floatText right with ⟨value, rfl⟩ | ⟨special', text'⟩
      · exact absurd (same.symm.trans text) (apart value special)
      · exact specials_injective left special right special' ((text.symm.trans same).trans text')
  leafChars number := by
    rcases special_cases floatText number with ⟨value, rfl⟩ | ⟨special, text⟩
    · exact numbers.leafText.leafChars value
    · exact text ▸ List.all_eq_true.mp (specials_leaf number special).1
  starts number := by
    rcases special_cases floatText number with ⟨value, rfl⟩ | ⟨special, text⟩
    · exact numbers.leafText.starts value
    · obtain ⟨-, start, nonempty, -⟩ := specials_leaf number special
      obtain ⟨c, rest, name⟩ := List.exists_cons_of_ne_nil nonempty
      rw [name] at start
      exact ⟨c, rest, text ▸ name, start⟩
  marked number := by
    rcases special_cases floatText number with ⟨value, rfl⟩ | ⟨special, text⟩
    · exact numbers.leafText.marked value
    · obtain ⟨c, member, mark, -⟩ := exists_letter special
      exact ⟨c, text ▸ member, mark⟩

/-- Integers are written alike only if they are equal. -/
theorem toString_int_injective : Function.Injective (toString : ℤ → String) := by
  intro left right same
  have lists := congrArg String.toList same
  rw [toList_toString_int, toList_toString_int] at lists
  have unsigned (value : ℕ) (digits : List Char) : Nat.toDigits 10 value ≠ '-' :: digits := by
    intro equal
    have digit := Nat.isDigit_of_mem_toDigits (b := 10) (n := value) (c := '-')
      (by decide) (by decide)
      (equal ▸ List.mem_cons_self)
    cases digit
  have parts : left < 0 ∧ right < 0 ∨ ¬ left < 0 ∧ ¬ right < 0 := by
    by_cases negative : left < 0 <;> by_cases negative' : right < 0
    · exact Or.inl ⟨negative, negative'⟩
    · rw [if_pos negative, if_neg negative'] at lists
      exact absurd lists.symm (unsigned _ _)
    · rw [if_neg negative, if_pos negative'] at lists
      exact absurd lists (unsigned _ _)
    · exact Or.inr ⟨negative, negative'⟩
  have digits : Nat.toDigits 10 left.natAbs = Nat.toDigits 10 right.natAbs := by
    rcases parts with ⟨negative, negative'⟩ | ⟨negative, negative'⟩
    · rw [if_pos negative, if_pos negative'] at lists
      exact List.append_cancel_left lists
    · rwa [if_neg negative, if_neg negative'] at lists
  have sizes : left.natAbs = right.natAbs :=
    calc left.natAbs = Nat.ofDigitChars 10 (Nat.toDigits 10 left.natAbs) 0 :=
          Nat.ofDigitChars_ten_toDigits.symm
      _ = Nat.ofDigitChars 10 (Nat.toDigits 10 right.natAbs) 0 := by rw [digits]
      _ = right.natAbs := Nat.ofDigitChars_ten_toDigits
  omega

/-! ## Tokens and what follows them -/

/-- What can follow a value. -/
def Delimited (rest : List Char) : Prop :=
  ∀ c ∈ rest.head?, c = ',' ∨ c = ']' ∨ c = '\x7d'

theorem delimited_cons {c : Char} (mark : c = ',' ∨ c = ']' ∨ c = '\x7d') (rest : List Char) :
    Delimited (c :: rest) := by
  intro d first
  obtain rfl := Option.some.inj first
  exact mark

/-- A number ends before a delimiter. -/
theorem number_append_inj {left right rest rest' : List Char}
    (leftNumber : ∀ c ∈ left, isLeafChar c = true)
    (rightNumber : ∀ c ∈ right, isLeafChar c = true)
    (delimited : Delimited rest) (delimited' : Delimited rest')
    (same : left ++ rest = right ++ rest') : left = right ∧ rest = rest' := by
  have ends {c : Char} {rest tail : List Char} (delimited : Delimited rest)
    (equal : rest = c :: tail) :
      isLeafChar c = false := by
    rcases delimited c (by rw [equal]; rfl) with rfl | rfl | rfl <;> decide
  induction left generalizing right with
  | nil =>
      cases right with
      | nil => exact ⟨rfl, same⟩
      | cons c right =>
          have number := rightNumber c List.mem_cons_self
          rw [ends delimited same] at number
          cases number
  | cons c left ih =>
      cases right with
      | nil =>
          have number := leftNumber c List.mem_cons_self
          rw [ends delimited' same.symm] at number
          cases number
      | cons d right =>
          obtain ⟨rfl, others⟩ := List.cons.inj same
          obtain ⟨rfl, rests⟩ := ih (fun e member => leftNumber e (List.mem_cons_of_mem _ member))
            (fun e member => rightNumber e (List.mem_cons_of_mem _ member)) others
          exact ⟨rfl, rests⟩

/-! ## Entries between marks -/

section Entries

variable {α : Type} (print : α → List Char) (close : Char)

/-- What follows the first of some entries, up to a closing mark. -/
def following (entries : List α) (rest : List Char) : List Char :=
  entries.flatMap (fun entry => ',' :: print entry) ++ close :: rest

theorem following_cons (entry : α) (entries : List α) (rest : List Char) :
    following print close (entry :: entries) rest =
      ',' :: (print entry ++ following print close entries rest) := by
  simp [following]

theorem intercalate_append (entry : α) (entries : List α) (rest : List Char) :
    List.intercalate [','] ((entry :: entries).map print) ++ close :: rest =
      print entry ++ following print close entries rest := by
  induction entries generalizing entry with
  | nil => simp [following]
  | cons next entries ih =>
      rw [List.map_cons, List.map_cons, List.intercalate_cons_cons, List.append_assoc,
        ← List.map_cons, ih next, following_cons, List.append_assoc, List.singleton_append]

variable {print} {close}

theorem delimited_following (mark : close = ']' ∨ close = '\x7d') (entries : List α)
    (rest : List Char) : Delimited (following print close entries rest) := by
  cases entries with
  | nil => exact delimited_cons (Or.inr mark) rest
  | cons entry entries =>
      rw [following_cons]
      exact delimited_cons (Or.inl rfl) _

/-- The entry is read up to its end. -/
def ReadsOn (print : α → List Char) (entry : α) : Prop :=
  ∀ other rest rest', Delimited rest → Delimited rest' →
    print entry ++ rest = print other ++ rest' → entry = other ∧ rest = rest'

theorem following_inj (mark : close = ']' ∨ close = '\x7d') {left right : List α}
    {rest rest' : List Char} (reads : ∀ entry ∈ left, ReadsOn print entry)
    (same : following print close left rest = following print close right rest') :
    left = right ∧ rest = rest' := by
  have notComma : close ≠ ',' := by
    rcases mark with rfl | rfl <;> decide
  induction left generalizing right with
  | nil =>
      cases right with
      | nil => exact ⟨rfl, (List.cons.inj same).2⟩
      | cons other right => exact absurd (List.cons.inj same).1 notComma
  | cons entry left ih =>
      cases right with
      | nil => exact absurd (List.cons.inj same).1.symm notComma
      | cons other right =>
          rw [following_cons, following_cons] at same
          obtain ⟨rfl, others⟩ := reads entry List.mem_cons_self other _ _
            (delimited_following mark left rest) (delimited_following mark right rest')
            (List.cons.inj same).2
          obtain ⟨rfl, rests⟩ := ih (fun e member => reads e (List.mem_cons_of_mem _ member)) others
          exact ⟨rfl, rests⟩

/-- Entries separated by commas up to a closing mark, which begins no entry, are read one after
another. -/
theorem intercalate_append_inj (mark : close = ']' ∨ close = '\x7d') {left right : List α}
    {rest rest' : List Char} (reads : ∀ entry ∈ left, ReadsOn print entry)
    (starts : ∀ entry more rest, print entry ++ more ≠ close :: rest)
    (same : List.intercalate [','] (left.map print) ++ close :: rest =
      List.intercalate [','] (right.map print) ++ close :: rest') : left = right ∧
        rest = rest' := by
  cases left with
  | nil =>
      cases right with
      | nil => exact ⟨rfl, (List.cons.inj same).2⟩
      | cons other right =>
          rw [intercalate_append] at same
          exact absurd same.symm (starts other _ _)
  | cons entry left =>
      cases right with
      | nil =>
          rw [intercalate_append] at same
          exact absurd same (starts entry _ _)
      | cons other right =>
          rw [intercalate_append, intercalate_append] at same
          obtain ⟨rfl, others⟩ := reads entry List.mem_cons_self other _ _
            (delimited_following mark left rest) (delimited_following mark right rest') same
          obtain ⟨rfl, rests⟩ := following_inj mark
            (fun e member => reads e (List.mem_cons_of_mem _ member)) others
          exact ⟨rfl, rests⟩

end Entries

/-! ## Compact text -/

section Compact

variable (floatText : ν → String)

mutual

/-- The text of a value without blanks; the names of an object keep their order. -/
def compact : Json ν → List Char
  | null => ['n', 'u', 'l', 'l']
  | bool true => ['t', 'r', 'u', 'e']
  | bool false => ['f', 'a', 'l', 's', 'e']
  | int value => (toString value).toList
  | float value => (floatText value).toList
  | str value => (quoted value).toList
  | arr items => '[' :: (List.intercalate [','] (compactItems items) ++ [']'])
  | obj fields => '\x7b' :: (List.intercalate [','] (compactFields fields) ++ ['\x7d'])

def compactItems : List (Json ν) → List (List Char)
  | [] => []
  | item :: items => compact item :: compactItems items

def compactFields : List (String × Json ν) → List (List Char)
  | [] => []
  | (name, value) :: fields =>
      ((quoted name).toList ++ ':' :: compact value) :: compactFields fields

end

/-- The text of a field. -/
def compactField (field : String × Json ν) : List Char :=
  (quoted field.1).toList ++ ':' :: compact floatText field.2

theorem compactItems_eq (items : List (Json ν)) :
    compactItems floatText items = items.map (compact floatText) := by
  induction items with
  | nil => rfl
  | cons item items ih => rw [compactItems, ih, List.map_cons]

theorem compactFields_eq (fields : List (String × Json ν)) :
    compactFields floatText fields = fields.map (compactField floatText) := by
  induction fields with
  | nil => rfl
  | cons field fields ih => rw [compactFields, ih, List.map_cons, compactField]

/-- An object with a field starts with its quoted name. -/
theorem exists_compact_obj (field : String × Json ν) (fields : List (String × Json ν)) :
    ∃ rest, compact floatText (obj (field :: fields)) = '\x7b' :: Char.ofNat 34 :: rest := by
  have head : ∃ rest, compactField floatText field = Char.ofNat 34 :: rest := by
    refine ⟨field.1.toList.flatMap escapeChar ++
      Char.ofNat 34 :: ':' :: compact floatText field.2, ?_⟩
    simp [compactField, quoted]
  obtain ⟨rest, first⟩ := head
  rw [compact, compactFields_eq]
  cases fields with
  | nil =>
      rw [List.map_cons, first]
      exact ⟨_, rfl⟩
  | cons next fields =>
      rw [List.map_cons, first, List.map_cons, List.intercalate_cons_cons]
      exact ⟨_, rfl⟩

/-- An array of objects starts with the mark of an object. -/
theorem exists_compact_arr (field : String × Json ν) (fields : List (String × Json ν))
    (items : List (Json ν)) :
    ∃ rest, compact floatText (arr (obj (field :: fields) :: items)) = '[' :: '\x7b' :: rest := by
  obtain ⟨rest, first⟩ := exists_compact_obj floatText field fields
  rw [compact, compactItems_eq]
  cases items with
  | nil =>
      rw [List.map_cons, first]
      exact ⟨_, rfl⟩
  | cons next items =>
      rw [List.map_cons, first, List.map_cons, List.intercalate_cons_cons]
      exact ⟨_, rfl⟩

/-- How the text of a value begins. -/
def Begins : Json ν → Char → Prop
  | null, c => c = 'n'
  | bool value, c => c = if value then 't' else 'f'
  | int _, c | float _, c => isLeafStart c = true
  | str _, c => c = Char.ofNat 34
  | arr _, c => c = '['
  | obj _, c => c = '\x7b'

variable {floatText}

theorem exists_begins (numbers : LeafText floatText) (json : Json ν) :
    ∃ c text, compact floatText json = c :: text ∧ json.Begins c := by
  cases json with
  | null => exact ⟨_, _, rfl, rfl⟩
  | bool value => cases value <;> exact ⟨_, _, rfl, rfl⟩
  | int value =>
      cases text : (toString value).toList with
      | nil =>
          rw [toList_toString_int] at text
          have digits := (List.append_eq_nil_iff.mp text).2
          exact absurd digits Nat.toDigits_ne_nil
      | cons c rest =>
          have member : c ∈ (toString value).toList := text ▸ List.mem_cons_self
          have number := (isNumberChar_of_mem_toString member).1
          exact ⟨c, rest, text, by rw [Begins, isLeafStart, number]; rfl⟩
  | float value =>
      obtain ⟨c, rest, text, start⟩ := numbers.starts value
      exact ⟨c, rest, text, start⟩
  | str value =>
      refine ⟨Char.ofNat 34, value.toList.flatMap escapeChar ++ [Char.ofNat 34], ?_, rfl⟩
      simp [compact, quoted]
  | arr items => exact ⟨_, _, rfl, rfl⟩
  | obj fields => exact ⟨_, _, rfl, rfl⟩

/-- Values which are written alike begin alike. -/
theorem begins_of_append (numbers : LeafText floatText) {left right : Json ν}
    {rest rest' : List Char}
    (same : compact floatText left ++ rest = compact floatText right ++ rest') :
    ∃ c, left.Begins c ∧ right.Begins c := by
  obtain ⟨c, text, written, begins⟩ := exists_begins numbers left
  obtain ⟨d, text', written', begins'⟩ := exists_begins numbers right
  rw [written, written'] at same
  obtain ⟨rfl, -⟩ := List.cons.inj same
  exact ⟨c, begins, begins'⟩

theorem compact_ne_close (numbers : LeafText floatText) (json : Json ν) (more rest : List Char) :
    compact floatText json ++ more ≠ ']' :: rest := by
  intro same
  obtain ⟨c, text, written, begins⟩ := exists_begins numbers json
  rw [written] at same
  obtain ⟨rfl, -⟩ := List.cons.inj same
  cases json with
  | bool value => cases value <;> cases begins
  | _ => cases begins

theorem compactField_ne_close (field : String × Json ν) (more rest : List Char) :
    compactField floatText field ++ more ≠ '\x7d' :: rest := by
  intro same
  simp only [compactField, quoted, String.toList_ofList, List.append_assoc, List.cons_append,
    List.cons.injEq] at same
  exact absurd same.1 (by decide)

theorem readsOn_compactField {field : String × Json ν}
    (reads : ReadsOn (compact floatText) field.2) : ReadsOn (compactField floatText) field := by
  intro other rest rest' delimited delimited' same
  simp only [compactField, List.append_assoc, List.cons_append] at same
  obtain ⟨names, texts⟩ := quoted_append_inj same
  obtain ⟨values, rests⟩ := reads other.2 rest rest' delimited delimited' (List.cons.inj texts).2
  exact ⟨Prod.ext names values, rests⟩

/-- The text of an integer has no mark of another number. -/
theorem toString_ne_floatText (numbers : LeafText floatText) (value : ℤ) (number : ν) :
    (toString value).toList ≠ (floatText number).toList := by
  intro same
  obtain ⟨c, member, mark⟩ := numbers.marked number
  rw [isIntegerChar_of_mem_toString (same ▸ member)] at mark
  cases mark

/-- Compact text is read up to the end of its value. -/
theorem readsOn_compact (numbers : LeafText floatText) (json : Json ν) :
    ReadsOn (compact floatText) json := by
  induction json using Json.ind with
  | null =>
      intro other rest rest' delimited delimited' same
      obtain ⟨c, rfl, begins⟩ := begins_of_append numbers same
      cases other with
      | null => exact ⟨rfl, List.append_cancel_left same⟩
      | bool value => cases value <;> cases begins
      | _ => cases begins
  | bool value =>
      intro other rest rest' delimited delimited' same
      obtain ⟨c, begins, begins'⟩ := begins_of_append numbers same
      cases other with
      | bool value' =>
          cases value <;> cases value'
          · exact ⟨rfl, List.append_cancel_left same⟩
          · cases begins.symm.trans begins'
          · cases begins.symm.trans begins'
          · exact ⟨rfl, List.append_cancel_left same⟩
      | _ => cases value <;> cases begins <;> cases begins'
  | int value =>
      intro other rest rest' delimited delimited' same
      obtain ⟨c, begins, begins'⟩ := begins_of_append numbers same
      cases other with
      | int value' =>
          obtain ⟨texts, rests⟩ := number_append_inj
            (fun c member => isLeafChar_of_mem_toString member)
            (fun c member => isLeafChar_of_mem_toString member) delimited delimited' same
          exact ⟨congrArg Json.int (toString_int_injective (String.toList_inj.mp texts)), rests⟩
      | float number =>
          have texts := number_append_inj (fun c member => isLeafChar_of_mem_toString member)
            (numbers.leafChars number) delimited delimited' same
          exact absurd texts.1 (toString_ne_floatText numbers value number)
      | bool value' => cases value' <;> (cases begins'; cases begins)
      | _ =>
          cases begins'
          cases begins
  | float number =>
      intro other rest rest' delimited delimited' same
      obtain ⟨c, begins, begins'⟩ := begins_of_append numbers same
      cases other with
      | float number' =>
          obtain ⟨texts, rests⟩ := number_append_inj (numbers.leafChars number)
            (numbers.leafChars number') delimited delimited' same
          exact ⟨congrArg Json.float (numbers.injective (String.toList_inj.mp texts)), rests⟩
      | int value =>
          have texts := number_append_inj (numbers.leafChars number)
            (fun c member => isLeafChar_of_mem_toString member) delimited delimited' same
          exact absurd texts.1.symm (toString_ne_floatText numbers value number)
      | bool value' => cases value' <;> (cases begins'; cases begins)
      | _ =>
          cases begins'
          cases begins
  | str value =>
      intro other rest rest' delimited delimited' same
      obtain ⟨c, rfl, begins⟩ := begins_of_append numbers same
      cases other with
      | str value' =>
          obtain ⟨rfl, rests⟩ := quoted_append_inj same
          exact ⟨rfl, rests⟩
      | bool value => cases value <;> cases begins
      | _ => cases begins
  | arr items ih =>
      intro other rest rest' delimited delimited' same
      obtain ⟨c, rfl, begins⟩ := begins_of_append numbers same
      cases other with
      | arr items' =>
          simp only [compact, compactItems_eq, List.cons_append, List.append_assoc,
            List.nil_append] at same
          obtain ⟨rfl, rests⟩ := intercalate_append_inj (Or.inl rfl) ih
            (compact_ne_close numbers) (List.cons.inj same).2
          exact ⟨rfl, rests⟩
      | bool value => cases value <;> cases begins
      | _ => cases begins
  | obj fields ih =>
      intro other rest rest' delimited delimited' same
      obtain ⟨c, rfl, begins⟩ := begins_of_append numbers same
      cases other with
      | obj fields' =>
          simp only [compact, compactFields_eq, List.cons_append, List.append_assoc,
            List.nil_append] at same
          obtain ⟨rfl, rests⟩ := intercalate_append_inj (Or.inr rfl)
            (fun field member => readsOn_compactField (ih field member)) compactField_ne_close
            (List.cons.inj same).2
          exact ⟨rfl, rests⟩
      | bool value => cases value <;> cases begins
      | _ => cases begins

/-- Compact text is unique. -/
theorem compact_injective (numbers : LeafText floatText) :
    Function.Injective (compact floatText) := by
  intro left right same
  have ended : Delimited [] := nofun
  exact (readsOn_compact numbers left right [] [] ended ended (by rw [same])).1

end Compact

/-! ## Sorted names -/

mutual

/-- The value with the names of every object in their order. -/
def sortKeys : Json ν → Json ν
  | null => null
  | bool value => bool value
  | int value => int value
  | float value => float value
  | str value => str value
  | arr items => arr (sortKeysItems items)
  | obj fields => obj ((sortKeysFields fields).insertionSort fun left right => left.1 ≤ right.1)

def sortKeysItems : List (Json ν) → List (Json ν)
  | [] => []
  | item :: items => sortKeys item :: sortKeysItems items

def sortKeysFields : List (String × Json ν) → List (String × Json ν)
  | [] => []
  | (name, value) :: fields => (name, sortKeys value) :: sortKeysFields fields

end

theorem sortKeysItems_eq (items : List (Json ν)) : sortKeysItems items = items.map sortKeys := by
  induction items with
  | nil => rfl
  | cons item items ih => rw [sortKeysItems, ih, List.map_cons]

theorem sortKeysFields_eq (fields : List (String × Json ν)) :
    sortKeysFields fields = fields.map fun field => (field.1, field.2.sortKeys) := by
  induction fields with
  | nil => rfl
  | cons field fields ih => rw [sortKeysFields, ih, List.map_cons]

section Canonical

variable (floatText : ν → String)

theorem canonicalItems_eq (items : List (Json ν)) :
    canonicalItems floatText items = items.map (canonical floatText) := by
  induction items with
  | nil => rfl
  | cons item items ih => rw [canonicalItems, ih, List.map_cons]

theorem canonicalFields_eq (fields : List (String × Json ν)) :
    canonicalFields floatText fields =
      fields.map fun field => (field.1, canonical floatText field.2) := by
  induction fields with
  | nil => rfl
  | cons field fields ih => rw [canonicalFields, ih, List.map_cons]

/-- Changing the values of an object does not change the order of its names. -/
theorem insertionSort_map {α β : Type} (change : α → β) (fields : List (String × α)) :
    (fields.map fun field => (field.1, change field.2)).insertionSort
        (fun left right => left.1 ≤ right.1) =
      (fields.insertionSort fun left right => left.1 ≤ right.1).map
        fun field => (field.1, change field.2) := by
  symm
  apply List.map_insertionSort
  exact fun _ _ _ _ => Iff.rfl

/-- The canonical text is the compact text of the value with sorted names. -/
theorem toList_canonical (json : Json ν) :
    (canonical floatText json).toList = compact floatText json.sortKeys := by
  induction json using Json.ind with
  | null => simp [canonical, sortKeys, compact]
  | bool value => cases value <;> simp [canonical, sortKeys, compact]
  | int value => rfl
  | float value => rfl
  | str value => rfl
  | arr items ih =>
      have texts : (items.map (canonical floatText)).map String.toList =
          (items.map sortKeys).map (compact floatText) := by
        simpa using ih
      simp only [canonical, sortKeys, compact, canonicalItems_eq, compactItems_eq, sortKeysItems_eq,
        String.toList_append, String.toList_intercalate, texts]
      simp
  | obj fields ih =>
      have texts : ((fields.insertionSort fun left right => left.1 ≤ right.1).map fun field =>
            (quoted field.1 ++ ":" ++ canonical floatText field.2).toList) =
          (fields.insertionSort fun left right => left.1 ≤ right.1).map fun field =>
            compactField floatText (field.1, field.2.sortKeys) := by
        refine List.map_congr_left fun field member => ?_
        have value := ih field ((List.mem_insertionSort _).mp member)
        simp [compactField, value]
      simp only [canonical, sortKeys, compact, canonicalFields_eq, compactFields_eq,
        sortKeysFields_eq, insertionSort_map, String.toList_append, String.toList_intercalate,
        List.map_map]
      change _ ++ List.intercalate _ ((fields.insertionSort _).map fun field =>
        (quoted field.1 ++ ":" ++ canonical floatText field.2).toList) ++ _ = _
      rw [texts]
      simp [Function.comp_def]

end Canonical

/-! ## Values which are the same up to the order of names -/

section Order

/-- The order of fields by their names. -/
instance : Std.Total fun left right : String × Json ν => left.1 ≤ right.1 :=
  ⟨fun left right => String.le_total left.1 right.1⟩

instance : IsTrans (String × Json ν) fun left right => left.1 ≤ right.1 :=
  ⟨fun _ _ _ => String.le_trans⟩

/-- Equal once the names of every object are sorted. -/
def SameUpToOrder (left right : Json ν) : Prop :=
  left.sortKeys = right.sortKeys

instance [DecidableEq ν] (left right : Json ν) : Decidable (left.SameUpToOrder right) :=
  inferInstanceAs (Decidable (left.sortKeys = right.sortKeys))

theorem SameUpToOrder.refl (json : Json ν) : json.SameUpToOrder json :=
  rfl

theorem SameUpToOrder.symm {left right : Json ν} (same : left.SameUpToOrder right) :
    right.SameUpToOrder left :=
  Eq.symm same

/-- A value which lies at a path of names. -/
def At (value : Json ν) : List String → Json ν → Prop
  | [], json => json = value
  | name :: path, json =>
      ∃ fields inner, json = obj fields ∧ (name, inner) ∈ fields ∧ At value path inner

/-- Only objects are the same as an object. -/
theorem SameUpToOrder.exists_fields {json : Json ν} {fields : List (String × Json ν)}
    (same : json.SameUpToOrder (obj fields)) : ∃ fields', json = obj fields' := by
  cases json with
  | obj fields' => exact ⟨fields', rfl⟩
  | _ => simp [SameUpToOrder, sortKeys] at same

/-- The fields of objects which are the same have the same values. -/
theorem SameUpToOrder.exists_field {fields fields' : List (String × Json ν)} {name : String}
    {value : Json ν} (same : (obj fields).SameUpToOrder (obj fields'))
    (member : (name, value) ∈ fields) :
    ∃ value', (name, value') ∈ fields' ∧ value.SameUpToOrder value' := by
  simp only [SameUpToOrder, sortKeys, sortKeysFields_eq, Json.obj.injEq] at same
  have sorted : (name, value.sortKeys) ∈ fields.map fun field => (field.1, field.2.sortKeys) :=
    List.mem_map.mpr ⟨_, member, rfl⟩
  rw [← List.mem_insertionSort fun left right => left.1 ≤ right.1, same,
    List.mem_insertionSort] at sorted
  obtain ⟨⟨_, value'⟩, member', pair⟩ := List.mem_map.mp sorted
  obtain ⟨rfl, values⟩ := Prod.mk.inj pair
  exact ⟨value', member', values.symm⟩

/-- What lies at a path is the same up to the order of names. -/
theorem SameUpToOrder.exists_at {left right value : Json ν} {path : List String}
    (same : left.SameUpToOrder right) (found : At value path left) :
    ∃ value', At value' path right ∧ value.SameUpToOrder value' := by
  induction path generalizing left right with
  | nil => exact ⟨right, rfl, found ▸ same⟩
  | cons name path ih =>
      obtain ⟨fields, inner, rfl, member, deeper⟩ := found
      obtain ⟨fields', rfl⟩ := same.symm.exists_fields
      obtain ⟨inner', member', inners⟩ := same.exists_field member
      obtain ⟨value', found, values⟩ := ih inners deeper
      exact ⟨value', ⟨fields', inner', rfl, member', found⟩, values⟩

/-- Only null is the same as null. -/
theorem SameUpToOrder.eq_null {json : Json ν} (same : json.SameUpToOrder null) : json = null := by
  cases json with
  | null => rfl
  | _ => simp [SameUpToOrder, sortKeys] at same

/-- Fields of different names may be listed in another order. -/
theorem sameUpToOrder_of_perm {fields fields' : List (String × Json ν)}
    (distinct : (fields.map (·.1)).Nodup) (permuted : fields.Perm fields') :
    (obj fields).SameUpToOrder (obj fields') := by
  have sorted : (fields.insertionSort fun left right => left.1 ≤ right.1) =
      fields'.insertionSort fun left right => left.1 ≤ right.1 := by
    apply @List.Perm.eq_of_pairwise _ fun left right : String × Json ν => left.1 ≤ right.1
    · intro left right member member' before after
      have present := (List.mem_insertionSort _).mp member
      have present' := permuted.symm.subset ((List.mem_insertionSort _).mp member')
      exact List.inj_on_of_nodup_map distinct present present' (String.le_antisymm before after)
    · exact List.pairwise_insertionSort _ _
    · exact List.pairwise_insertionSort _ _
    · exact ((List.perm_insertionSort _ _).trans permuted).trans (List.perm_insertionSort _ _).symm
  simp only [SameUpToOrder, sortKeys, sortKeysFields_eq, insertionSort_map, sorted]

/-- The canonical text does not depend on the order of names. -/
theorem canonical_eq_of_sameUpToOrder {floatText : ν → String} {left right : Json ν}
    (same : left.SameUpToOrder right) :
    canonical floatText left = canonical floatText right := by
  rw [← String.toList_inj, toList_canonical, toList_canonical, same]

/-- Canonical texts are equal exactly when the values are the same up to the order of names. -/
theorem canonical_eq_iff {floatText : ν → String} (numbers : LeafText floatText)
    {left right : Json ν} :
    canonical floatText left = canonical floatText right ↔ left.SameUpToOrder right := by
  rw [← String.toList_inj, toList_canonical, toList_canonical]
  exact (compact_injective numbers).eq_iff

/-- The canonical text of an object with a field starts with a name. -/
theorem exists_canonical_obj (floatText : ν → String) {fields : List (String × Json ν)}
    (nonempty : fields ≠ []) : ∃ rest, canonical floatText (obj fields) = "\x7b\"" ++ rest := by
  cases sorted : (sortKeysFields fields).insertionSort fun left right => left.1 ≤ right.1 with
  | nil =>
      have length := List.length_insertionSort (fun left right => left.1 ≤ right.1)
        (sortKeysFields fields)
      rw [sorted, sortKeysFields_eq, List.length_map] at length
      exact absurd (List.length_eq_zero_iff.mp length.symm) nonempty
  | cons field later =>
      obtain ⟨rest, text⟩ := exists_compact_obj floatText field later
      refine ⟨String.ofList rest, String.toList_inj.mp ?_⟩
      rw [toList_canonical, sortKeys, sorted, text]
      simp

end Order

end ZeroShield.Foundation.Json
