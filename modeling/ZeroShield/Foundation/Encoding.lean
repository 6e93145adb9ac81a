import Mathlib.Data.List.Basic

/-!
# Texts and bytes

Files hold bytes.  Text is written in UTF-8; it is read back as text, or as JSON whose encoding is
detected from the first bytes.
-/

namespace ZeroShield.Foundation

abbrev Bytes := ByteArray

/-- The encoding of a text in UTF-8. -/
def encodeUtf8 (text : String) : Bytes := text.toUTF8

/-- The text which is encoded in UTF-8, if there is one. -/
def decodeUtf8 (bytes : Bytes) : Option String := String.fromUTF8? bytes

@[simp] theorem decodeUtf8_encodeUtf8 (text : String) :
    decodeUtf8 (encodeUtf8 text) = some text := by
  have valid : (encodeUtf8 text).IsValidUTF8 := text.isValidUTF8
  rw [decodeUtf8, String.fromUTF8?, dif_pos valid]
  rfl

/-- What is decoded is what was encoded. -/
theorem encodeUtf8_of_decodeUtf8 {bytes : Bytes} {text : String}
    (decoded : decodeUtf8 bytes = some text) : encodeUtf8 text = bytes := by
  unfold decodeUtf8 String.fromUTF8? at decoded
  split at decoded
  next => exact Option.some.inj decoded ▸ rfl
  next => cases decoded

/-- Line ends are read as line feeds. -/
def universalNewlines (text : String) : String :=
  String.ofList (go text.toList)
where
  go : List Char → List Char
    | '\r' :: '\n' :: rest => '\n' :: go rest
    | '\r' :: rest => '\n' :: go rest
    | c :: rest => c :: go rest
    | [] => []

/-- Text without carriage returns is read as it is. -/
theorem universalNewlines_of_not_mem {text : String} (absent : '\r' ∉ text.toList) :
    universalNewlines text = text := by
  have unchanged : ∀ chars : List Char, '\r' ∉ chars → universalNewlines.go chars = chars := by
    intro chars
    induction chars with
    | nil => intro _; rfl
    | cons c rest ih =>
        intro absent
        obtain ⟨other, later⟩ := not_or.mp (mt List.mem_cons.mpr absent)
        rw [universalNewlines.go, ih later]
        · rintro rest rfl
          exact absurd rfl other
        · rintro rfl
          exact absurd rfl other
  rw [universalNewlines, unchanged _ absent, String.ofList_toList]

/-- The characters of a text without its line ends. -/
def withoutLineEnds (text : String) : List Char :=
  text.toList.filter fun c => c ≠ '\r' ∧ c ≠ '\n'

theorem withoutLineEnds_append (left right : String) :
    withoutLineEnds (left ++ right) = withoutLineEnds left ++ withoutLineEnds right := by
  rw [withoutLineEnds, String.toList_append, List.filter_append]
  rfl

/-- Reading line ends changes nothing else. -/
theorem withoutLineEnds_universalNewlines (text : String) :
    withoutLineEnds (universalNewlines text) = withoutLineEnds text := by
  have unchanged : ∀ chars : List Char,
      ((universalNewlines.go chars).filter fun c => c ≠ '\r' ∧ c ≠ '\n') =
        chars.filter fun c => c ≠ '\r' ∧ c ≠ '\n' := by
    intro chars
    fun_induction universalNewlines.go chars with
    | case1 rest ih => simpa using ih
    | case2 rest _ ih => simpa using ih
    | case3 c rest _ _ ih => rw [List.filter_cons, List.filter_cons, ih]
    | case4 => rfl
  rw [withoutLineEnds, universalNewlines, String.toList_ofList]
  exact unchanged _

/-- Read a file as text. -/
def readText (bytes : Bytes) : Option String :=
  (decodeUtf8 bytes).map universalNewlines

theorem readText_encodeUtf8 {text : String} (absent : '\r' ∉ text.toList) :
    readText (encodeUtf8 text) = some text := by
  simp [readText, universalNewlines_of_not_mem absent]

/-! ## The encoding of JSON -/

inductive Encoding
  | utf8
  | utf8Sig
  | utf16
  | utf16be
  | utf16le
  | utf32
  | utf32be
  | utf32le
  deriving DecidableEq, Repr

/-- The encoding of a JSON text: a byte order mark, or the zeros among the first bytes. -/
def detectEncoding (bytes : Bytes) : Encoding :=
  match bytes.data.toList with
  | 0x00 :: 0x00 :: 0xfe :: 0xff :: _ | 0xff :: 0xfe :: 0x00 :: 0x00 :: _ => .utf32
  | 0xfe :: 0xff :: _ | 0xff :: 0xfe :: _ => .utf16
  | 0xef :: 0xbb :: 0xbf :: _ => .utf8Sig
  | b₀ :: b₁ :: b₂ :: b₃ :: _ =>
      if b₀ = 0 then if b₁ = 0 then .utf32be else .utf16be
      else if b₁ = 0 then if b₂ = 0 ∧ b₃ = 0 then .utf32le else .utf16le
      else .utf8
  | [b₀, b₁] =>
      if b₀ = 0 then .utf16be else if b₁ = 0 then .utf16le else .utf8
  | _ => .utf8

theorem toList_encodeUtf8_append (left right : String) :
    (encodeUtf8 (left ++ right)).data.toList =
      (encodeUtf8 left).data.toList ++ (encodeUtf8 right).data.toList := by
  have split : encodeUtf8 (left ++ right) = encodeUtf8 left ++ encodeUtf8 right :=
    String.toByteArray_append
  rw [split, ByteArray.data_append, Array.toList_append]

/-- Text with a byte order mark is detected. -/
theorem detectEncoding_of_mark (text : String) :
    detectEncoding (encodeUtf8 ("\uFEFF" ++ text)) = .utf8Sig := by
  have bytes : (encodeUtf8 ("\uFEFF" ++ text)).data.toList =
      0xef :: 0xbb :: 0xbf :: (encodeUtf8 text).data.toList := by
    have mark : (encodeUtf8 "\uFEFF").data.toList = [0xef, 0xbb, 0xbf] := by decide
    rw [toList_encodeUtf8_append, mark]
    rfl
  rw [detectEncoding, bytes]
  rfl

/-- What is detected as plain UTF-8 does not start with a byte order mark. -/
theorem head?_ne_mark {text : String} (detected : detectEncoding (encodeUtf8 text) = .utf8) :
    text.toList.head? ≠ some '\uFEFF' := by
  intro marked
  obtain ⟨rest, chars⟩ := List.head?_eq_some_iff.mp marked
  have split : text = "\uFEFF" ++ String.ofList rest := by
    rw [← String.toList_inj, chars]
    simp
  rw [split, detectEncoding_of_mark] at detected
  cases detected

/-- Text which starts with a bracket and a character of ASCII is detected as plain UTF-8. -/
theorem detectEncoding_of_bracket {start : String} {first second : UInt8}
    (ascii : (encodeUtf8 start).data.toList = [first, second])
    (bracket : first = 0x7b ∨ first = 0x5b) (nonzero : second ≠ 0) (rest : String) :
    detectEncoding (encodeUtf8 (start ++ rest)) = .utf8 := by
  have bytes : (encodeUtf8 (start ++ rest)).data.toList =
      first :: second :: (encodeUtf8 rest).data.toList := by
    rw [toList_encodeUtf8_append, ascii]
    rfl
  rw [detectEncoding, bytes]
  -- With the first byte given, the patterns are decided by how many bytes follow.
  rcases bracket with rfl | rfl
  · rcases (encodeUtf8 rest).data.toList with _ | ⟨third, _ | ⟨fourth, others⟩⟩
    · exact if_neg nonzero
    · rfl
    · exact if_neg nonzero
  · rcases (encodeUtf8 rest).data.toList with _ | ⟨third, _ | ⟨fourth, others⟩⟩
    · exact if_neg nonzero
    · rfl
    · exact if_neg nonzero

example : detectEncoding (encodeUtf8 "{}") = .utf8 := by decide

end ZeroShield.Foundation
