import ZeroShield.Foundation.PercentEncoding
import ZeroShield.Strategies.Domains

/-!
# Canonical paths

The mitigation looks for fixed markers in the lowered path.  They cover the parent segment written
with two dots or with two escapes, and the escape of the character NUL.
-/

namespace ZeroShield.Strategies

open Foundation Models Runners

/-- The octet which separates the segments of a path. -/
def slash : UInt8 := 0x2f

/-- The segment of the parent directory. -/
def parent : List UInt8 := [0x2e, 0x2e]

/-- After one round of decoding the path has no parent segment and no NUL. -/
def Canonical (path : String) : Prop :=
  parent ∉ (percentDecode path.toList).splitOn slash ∧ 0 ∉ percentDecode path.toList

/-- The parent segment with one dot escaped. -/
def mixedDots : List (List Piece) :=
  [[.character '.', .escape '2' 'e'], [.character '.', .escape '2' 'E'],
    [.escape '2' 'e', .character '.'], [.escape '2' 'E', .character '.']]

/-- The path has no segment with one dot escaped and no literal NUL. -/
def CanonicallySpelled (path : String) : Prop :=
  (∀ segment ∈ segments slash (pieces path.toList), segment ∉ mixedDots) ∧ '\x00' ∉ path.toList

instance : DecidablePred CanonicallySpelled := fun path => by
  unfold CanonicallySpelled
  infer_instance

section Spelling

variable {path : String} {piece : Piece}

/-- How a dot is written. -/
def dots : List Piece := [.character '.', .escape '2' 'e', .escape '2' 'E']

/-- How NUL is written. -/
def nuls : List Piece := [.character '\x00', .escape '0' '0']

/-- The escapes of an octet. -/
theorem escapes_of_octet {high low : Char} (digits : high ∈ hexDigits ∧ low ∈ hexDigits) :
    ((Piece.escape high low).octets = [0x2e] → .escape high low ∈ dots) ∧
      ((Piece.escape high low).octets = [0] → .escape high low ∈ nuls) := by
  have all : ∀ high ∈ hexDigits, ∀ low ∈ hexDigits,
      ((Piece.escape high low).octets = [0x2e] → .escape high low ∈ dots) ∧
        ((Piece.escape high low).octets = [0] → .escape high low ∈ nuls) := by decide
  exact all high digits.1 low digits.2

theorem mem_dots (written : piece ∈ pieces path.toList) (denotes : piece.octets = [0x2e]) :
    piece ∈ dots := by
  cases piece with
  | character c =>
      obtain rfl := Piece.eq_of_character denotes (by decide)
      decide
  | escape high low => exact (escapes_of_octet (digits_of_mem_pieces written)).1 denotes

theorem mem_nuls (written : piece ∈ pieces path.toList) (denotes : piece.octets = [0]) :
    piece ∈ nuls := by
  cases piece with
  | character c =>
      obtain rfl := Piece.eq_of_character denotes (by decide)
      decide
  | escape high low => exact (escapes_of_octet (digits_of_mem_pieces written)).2 denotes

theorem parent_ascii : ∀ octet ∈ parent, octet < 0x80 := by
  intro octet member
  obtain rfl : octet = 0x2e := by simpa [parent] using member
  decide

/-- The parent segments are those of two dots. -/
theorem parent_mem_iff : parent ∈ (percentDecode path.toList).splitOn slash ↔
    ∃ first ∈ dots, ∃ second ∈ dots, [first, second] ∈ segments slash (pieces path.toList) := by
  rw [percentDecode, splitOn_flatMap_octets (by decide), List.mem_map]
  constructor
  · rintro ⟨segment, member, decoded⟩
    rw [flatMap_octets_eq parent_ascii] at decoded
    obtain ⟨first, rest, rfl, isFirst, decoded⟩ := List.map_eq_cons_iff.mp decoded
    obtain ⟨second, rest, rfl, isSecond, decoded⟩ := List.map_eq_cons_iff.mp decoded
    obtain rfl := List.map_eq_nil_iff.mp decoded
    have inside := (infix_of_mem_splitOnP member).subset
    exact ⟨first, mem_dots (inside (by simp)) isFirst, second, mem_dots (inside (by simp)) isSecond,
      member⟩
  · rintro ⟨first, isFirst, second, isSecond, member⟩
    have denotes : ∀ piece ∈ dots, piece.octets = [0x2e] := by decide
    refine ⟨_, member, (flatMap_octets_eq parent_ascii).mpr ?_⟩
    rw [List.map_cons, List.map_singleton, denotes first isFirst, denotes second isSecond]
    rfl

/-- The octet NUL is written in one of two ways. -/
theorem nul_mem_iff : 0 ∈ percentDecode path.toList ↔
    ∃ piece ∈ nuls, piece ∈ pieces path.toList := by
  rw [percentDecode, List.mem_flatMap]
  constructor
  · rintro ⟨piece, written, member⟩
    exact ⟨piece, mem_nuls written (Piece.octets_eq_of_mem member (by decide)), written⟩
  · rintro ⟨piece, isNul, written⟩
    have denotes : ∀ piece ∈ nuls, piece.octets = [0] := by decide
    exact ⟨piece, written, by rw [denotes piece isNul]; exact List.mem_singleton_self _⟩

end Spelling

/-! ## Accepted paths -/

section Accepted

variable {builtins : Builtins} {inputData : Json} {path : String}

/-- An accepted request has a path. -/
theorem path_of_passes
    (passes : StrictSchemaCanonicalisationMitigation.Passes builtins inputData) :
    ∃ path, get inputData "path" = .str path := by
  have text := passes.texts.2
  cases found : get inputData "path" with
  | str path => exact ⟨path, rfl⟩
  | _ =>
      rw [found] at text
      cases text

/-- The path which is checked is the one which is given. -/
theorem getD_of_get {key : String} {text : String} (given : get inputData key = .str text)
    (default : Json) : getD inputData key default = .str text := by
  cases inputData with
  | obj fields =>
      rw [get, getD] at given
      rw [getD]
      cases found : fields.lookup key with
      | none =>
          rw [found] at given
          cases given
      | some value =>
          rw [found] at given
          exact given
  | _ => cases given

/-- No marker occurs in the lowered path. -/
theorem not_infix_of_passes
    (passes : StrictSchemaCanonicalisationMitigation.Passes builtins inputData)
    (given : get inputData "path" = .str path) {part : List Piece}
    (inside : part <:+: pieces path.toList)
    (ascii : ∀ c ∈ part.flatMap Piece.text, c.toNat < 128) :
    (part.flatMap Piece.text).map Char.toLower ∉
      StrictSchemaCanonicalisationMitigation.pathTraversalMarkers.map String.toList := by
  intro marked
  obtain ⟨marker, member, same⟩ := List.mem_map.mp marked
  have unmarked := passes.path
  rw [StrictSchemaCanonicalisationMitigation.failsPathCanonicalisationCheck, getD_of_get given,
    List.any_eq_false] at unmarked
  refine unmarked marker member (decide_eq_true ?_)
  rw [same]
  exact builtins.infix_lower (infix_text inside) ascii

/-- A parent segment of an accepted path has one dot escaped. -/
theorem mixedDots_of_dots
    (passes : StrictSchemaCanonicalisationMitigation.Passes builtins inputData)
    (given : get inputData "path" = .str path) {first second : Piece} (isFirst : first ∈ dots)
    (isSecond : second ∈ dots) (member : [first, second] ∈ segments slash (pieces path.toList)) :
    [first, second] ∈ mixedDots := by
  have cases_ : ∀ first ∈ dots, ∀ second ∈ dots, [first, second] ∉ mixedDots →
      (∀ c ∈ [first, second].flatMap Piece.text, c.toNat < 128) ∧
        ([first, second].flatMap Piece.text).map Char.toLower ∈
          StrictSchemaCanonicalisationMitigation.pathTraversalMarkers.map String.toList := by
    decide
  by_contra unmixed
  obtain ⟨ascii, marked⟩ := cases_ first isFirst second isSecond unmixed
  exact not_infix_of_passes passes given (infix_of_mem_splitOnP member) ascii marked

/-- A NUL of an accepted path is literal. -/
theorem literal_of_nul
    (passes : StrictSchemaCanonicalisationMitigation.Passes builtins inputData)
    (given : get inputData "path" = .str path) {piece : Piece} (isNul : piece ∈ nuls)
    (written : piece ∈ pieces path.toList) : piece = .character '\x00' := by
  have inside : [piece] <:+: pieces path.toList := infix_of_mem written
  simp only [nuls, List.mem_cons, List.not_mem_nil, or_false] at isNul
  rcases isNul with rfl | rfl
  · rfl
  · exact absurd (by decide) (not_infix_of_passes passes given inside (by decide))

theorem mem_of_character {c : Char} (written : .character c ∈ pieces path.toList) :
    c ∈ path.toList := by
  have inside := infix_text (infix_of_mem written)
  exact inside.subset List.mem_cons_self

/-- NUL is no part of an escape. -/
theorem nul_mem_pieces (literal : '\x00' ∈ path.toList) :
    .character '\x00' ∈ pieces path.toList := by
  rw [← flatMap_text_pieces path.toList, List.mem_flatMap] at literal
  obtain ⟨piece, written, member⟩ := literal
  cases piece with
  | character c =>
      obtain rfl := List.mem_singleton.mp member
      exact written
  | escape high low =>
      obtain ⟨first, second⟩ := digits_of_mem_pieces written
      have digits : '\x00' ∉ hexDigits := by decide
      simp only [Piece.text, List.mem_cons, List.not_mem_nil, or_false] at member
      rcases member with impossible | rfl | rfl
      · exact absurd impossible (by decide)
      · exact absurd first digits
      · exact absurd second digits

/-- The path of an accepted request is canonical exactly if it is spelled canonically. -/
theorem canonical_iff_of_accepted (builtins : Builtins) {inputData : Json}
    (accepted : decisionOf (mitigation builtins .vpn inputData) = .accepted) :
    ∃ path, get inputData "path" = .str path ∧ (Canonical path ↔ CanonicallySpelled path) := by
  have passes := StrictSchemaCanonicalisationMitigation.accepts_iff.mp accepted
  obtain ⟨path, given⟩ := path_of_passes passes
  refine ⟨path, given, and_congr ?_ ?_⟩
  · rw [parent_mem_iff]
    constructor
    · intro none segment member mixed
      have isDots : ∀ segment ∈ mixedDots, ∃ first ∈ dots, ∃ second ∈ dots,
          segment = [first, second] := by decide
      obtain ⟨first, isFirst, second, isSecond, rfl⟩ := isDots segment mixed
      exact none ⟨first, isFirst, second, isSecond, member⟩
    · rintro none ⟨first, isFirst, second, isSecond, member⟩
      exact none _ member (mixedDots_of_dots passes given isFirst isSecond member)
  · rw [nul_mem_iff, not_iff_not]
    constructor
    · rintro ⟨piece, isNul, written⟩
      rw [literal_of_nul passes given isNul written] at written
      exact mem_of_character written
    · intro literal
      exact ⟨_, by decide, nul_mem_pieces literal⟩

end Accepted

/-! ## Sample requests -/

namespace Sample

/-- A request which is accepted if its path is. -/
def request (path : String) : Json :=
  .obj
    [("method", .str "GET"), ("path", .str path), ("headers", .arr [header "Host" "vpn"]),
      ("declared_content_length", .int 0), ("actual_body_length", .int 0),
      ("encoding", .str "utf-8")]

end Sample

/-- The sample path with an escaped separator is canonical. -/
theorem canonical_of_sample : Canonical "/remote/login%2f.config" := by
  have accepted : decisionOf (mitigation Sample.builtins .vpn
      (Sample.request "/remote/login%2f.config")) = .accepted := by decide
  obtain ⟨path, given, canonical⟩ := canonical_iff_of_accepted Sample.builtins accepted
  obtain rfl := Json.str.inj given
  exact canonical.mpr (by decide)

/-- The parent directory is accepted with its second dot escaped. -/
theorem not_canonical_of_mixed :
    ¬ ∀ (builtins : Builtins) (inputData : Json),
      decisionOf (mitigation builtins .vpn inputData) = .accepted →
        ∃ path, get inputData "path" = .str path ∧ Canonical path := by
  intro claim
  have accepted : decisionOf (mitigation Sample.builtins .vpn
      (Sample.request "/remote/.%2e/internal")) = .accepted := by decide
  obtain ⟨path, given, canonical⟩ := claim _ _ accepted
  obtain rfl := Json.str.inj given
  refine canonical.1 ?_
  decide

end ZeroShield.Strategies
