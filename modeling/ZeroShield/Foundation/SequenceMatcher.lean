import Mathlib.Data.List.Basic
import Mathlib.Data.Rat.Defs
import Mathlib.Algebra.Order.Field.Rat
import Mathlib.Tactic.Positivity

/-!
# Matching sequences

Two sequences are matched by their longest common block and, on each side of it, by what is left.
The block is the one which starts first in the first sequence, so the number of matches may depend
on the order of the sequences.
-/

namespace ZeroShield.Foundation.SequenceMatcher

variable {α : Type*} [DecidableEq α]

/-- A block of equal elements: where it starts in each sequence, and its size. -/
structure Block where
  first : ℕ
  second : ℕ
  size : ℕ
  deriving DecidableEq, Repr

/-- The block lies within sequences of these lengths. -/
def Block.Within (block : Block) (firstLength secondLength : ℕ) : Prop :=
  block.first + block.size ≤ firstLength ∧ block.second + block.size ≤ secondLength

/-! ## Common prefixes -/

/-- The number of elements at the start in which two sequences agree and which count. -/
def agreement (counts : α → Bool) : List α → List α → ℕ
  | a :: first, b :: second => if a = b ∧ counts b then agreement counts first second + 1 else 0
  | _, _ => 0

theorem agreement_le (counts : α → Bool) (first second : List α) :
    agreement counts first second ≤ first.length ∧
      agreement counts first second ≤ second.length := by
  induction first generalizing second with
  | nil => simp [agreement]
  | cons a first ih =>
      cases second with
      | nil => simp [agreement]
      | cons b second =>
          have shorter := ih second
          simp only [agreement, List.length_cons]
          split <;> omega

/-! ## The longest block -/

/-- The longest block at every pair of positions, in the order of the first sequence. -/
def blocks (counts : α → Bool) (first second : List α) : List Block :=
  (List.range first.length).flatMap fun i => (List.range second.length).map fun j =>
    ⟨i, j, agreement counts (first.drop i) (second.drop j)⟩

/-- A block is replaced by one which is longer. -/
def longer (best block : Block) : Block :=
  if best.size < block.size then block else best

/-- Extend a block on both sides by elements which agree, whether or not they count. -/
def extend (first second : List α) (block : Block) : Block :=
  let before := agreement (fun _ => true) (first.take block.first).reverse
    (second.take block.second).reverse
  let behind := agreement (fun _ => true) (first.drop (block.first + block.size))
    (second.drop (block.second + block.size))
  ⟨block.first - before, block.second - before, before + block.size + behind⟩

/-- The longest block, the first one in the first sequence and then in the second. -/
def findLongestMatch (counts : α → Bool) (first second : List α) : Block :=
  extend first second ((blocks counts first second).foldl longer ⟨0, 0, 0⟩)

theorem within_of_mem_blocks {counts : α → Bool} {first second : List α} {block : Block}
    (listed : block ∈ blocks counts first second) :
    block.Within first.length second.length := by
  simp only [blocks, List.mem_flatMap, List.mem_map, List.mem_range] at listed
  obtain ⟨i, left, j, right, rfl⟩ := listed
  have short := agreement_le counts (first.drop i) (second.drop j)
  rw [List.length_drop, List.length_drop] at short
  constructor
  · dsimp only
    omega
  · dsimp only
    omega

theorem within_foldl_longer {candidates : List Block} {best : Block} {firstLength secondLength : ℕ}
    (within : best.Within firstLength secondLength)
    (candidatesWithin : ∀ block ∈ candidates, block.Within firstLength secondLength) :
    (candidates.foldl longer best).Within firstLength secondLength := by
  induction candidates generalizing best with
  | nil => exact within
  | cons block candidates ih =>
      apply ih
      · unfold longer
        split
        · exact candidatesWithin block List.mem_cons_self
        · exact within
      · exact fun other listed => candidatesWithin other (List.mem_cons_of_mem _ listed)

theorem within_extend {first second : List α} {block : Block}
    (within : block.Within first.length second.length) :
    (extend first second block).Within first.length second.length := by
  have before := agreement_le (fun _ => true) (first.take block.first).reverse
    (second.take block.second).reverse
  have behind := agreement_le (fun _ => true) (first.drop (block.first + block.size))
    (second.drop (block.second + block.size))
  obtain ⟨left, right⟩ := within
  simp only [List.length_reverse, List.length_take, List.length_drop] at before behind
  constructor
  · simp only [extend]
    omega
  · simp only [extend]
    omega

/-- The longest block lies within the sequences. -/
theorem within_findLongestMatch (counts : α → Bool) (first second : List α) :
    (findLongestMatch counts first second).Within first.length second.length := by
  apply within_extend
  apply within_foldl_longer
  · exact ⟨Nat.zero_le _, Nat.zero_le _⟩
  · exact fun block listed => within_of_mem_blocks listed

/-! ## The number of matches -/

/-- The number of elements in the longest block and in the blocks on each side of it. -/
def matchCount (counts : α → Bool) (first second : List α) : ℕ :=
  let block := findLongestMatch counts first second
  if _found : 0 < block.size then
    block.size + matchCount counts (first.take block.first) (second.take block.second) +
      matchCount counts (first.drop (block.first + block.size))
        (second.drop (block.second + block.size))
  else
    0
termination_by first.length
decreasing_by
  all_goals
    have within := (within_findLongestMatch counts first second).1
    change 0 < (findLongestMatch counts first second).size at _found
    simp only [List.length_take, List.length_drop]
    omega

section MatchCount

variable {counts : α → Bool} {first second : List α} {block : Block}

theorem matchCount_of_found (longest : findLongestMatch counts first second = block)
    (found : 0 < block.size) :
    matchCount counts first second =
      block.size + matchCount counts (first.take block.first) (second.take block.second) +
        matchCount counts (first.drop (block.first + block.size))
          (second.drop (block.second + block.size)) := by
  subst longest
  rw [matchCount]
  exact if_pos found

theorem matchCount_of_missing (longest : findLongestMatch counts first second = block)
    (missing : block.size = 0) : matchCount counts first second = 0 := by
  subst longest
  rw [matchCount]
  exact if_neg (by omega)

end MatchCount

/-- There are no more matches than elements in either sequence. -/
theorem matchCount_le (counts : α → Bool) (first second : List α) :
    matchCount counts first second ≤ first.length ∧
      matchCount counts first second ≤ second.length := by
  induction first, second using matchCount.induct counts with
  | case1 first second block found before behind =>
      have within : block.Within first.length second.length :=
        within_findLongestMatch counts first second
      obtain ⟨left, right⟩ := within
      have count : matchCount counts first second =
          block.size + matchCount counts (first.take block.first) (second.take block.second) +
            matchCount counts (first.drop (block.first + block.size))
              (second.drop (block.second + block.size)) := matchCount_of_found rfl found
      simp only [List.length_take, List.length_drop] at before behind
      omega
  | case2 first second block missing =>
      rw [matchCount_of_missing rfl (Nat.eq_zero_of_not_pos missing)]
      omega

/-! ## The ratio -/

/-- In a long sequence an element which makes up more than a hundredth of it, and one more, does not
start a block. -/
def isPopular (second : List α) (element : α) : Bool :=
  200 ≤ second.length && second.length / 100 + 1 < second.count element

/-- The number of matches, with or without the rule on popular elements. -/
def matched (autojunk : Bool) (first second : List α) : ℕ :=
  matchCount (fun element => !(autojunk && isPopular second element)) first second

/-- Twice the number of matches in the number of elements. -/
def ratio (autojunk : Bool) (first second : List α) : ℚ :=
  if first.length + second.length = 0 then 1
  else 2 * matched autojunk first second / (first.length + second.length : ℕ)

theorem ratio_le_one (autojunk : Bool) (first second : List α) :
    ratio autojunk first second ≤ 1 := by
  unfold ratio
  split
  · exact le_refl 1
  next present =>
    have positive : (0 : ℚ) < (first.length + second.length : ℕ) := by
      exact_mod_cast Nat.pos_of_ne_zero present
    have bounds := matchCount_le (fun element => !(autojunk && isPopular second element))
      first second
    have few : 2 * matched autojunk first second ≤ first.length + second.length := by
      unfold matched
      omega
    rw [div_le_one positive]
    exact_mod_cast few

/-- The ratio depends on the order exactly when the number of matches does. -/
theorem ratio_comm_iff (autojunk : Bool) (first second : List α) :
    ratio autojunk first second = ratio autojunk second first ↔
      matched autojunk first second = matched autojunk second first := by
  unfold ratio
  rw [Nat.add_comm second.length]
  split
  next empty =>
    have forward := matchCount_le (fun element => !(autojunk && isPopular second element))
      first second
    have backward := matchCount_le (fun element => !(autojunk && isPopular first element))
      second first
    refine iff_of_true rfl ?_
    unfold matched
    omega
  next present =>
    have positive : ((first.length + second.length : ℕ) : ℚ) ≠ 0 := by exact_mod_cast present
    rw [div_left_inj' positive, mul_right_inj' two_ne_zero, Nat.cast_inj]

end ZeroShield.Foundation.SequenceMatcher
