import ZeroShield.Runners.ExperimentRunner

/-!
# Values of unexpected types

A strategy looks at arbitrary JSON: numbers and truth values compare by their value, containers have
no hash, and looking one up in a set raises.
-/

namespace ZeroShield.Strategies

open Foundation Models Runners

/-- The texts which the strategies let the language make. -/
structure Builtins where
  /-- The text of a value which is not a text. -/
  repr : Json → String
  /-- The lower case of a character which is not ASCII, between those before and after it. -/
  lowerCase : List Char → Char → List Char → List Char

namespace Builtins

variable (builtins : Builtins)

def str : Json → String
  | .str text => text
  | other => builtins.repr other

/-- The lower case of the characters after some others, the nearest of which comes first. -/
def lowerAfter (before : List Char) : List Char → List Char
  | [] => []
  | c :: rest =>
      (if c.toNat < 128 then [c.toLower] else builtins.lowerCase before c rest) ++
        lowerAfter (c :: before) rest

def lower (text : String) : List Char :=
  builtins.lowerAfter [] text.toList

theorem lowerAfter_append (before first second : List Char) :
    ∃ lowered, builtins.lowerAfter before (first ++ second) =
      lowered ++ builtins.lowerAfter (first.reverse ++ before) second := by
  induction first generalizing before with
  | nil => exact ⟨[], rfl⟩
  | cons c first ih =>
      obtain ⟨lowered, same⟩ := ih (c :: before)
      refine ⟨(if c.toNat < 128 then [c.toLower] else
        builtins.lowerCase before c (first ++ second)) ++ lowered, ?_⟩
      rw [List.cons_append, lowerAfter, same, List.append_assoc, List.reverse_cons,
        List.append_assoc]
      rfl

theorem lowerAfter_ascii (before : List Char) {text : List Char} (rest : List Char)
    (ascii : ∀ c ∈ text, c.toNat < 128) :
    builtins.lowerAfter before (text ++ rest) =
      text.map Char.toLower ++ builtins.lowerAfter (text.reverse ++ before) rest := by
  induction text generalizing before with
  | nil => rfl
  | cons c text ih =>
      rw [List.cons_append, lowerAfter, if_pos (ascii c List.mem_cons_self),
        ih (c :: before) fun other member => ascii other (List.mem_cons_of_mem _ member)]
      simp

/-- ASCII is lowered where it stands. -/
theorem infix_lower {text : String} {part : List Char} (inside : part <:+: text.toList)
    (ascii : ∀ c ∈ part, c.toNat < 128) : part.map Char.toLower <:+: builtins.lower text := by
  obtain ⟨before, after, same⟩ := inside
  obtain ⟨lowered, split⟩ := builtins.lowerAfter_append [] before (part ++ after)
  rw [lower, ← same, List.append_assoc, split, lowerAfter_ascii _ _ _ ascii]
  exact ⟨lowered, _, List.append_assoc _ _ _⟩

theorem lower_ascii {text : String} (ascii : ∀ c ∈ text.toList, c.toNat < 128) :
    builtins.lower text = text.toList.map Char.toLower := by
  have whole := builtins.lowerAfter_ascii [] [] ascii
  rw [List.append_nil] at whole
  rw [lower, whole]
  exact List.append_nil _

end Builtins

/-! ## Looking at values -/

/-- The value of a key, or a default. -/
def getD (inputData : Json) (key : String) (default : Json) : Json :=
  match inputData with
  | .obj fields => (fields.lookup key).getD default
  | _ => default

/-- The value of a key, or null. -/
def get (inputData : Json) (key : String) : Json :=
  getD inputData key .null

/-- Truth values are integers. -/
def int? : Json → Option ℤ
  | .int number => some number
  | .bool true => some 1
  | .bool false => some 0
  | _ => none

/-- The value of a number. -/
def number? : Json → Option ℚ
  | .float number => some number
  | other => (int? other).map fun number => (number : ℚ)

def asList : Json → List Json
  | .arr items => items
  | _ => []

/-- The items of a list which are pairs. -/
def pairs (value : Json) : List (Json × Json) :=
  (asList value).filterMap fun
    | .arr [first, second] => some (first, second)
    | _ => none

mutual

/-- Equality of values. -/
def equal : Json → Json → Bool
  | .null, .null => true
  | .str left, .str right => left = right
  | .arr left, .arr right => equalItems left right
  | .obj left, .obj right => left.length = right.length && equalFields left right
  | left, right =>
      match number? left, number? right with
      | some left, some right => left = right
      | _, _ => false

def equalItems : List Json → List Json → Bool
  | [], [] => true
  | left :: lefts, right :: rights => equal left right && equalItems lefts rights
  | _, _ => false

/-- Every field has an equal value in the other object. -/
def equalFields : List (String × Json) → List (String × Json) → Bool
  | [], _ => true
  | (name, left) :: fields, others =>
      (others.lookup name).any (equal left) && equalFields fields others

end

theorem equal_str {value : Json} {text : String} : equal value (.str text) ↔ value = .str text := by
  cases value <;> simp [equal, number?, int?]

theorem str_equal {value : Json} {text : String} : equal (.str text) value ↔ value = .str text := by
  cases value <;> simp [equal, number?, int?, eq_comm]

theorem null_equal {value : Json} : equal .null value ↔ value = .null := by
  cases value <;> simp [equal, number?, int?]

theorem equal_null {value : Json} : equal value .null ↔ value = .null := by
  cases value <;> simp [equal, number?, int?]

/-- An exception, with the text it has in the language. -/
def typeError (text : String) : StrategyException :=
  ⟨text, "TypeError"⟩

/-- Lists and dictionaries have no hash. -/
def hash : Json → Except StrategyException Unit
  | .arr _ => .error (typeError "unhashable type: 'list'")
  | .obj _ => .error (typeError "unhashable type: 'dict'")
  | _ => .ok ()

/-- Whether some keys are equal. -/
def hasDuplicate : List Json → Bool
  | [] => false
  | key :: keys => keys.any (equal key) || hasDuplicate keys

/-- The keys of pairs as a set, which all of them must be hashable for. -/
def keySet (pairs : List (Json × Json)) : Except StrategyException (List Json) := do
  pairs.forM fun pair => hash pair.1
  return pairs.map (·.1)

/-! ## Deciding -/

/-- The first check which succeeds or raises decides. -/
def anyOf : List (Except StrategyException Bool) → Except StrategyException Bool
  | [] => .ok false
  | check :: checks => do
      if ← check then return true
      else anyOf checks

theorem anyOf_eq_false {checks : List (Except StrategyException Bool)} :
    anyOf checks = .ok false ↔ ∀ check ∈ checks, check = .ok false := by
  induction checks with
  | nil => simp [anyOf]
  | cons check checks ih =>
      rw [List.forall_mem_cons, ← ih, anyOf]
      rcases check with _ | _ | _
      · exact ⟨nofun, fun both => nomatch both.1⟩
      · exact ⟨fun rest => ⟨rfl, rest⟩, And.right⟩
      · exact ⟨nofun, fun both => nomatch both.1⟩

/-- The decision which the runner records for an answer: a strategy which raises has blocked. -/
def decisionOf (answer : Except StrategyException StrategyOutcome) : Decision :=
  match answer with
  | .error _ => .blocked
  | .ok outcome => outcome.decision

/-- The result of a case has the decision of its answer. -/
theorem decision_of_executeCase {runId : String} {case : TestCase} {attempt : Attempt}
    {result : CaseResult} (executed : executeCase runId case attempt = .ok result) :
    result.decision = decisionOf attempt.answer := by
  unfold executeCase at executed
  split at executed
  next raised =>
    obtain ⟨-, rfl⟩ := CaseResult.validate_eq_ok.mp executed
    rw [raised]
    rfl
  next answered =>
    obtain ⟨-, rfl⟩ := CaseResult.validate_eq_ok.mp executed
    rw [answered]
    rfl

/-- What a strict mitigation makes of its check. -/
def outcomeOf (malformed : Bool) : StrategyOutcome :=
  if malformed then { decision := .blocked, parserReached := false, logged := true }
  else { decision := .accepted, parserReached := true, logged := false }

/-- A mitigation accepts what passes all of its checks. -/
theorem accepts_iff {checks : List (Except StrategyException Bool)} :
    decisionOf (outcomeOf <$> anyOf checks) = .accepted ↔ ∀ check ∈ checks, check = .ok false := by
  rw [← anyOf_eq_false]
  rcases anyOf checks with _ | _ | _
  · exact ⟨nofun, nofun⟩
  · exact ⟨fun _ => rfl, fun _ => rfl⟩
  · exact ⟨nofun, nofun⟩

theorem blocked_iff {answer : Except StrategyException StrategyOutcome} :
    decisionOf answer = .blocked ↔ decisionOf answer ≠ .accepted := by
  cases decisionOf answer <;> decide

end ZeroShield.Strategies
