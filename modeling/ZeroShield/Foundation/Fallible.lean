import Mathlib.Data.List.Basic

/-!
# Fallible computations

How a computation which may fail succeeds.
-/

namespace ZeroShield.Foundation

variable {ε ε' α β : Type}

theorem bind_eq_ok {first : Except ε α} {next : α → Except ε β} {result : β} :
    (first >>= next) = .ok result ↔ ∃ value, first = .ok value ∧ next value = .ok result := by
  cases first <;> simp [bind, Except.bind]

/-- A run of steps which may fail keeps what every step keeps. -/
theorem foldlM_preserves {State Input : Type} {step : State → Input → Except ε State}
    {invariant : State → Prop}
    (preserves : ∀ {state input next}, step state input = .ok next → invariant state →
      invariant next)
    {inputs : List Input} {state final : State} (run : inputs.foldlM step state = .ok final)
    (start : invariant state) : invariant final := by
  induction inputs generalizing state with
  | nil =>
      cases run
      exact start
  | cons input inputs ih =>
      obtain ⟨next, stepped, later⟩ := bind_eq_ok.mp run
      exact ih later (preserves stepped start)

theorem mapError_eq_ok {first : Except ε α} {translate : ε → ε'} {result : α} :
    first.mapError translate = .ok result ↔ first = .ok result := by
  cases first <;> simp [Except.mapError]

/-- Whether a computation succeeds with a result of a kind. -/
def succeedsWith (kind : α → Bool) : Except ε α → Bool
  | .error _ => false
  | .ok result => kind result

theorem succeedsWith_iff {kind : α → Bool} {computation : Except ε α} :
    succeedsWith kind computation = true ↔
      ∃ result, computation = .ok result ∧ kind result = true := by
  cases computation <;> simp [succeedsWith]

end ZeroShield.Foundation
