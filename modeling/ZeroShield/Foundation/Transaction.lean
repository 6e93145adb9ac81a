import Mathlib.Data.List.Basic

/-!
# Fallible computations on a state

A computation reads and updates a state and may fail; what it wrote before it failed is kept.  A
triple says what holds of the state after it returns and after it fails.
-/

namespace ZeroShield.Foundation

/-- A computation on a state which returns a value or fails, and leaves a state in either case. -/
def Transaction (σ ε α : Type) : Type :=
  σ → Except ε α × σ

namespace Transaction

variable {σ ε α β : Type}

instance : Monad (Transaction σ ε) where
  pure value := fun state => (.ok value, state)
  bind first next := fun state =>
    match first state with
    | (.ok value, later) => next value later
    | (.error error, later) => (.error error, later)

/-- Read from the state. -/
def read (f : σ → α) : Transaction σ ε α := fun state => (.ok (f state), state)

/-- Update the state. -/
def update (f : σ → σ) : Transaction σ ε Unit := fun state => (.ok (), f state)

/-- Fail. -/
def fail (error : ε) : Transaction σ ε α := fun state => (.error error, state)

/-- Continue with a value computed without the state, or fail. -/
def lift (value : Except ε α) : Transaction σ ε α := fun state => (value, state)

/-- Do the same for each item and collect what is returned. -/
def collect (step : α → Transaction σ ε (Option β)) : List α → Transaction σ ε (List β)
  | [] => pure []
  | item :: items => do
      let first ← step item
      let rest ← collect step items
      return first.toList ++ rest

/-- Ignore a failure, keeping what was written before it. -/
def ignoreFailure (program : Transaction σ ε Unit) : Transaction σ ε Unit :=
  fun state => (.ok (), (program state).2)

@[simp] theorem pure_apply (value : α) (state : σ) :
    (pure value : Transaction σ ε α) state = (.ok value, state) := rfl

theorem bind_apply (first : Transaction σ ε α) (next : α → Transaction σ ε β) (state : σ) :
    (first >>= next) state =
      match first state with
      | (.ok value, later) => next value later
      | (.error error, later) => (.error error, later) := rfl

/-- A sequence returns exactly when both parts do. -/
theorem bind_returned {first : Transaction σ ε α} {next : α → Transaction σ ε β} {state later : σ}
    {result : β} :
    (first >>= next) state = (.ok result, later) ↔
      ∃ value middle, first state = (.ok value, middle) ∧
        next value middle = (.ok result, later) := by
  rw [bind_apply]
  cases outcome : first state with
  | mk reached middle => cases reached <;> simp

@[simp] theorem read_bind (f : σ → α) (next : α → Transaction σ ε β) (state : σ) :
    (read f >>= next) state = next (f state) state := rfl

@[simp] theorem update_bind (f : σ → σ) (next : Unit → Transaction σ ε β) (state : σ) :
    (update f >>= next) state = next () (f state) := rfl

@[simp] theorem read_apply (f : σ → α) (state : σ) :
    (read f : Transaction σ ε α) state = (.ok (f state), state) := rfl

@[simp] theorem update_apply (f : σ → σ) (state : σ) :
    (update f : Transaction σ ε Unit) state = (.ok (), f state) := rfl

@[simp] theorem fail_apply (error : ε) (state : σ) :
    (fail error : Transaction σ ε α) state = (.error error, state) := rfl

/-! ## Triples -/

/-- From states with the precondition, a value is returned with the postcondition, or the failure
leaves what is stated for failures. -/
def Triple (pre : σ → Prop) (program : Transaction σ ε α) (post : α → σ → Prop)
    (failed : ε → σ → Prop) : Prop :=
  ∀ state, pre state →
    match program state with
    | (.ok value, later) => post value later
    | (.error error, later) => failed error later

/-- A computation which keeps an invariant and never fails. -/
def Keeps (invariant : σ → Prop) (program : Transaction σ ε α) : Prop :=
  Triple invariant program (fun _ => invariant) fun _ _ => False

namespace Triple

variable {pre : σ → Prop} {program : Transaction σ ε α} {post : α → σ → Prop}
  {failed : ε → σ → Prop}

theorem of_pure {value : α} (holds : ∀ state, pre state → post value state) :
    Triple pre (pure value : Transaction σ ε α) post failed :=
  fun state start => holds state start

theorem of_read {f : σ → α} (holds : ∀ state, pre state → post (f state) state) :
    Triple pre (read f) post failed :=
  fun state start => holds state start

/-- Reading leaves the precondition in place. -/
theorem read (f : σ → α) : Triple pre (Transaction.read f) (fun _ => pre) failed :=
  fun _ start => start

theorem of_update {f : σ → σ} {post : Unit → σ → Prop}
    (holds : ∀ state, pre state → post () (f state)) : Triple pre (update f) post failed :=
  fun state start => holds state start

/-- Sequential composition. -/
theorem bind {next : α → Transaction σ ε β} {final : β → σ → Prop}
    (first : Triple pre program post failed)
    (continues : ∀ value, Triple (post value) (next value) final failed) :
    Triple pre (program >>= next) final failed := by
  intro state start
  have reached := first state start
  rw [bind_apply]
  cases outcome : program state with
  | mk result later =>
      rw [outcome] at reached
      cases result with
      | ok value => exact continues value later reached
      | error error => exact reached

theorem conseq {weaker : σ → Prop} {stronger : α → σ → Prop} {failed' : ε → σ → Prop}
    (triple : Triple pre program post failed) (start : ∀ state, weaker state → pre state)
    (finish : ∀ value state, post value state → stronger value state)
    (failure : ∀ error state, failed error state → failed' error state) :
    Triple weaker program stronger failed' := by
  intro state weak
  have reached := triple state (start state weak)
  cases outcome : program state with
  | mk result later =>
      rw [outcome] at reached
      cases result with
      | ok value => exact finish value later reached
      | error error => exact failure error later reached

/-- A loop keeps what each step keeps. -/
theorem of_collect {invariant : σ → Prop} {step : α → Transaction σ ε (Option β)}
    {items : List α} (kept : ∀ item ∈ items, Keeps invariant (step item)) :
    Keeps invariant (collect step items) := by
  induction items with
  | nil => exact of_pure fun _ start => start
  | cons item items ih =>
      refine bind (kept item List.mem_cons_self) fun first => ?_
      refine bind (ih fun other member => kept other (List.mem_cons_of_mem _ member)) fun rest => ?_
      exact of_pure fun _ start => start

theorem of_ignoreFailure {program : Transaction σ ε Unit} {invariant : σ → Prop}
    (triple : Triple invariant program (fun _ => invariant) fun _ => invariant) :
    Keeps invariant (ignoreFailure program) := by
  intro state start
  have reached := triple state start
  cases outcome : program state with
  | mk result later =>
      rw [outcome] at reached
      cases result <;> simpa [ignoreFailure, outcome] using reached

end Triple

/-- A computation which keeps an invariant, whether it returns or fails. -/
def Preserves (invariant : σ → Prop) (program : Transaction σ ε α) : Prop :=
  Triple invariant program (fun _ => invariant) fun _ => invariant

theorem Keeps.preserves {invariant : σ → Prop} {program : Transaction σ ε α}
    (keeps : Keeps invariant program) : Preserves invariant program :=
  keeps.conseq (fun _ start => start) (fun _ _ reached => reached) fun _ _ impossible =>
    impossible.elim

namespace Preserves

variable {invariant : σ → Prop} {program : Transaction σ ε α}

theorem pure (value : α) : Preserves invariant (Pure.pure value : Transaction σ ε α) :=
  fun _ start => start

theorem read (f : σ → α) : Preserves invariant (Transaction.read f : Transaction σ ε α) :=
  fun _ start => start

theorem fail (error : ε) : Preserves invariant (Transaction.fail error : Transaction σ ε α) :=
  fun _ start => start

theorem lift (value : Except ε α) : Preserves invariant (Transaction.lift value) := by
  intro state start
  cases value with
  | ok value => exact start
  | error error => exact start

theorem update {f : σ → σ} (kept : ∀ state, invariant state → invariant (f state)) :
    Preserves invariant (Transaction.update f : Transaction σ ε Unit) :=
  kept

theorem bind {next : α → Transaction σ ε β} (first : Preserves invariant program)
    (continues : ∀ value, Preserves invariant (next value)) :
    Preserves invariant (program >>= next) :=
  Triple.bind first continues

theorem ignoreFailure {program : Transaction σ ε Unit} (preserves : Preserves invariant program) :
    Preserves invariant (Transaction.ignoreFailure program : Transaction σ ε Unit) :=
  (Triple.of_ignoreFailure preserves).preserves

/-- The state after a computation which preserves an invariant. -/
theorem state {initial : σ} (preserves : Preserves invariant program) (start : invariant initial) :
    invariant (program initial).2 := by
  have reached := preserves initial start
  cases outcome : program initial with
  | mk result later =>
      rw [outcome] at reached
      cases result <;> exact reached

end Preserves

/-- A computation which keeps an invariant returns a value and leaves it in place. -/
theorem Keeps.returns {invariant : σ → Prop} {program : Transaction σ ε α}
    (keeps : Keeps invariant program) {state : σ} (start : invariant state) :
    ∃ value later, program state = (.ok value, later) ∧ invariant later := by
  have reached := keeps state start
  cases outcome : program state with
  | mk result later =>
      rw [outcome] at reached
      cases result with
      | ok value => exact ⟨value, later, rfl, reached⟩
      | error error => exact reached.elim

/-! ## Returned values -/

/-- Every value which is returned, from whatever state, has a property. -/
def Returns (program : Transaction σ ε α) (property : α → Prop) : Prop :=
  ∀ state value, (program state).1 = .ok value → property value

namespace Returns

variable {program : Transaction σ ε α} {property : α → Prop}

theorem pure {value : α} (holds : property value) :
    Returns (Pure.pure value : Transaction σ ε α) property := by
  rintro _ _ ⟨⟩
  exact holds

theorem fail (error : ε) : Returns (Transaction.fail error : Transaction σ ε α) property := nofun

theorem bind {next : α → Transaction σ ε β} {final : β → Prop} (first : Returns program property)
    (continues : ∀ value, property value → Returns (next value) final) :
    Returns (program >>= next) final := by
  intro state value returned
  rw [bind_apply] at returned
  cases outcome : program state with
  | mk result later =>
      rw [outcome] at returned
      cases result with
      | ok middle =>
          exact continues middle (first state middle (by rw [outcome])) later value returned
      | error error => cases returned

theorem of_update_bind {f : σ → σ} {next : Unit → Transaction σ ε β} {final : β → Prop}
    (returns : Returns (next ()) final) : Returns (update f >>= next) final :=
  fun state value returned => returns (f state) value returned

end Returns

end Transaction

end ZeroShield.Foundation
