import ZeroShield.Foundation.Program

/-!
# Traces of operations which may raise

A trace of a program lists the operations it tries with what they return, if they do not raise.  The
exceptions of some operations are caught, and the program continues with a default result; every
other exception ends it.
-/

namespace ZeroShield.Foundation

/-- An operation which is tried, with what it returns unless it raises. -/
structure Try (I : Interface) where
  op : I.Op
  returned : Option (I.Result op)

namespace Program

variable {I : Interface} {α β : Type}

/-- A program tries operations and returns a value, unless an exception ends it. -/
inductive Tries (caught : (op : I.Op) → Option (I.Result op)) :
    Program I α → List (Try I) → Option α → Prop
  | done (value : α) : Tries caught (.done value) [] (some value)
  | perform {op : I.Op} {next : I.Result op → Program I α} {returned : Option (I.Result op)}
      {result : I.Result op} {tries : List (Try I)} {outcome : Option α} :
      returned.or (caught op) = some result → Tries caught (next result) tries outcome →
        Tries caught (.perform op next) (⟨op, returned⟩ :: tries) outcome
  | raise {op : I.Op} {next : I.Result op → Program I α} :
      caught op = none → Tries caught (.perform op next) [⟨op, none⟩] none

variable {caught : (op : I.Op) → Option (I.Result op)} {program : Program I α}
  {next : α → Program I β} {tries : List (Try I)}

/-- A program returns if every exception is caught. -/
theorem Tries.isSome {outcome : Option α} (trace : Tries caught program tries outcome)
    (handled : ∀ tried ∈ tries, tried.returned = none → caught tried.op ≠ none) :
    ∃ value, outcome = some value := by
  induction trace with
  | done value => exact ⟨value, rfl⟩
  | perform _ _ ih => exact ih (List.forall_mem_cons.mp handled).2
  | raise uncaught => exact absurd uncaught (handled _ List.mem_cons_self rfl)

@[simp] theorem tries_done {value returned : α} :
    Tries caught (.done value : Program I α) tries (some returned) ↔
      tries = [] ∧ returned = value := by
  constructor
  · intro trace
    cases trace
    exact ⟨rfl, rfl⟩
  · rintro ⟨rfl, rfl⟩
    exact .done returned

theorem tries_perform {op : I.Op} {next : I.Result op → Program I α} {value : α} :
    Tries caught (.perform op next) tries (some value) ↔
      ∃ returned result later, returned.or (caught op) = some result ∧
        tries = ⟨op, returned⟩ :: later ∧ Tries caught (next result) later (some value) := by
  constructor
  · intro trace
    cases trace with
    | perform yields trace => exact ⟨_, _, _, yields, rfl, trace⟩
  · rintro ⟨returned, result, later, yields, rfl, trace⟩
    exact .perform yields trace

/-- A composed program tries what the first program does and then what the second does. -/
theorem tries_bind {value : β} : Tries caught (program >>= next) tries (some value) ↔
    ∃ first second middle, Tries caught program first (some middle) ∧
      Tries caught (next middle) second (some value) ∧ tries = first ++ second := by
  induction program generalizing tries with
  | done middle =>
      constructor
      · intro trace
        exact ⟨[], tries, middle, .done middle, trace, rfl⟩
      · rintro ⟨first, second, other, trace, later, rfl⟩
        obtain ⟨rfl, rfl⟩ := tries_done.mp trace
        exact later
  | perform op rest ih =>
      rw [perform_bind, tries_perform]
      constructor
      · rintro ⟨returned, result, later, yields, rfl, trace⟩
        obtain ⟨first, second, middle, begins, ends, rfl⟩ := (ih result).mp trace
        exact ⟨_, second, middle, .perform yields begins, ends, rfl⟩
      · rintro ⟨first, second, middle, trace, later, rfl⟩
        obtain ⟨returned, result, first, yields, rfl, begins⟩ := tries_perform.mp trace
        exact ⟨returned, result, first ++ second, yields, rfl,
          (ih result).mpr ⟨_, _, _, begins, later, rfl⟩⟩

theorem tries_call {op : I.Op} {value : I.Result op} :
    Tries caught (call op) tries (some value) ↔
      ∃ returned, returned.or (caught op) = some value ∧ tries = [⟨op, returned⟩] := by
  constructor
  · intro trace
    obtain ⟨returned, result, later, yields, rfl, ends⟩ := tries_perform.mp trace
    obtain ⟨rfl, rfl⟩ := tries_done.mp ends
    exact ⟨returned, yields, rfl⟩
  · rintro ⟨returned, yields, rfl⟩
    exact .perform yields (.done value)

theorem tries_call_bind {op : I.Op} {next : I.Result op → Program I β} {value : β} :
    Tries caught (call op >>= next) tries (some value) ↔
      ∃ returned result later, returned.or (caught op) = some result ∧
        tries = ⟨op, returned⟩ :: later ∧ Tries caught (next result) later (some value) :=
  tries_perform

/-- A run in which the operations of a kind raise, all of which are caught. -/
theorem exists_tries {Input World : Type} (exec : Semantics I Input World) (input : ℕ → Input)
    {raises : I.Op → Prop} (handled : ∀ op, raises op → caught op ≠ none)
    (program : Program I α) (position : ℕ) (world : World) :
    ∃ tries value, Tries caught program tries (some value) ∧
      ∀ tried ∈ tries, tried.returned = none ↔ raises tried.op := by
  induction program generalizing position world with
  | done value => exact ⟨[], value, .done value, nofun⟩
  | perform op next ih =>
      by_cases raising : raises op
      · obtain ⟨result, yields⟩ := Option.ne_none_iff_exists'.mp (handled op raising)
        obtain ⟨tries, value, trace, marks⟩ := ih result (position + 1) world
        exact ⟨⟨op, none⟩ :: tries, value, .perform yields trace,
          List.forall_mem_cons.mpr ⟨iff_of_true rfl raising, marks⟩⟩
      · obtain ⟨tries, value, trace, marks⟩ :=
          ih (exec (input position) op world).1 (position + 1) (exec (input position) op world).2
        exact ⟨⟨op, some _⟩ :: tries, value, .perform rfl trace,
          List.forall_mem_cons.mpr ⟨iff_of_false nofun raising, marks⟩⟩

end Program

end ZeroShield.Foundation
