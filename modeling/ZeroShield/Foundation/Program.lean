import Mathlib.Data.List.Basic

/-!
# Effectful programs

A program is a tree of operations on an environment it does not own: at each node it performs one
operation and continues with the result.  One tree has both a sequential meaning, `Program.run`,
and a meaning under interleaving, where other programs act between two of its operations.
-/

namespace ZeroShield.Foundation

/-- The operations a program may perform, with the type of each operation's result. -/
structure Interface where
  /-- Names of the operations, with their arguments. -/
  Op : Type
  /-- What an operation returns. -/
  Result : Op → Type

/-- A program over an interface which returns a value of type `α`. -/
inductive Program (I : Interface) (α : Type) : Type
  | done (value : α)
  | perform (op : I.Op) (next : I.Result op → Program I α)

/-- One performed operation together with the result it returned. -/
structure Event (I : Interface) where
  /-- The operation. -/
  op : I.Op
  /-- Its result. -/
  result : I.Result op

/-- The meaning of an interface: an operation reads outside input and the world and updates it. -/
abbrev Semantics (I : Interface) (Input World : Type) : Type :=
  Input → (op : I.Op) → World → I.Result op × World

/-- The meaning of operations after each of which the rest of the world changes the state at
will. -/
def Semantics.disturbed {I : Interface} {Input World : Type} (exec : Semantics I Input World) :
    Semantics I (Input × (World → World)) World :=
  fun input op world => ((exec input.1 op world).1, input.2 (exec input.1 op world).2)

namespace Program

variable {I : Interface} {α β γ : Type} {Input World : Type}

/-- Continue with `next` when the program returns. -/
def bind : Program I α → (α → Program I β) → Program I β
  | done value, next => next value
  | perform op rest, next => perform op fun result => (rest result).bind next

instance : Monad (Program I) where
  pure := done
  bind := bind

/-- The program which performs a single operation. -/
def call (op : I.Op) : Program I (I.Result op) :=
  perform op done

@[simp] theorem pure_eq (value : α) : (pure value : Program I α) = done value := rfl

@[simp] theorem done_bind (value : α) (next : α → Program I β) :
    (done value >>= next) = next value := rfl

@[simp] theorem perform_bind (op : I.Op) (rest : I.Result op → Program I α)
    (next : α → Program I β) :
    (perform op rest >>= next) = perform op fun result => rest result >>= next := rfl

@[simp] theorem call_bind (op : I.Op) (next : I.Result op → Program I β) :
    (call op >>= next) = perform op next := rfl

/-- Run a program alone.  The outside input of each operation comes from a stream, whose position
is returned with the final world. -/
def run (exec : Semantics I Input World) (input : ℕ → Input) :
    Program I α → ℕ → World → α × ℕ × World
  | done value, position, world => (value, position, world)
  | perform op next, position, world =>
      let outcome := exec (input position) op world
      (next outcome.1).run exec input (position + 1) outcome.2

@[simp] theorem run_done (exec : Semantics I Input World) (input : ℕ → Input) (value : α)
    (position : ℕ) (world : World) :
    (done value : Program I α).run exec input position world = (value, position, world) := rfl

@[simp] theorem run_perform (exec : Semantics I Input World) (input : ℕ → Input) (op : I.Op)
    (next : I.Result op → Program I α) (position : ℕ) (world : World) :
    (perform op next).run exec input position world =
      (next (exec (input position) op world).1).run exec input (position + 1)
        (exec (input position) op world).2 := rfl

/-- A run performs the first operation and continues with its result. -/
theorem run_call_bind (exec : Semantics I Input World) (input : ℕ → Input) (op : I.Op)
    (next : I.Result op → Program I β) (position : ℕ) (world : World) :
    (call op >>= next).run exec input position world =
      (next (exec (input position) op world).1).run exec input (position + 1)
        (exec (input position) op world).2 := rfl

theorem run_bind (exec : Semantics I Input World) (input : ℕ → Input) (program : Program I α)
    (next : α → Program I β) (position : ℕ) (world : World) :
    (program >>= next).run exec input position world =
      (next (program.run exec input position world).1).run exec input
        (program.run exec input position world).2.1
        (program.run exec input position world).2.2 := by
  induction program generalizing position world with
  | done value => rfl
  | perform op rest ih => exact ih _ _ _

/-! ## The operations a program can perform -/

/-- Every operation which a program can perform is allowed, as long as results are as promised. -/
def Performs (allowed : I.Op → Prop) (promised : (op : I.Op) → I.Result op → Prop) :
    Program I α → Prop
  | done _ => True
  | perform op next =>
      allowed op ∧ ∀ result, promised op result → (next result).Performs allowed promised

section Performs

variable {allowed : I.Op → Prop} {promised : (op : I.Op) → I.Result op → Prop}
  {program : Program I α}

theorem Performs.of_call {op : I.Op} (permitted : allowed op) :
    (call op).Performs allowed promised :=
  ⟨permitted, fun _ _ => trivial⟩

theorem Performs.bind {next : α → Program I β} (first : program.Performs allowed promised)
    (continues : ∀ value, (next value).Performs allowed promised) :
    (program >>= next).Performs allowed promised := by
  induction program with
  | done value => exact continues value
  | perform op rest ih => exact ⟨first.1, fun result kept => ih result (first.2 result kept)⟩

/-- The result of an operation is as promised. -/
theorem Performs.call_bind {op : I.Op} {next : I.Result op → Program I β} (permitted : allowed op)
    (continues : ∀ result, promised op result → (next result).Performs allowed promised) :
    (call op >>= next).Performs allowed promised :=
  ⟨permitted, continues⟩

theorem Performs.mono {wider : I.Op → Prop} {weaker : (op : I.Op) → I.Result op → Prop}
    (performs : program.Performs allowed weaker) (implied : ∀ op, allowed op → wider op)
    (weakened : ∀ op result, promised op result → weaker op result) :
    program.Performs wider promised := by
  induction program with
  | done value => trivial
  | perform op rest ih =>
      exact ⟨implied op performs.1, fun result kept =>
        ih result (performs.2 result (weakened op result kept))⟩

variable {exec : Semantics I Input World} {input : ℕ → Input}

/-- A run keeps what every allowed operation keeps. -/
theorem Performs.run_preserves {invariant : World → Prop}
    (performs : program.Performs allowed promised)
    (faithful : ∀ position op world, promised op (exec (input position) op world).1)
    (preserves : ∀ position op world, allowed op → invariant world →
      invariant (exec (input position) op world).2)
    {position : ℕ} {world : World} (start : invariant world) :
    invariant (program.run exec input position world).2.2 := by
  induction program generalizing position world with
  | done value => exact start
  | perform op rest ih =>
      have kept := faithful position op world
      exact ih _ (performs.2 _ kept) (preserves position op world performs.1 start)

/-- Two runs from related worlds return the same and end in related worlds, when every allowed
operation returns the same in related worlds and leaves related worlds. -/
theorem Performs.run_related {related : World → World → Prop}
    (performs : program.Performs allowed promised)
    (faithful : ∀ position op world, promised op (exec (input position) op world).1)
    (simulates : ∀ position op left right, allowed op → related left right →
      (exec (input position) op left).1 = (exec (input position) op right).1 ∧
        related (exec (input position) op left).2 (exec (input position) op right).2)
    {position : ℕ} {left right : World} (start : related left right) :
    (program.run exec input position left).1 = (program.run exec input position right).1 ∧
      related (program.run exec input position left).2.2
        (program.run exec input position right).2.2 := by
  induction program generalizing position left right with
  | done value => exact ⟨rfl, start⟩
  | perform op rest ih =>
      obtain ⟨same, later⟩ := simulates position op left right performs.1 start
      have kept := faithful position op right
      rw [run_perform, run_perform, same]
      exact ih _ (performs.2 _ kept) later

end Performs

end Program

end ZeroShield.Foundation
