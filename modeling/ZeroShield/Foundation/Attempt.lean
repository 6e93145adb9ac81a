import ZeroShield.Foundation.Program
import Mathlib.Tactic.Common

/-!
# Programs whose operations fail

An operation completes, or it raises before or after it took effect.  A program catches the
exceptions of some operations and continues with a default result; every other exception ends it.
-/

namespace ZeroShield.Foundation

/-- How an operation ends. -/
inductive Fate
  | completes
  | failsBefore
  | failsAfter
  deriving DecidableEq

namespace Program

variable {I : Interface} {α β : Type} {Input World : Type}

/-- Run a program whose operations may fail: what it returns, if it is not ended by an exception,
the position in the streams of inputs and fates, and the final world. -/
def attempt (exec : Semantics I Input World) (caught : (op : I.Op) → Option (I.Result op))
    (input : ℕ → Input) (fate : ℕ → Fate) : Program I α → ℕ → World → Option α × ℕ × World
  | done value, position, world => (some value, position, world)
  | perform op next, position, world =>
      let outcome := exec (input position) op world
      match fate position with
      | .completes => (next outcome.1).attempt exec caught input fate (position + 1) outcome.2
      | .failsBefore =>
          match caught op with
          | some result => (next result).attempt exec caught input fate (position + 1) world
          | none => (none, position + 1, world)
      | .failsAfter =>
          match caught op with
          | some result => (next result).attempt exec caught input fate (position + 1) outcome.2
          | none => (none, position + 1, outcome.2)

variable {exec : Semantics I Input World} {caught : (op : I.Op) → Option (I.Result op)}
  {input : ℕ → Input} {fate : ℕ → Fate} {op : I.Op} {position : ℕ} {world : World}

@[simp] theorem attempt_done (value : α) :
    (done value : Program I α).attempt exec caught input fate position world =
      (some value, position, world) := rfl

section Perform

variable {next : I.Result op → Program I α}

theorem attempt_of_completes (completes : fate position = .completes) :
    (perform op next).attempt exec caught input fate position world =
      (next (exec (input position) op world).1).attempt exec caught input fate (position + 1)
        (exec (input position) op world).2 := by
  rw [attempt, completes]

theorem attempt_of_failsBefore (fails : fate position = .failsBefore)
    (uncaught : caught op = none) :
    (perform op next).attempt exec caught input fate position world =
      (none, position + 1, world) := by
  rw [attempt, fails, uncaught]

theorem attempt_of_failsAfter (fails : fate position = .failsAfter)
    (uncaught : caught op = none) :
    (perform op next).attempt exec caught input fate position world =
      (none, position + 1, (exec (input position) op world).2) := by
  rw [attempt, fails, uncaught]

end Perform

end Program

/-! ## Submissions

A submission writes a record to one system and a message to another.  It is all or nothing when
every end but a successful one leaves neither.
-/

/-- What two systems hold about one submission. -/
structure Ledger (World : Type) where
  /-- A record exists. -/
  stored : World → Prop
  /-- A record exists and waits for its message. -/
  queued : World → Prop
  /-- How many messages there are. -/
  messages : World → ℕ

namespace Ledger

variable {I : Interface} {α : Type} {Input World : Type}

/-- Neither a waiting record nor a message exists. -/
def Blank (ledger : Ledger World) (world : World) : Prop :=
  ¬ ledger.queued world ∧ ledger.messages world = 0

/-- A change which does not concern the submission. -/
structure Same (ledger : Ledger World) (before after : World) : Prop where
  stored : ledger.stored after ↔ ledger.stored before
  queued : ledger.queued after ↔ ledger.queued before
  messages : ledger.messages after = ledger.messages before

theorem Same.blank {ledger : Ledger World} {before after : World}
    (same : ledger.Same before after) (blank : ledger.Blank before) : ledger.Blank after :=
  ⟨same.queued.not.mpr blank.1, same.messages.trans blank.2⟩

/-- After a successful end the record and one message exist, after every other end neither a
waiting record nor a message of the identifier which the submission draws. -/
def AllOrNothing (ledger : String → Ledger World) (submitted : α → Option String) (drawn : String)
    (outcome : Option α × ℕ × World) : Prop :=
  match outcome.1.bind submitted with
  | some identifier =>
      (ledger identifier).stored outcome.2.2 ∧ (ledger identifier).messages outcome.2.2 = 1
  | none => (ledger drawn).Blank outcome.2.2

variable {ledger : String → Ledger World} {submitted : α → Option String} {drawn : String}

theorem allOrNothing_of_unsubmitted {result : Option α} {position : ℕ} {world : World}
    (unsubmitted : result.bind submitted = none) :
    AllOrNothing ledger submitted drawn (result, position, world) ↔ (ledger drawn).Blank world := by
  simp only [AllOrNothing, unsubmitted]

variable {exec : Semantics I Input World} {caught : (op : I.Op) → Option (I.Result op)}
  {input : ℕ → Input} {fate : ℕ → Fate} {position : ℕ} {world : World}

/-- A refusal is all or nothing. -/
theorem allOrNothing_done {value : α} (refused : submitted value = none)
    (blank : (ledger drawn).Blank world) :
    AllOrNothing ledger submitted drawn
      ((Program.done value : Program I α).attempt exec caught input fate position world) := by
  have unsubmitted : (some value).bind submitted = none := refused
  exact (allOrNothing_of_unsubmitted unsubmitted).mpr blank

/-- An operation before anything is written may fail. -/
theorem allOrNothing_quiet {op : I.Op} {next : I.Result op → Program I α}
    (uncaught : caught op = none) (blank : (ledger drawn).Blank world)
    (same : (ledger drawn).Same world (exec (input position) op world).2) :
    AllOrNothing ledger submitted drawn
        ((Program.perform op next).attempt exec caught input fate position world) ↔
      fate position ≠ .completes ∨ AllOrNothing ledger submitted drawn
        ((next (exec (input position) op world).1).attempt exec caught input fate (position + 1)
          (exec (input position) op world).2) := by
  cases ends : fate position with
  | completes => simp [Program.attempt_of_completes ends]
  | failsBefore =>
      rw [Program.attempt_of_failsBefore ends uncaught]
      simpa [allOrNothing_of_unsubmitted] using blank
  | failsAfter =>
      rw [Program.attempt_of_failsAfter ends uncaught]
      simpa [allOrNothing_of_unsubmitted] using same.blank blank

/-- A waiting record exists with a number of messages. -/
structure Written (ledger : Ledger World) (count : ℕ) (world : World) : Prop where
  stored : ledger.stored world
  queued : ledger.queued world
  messages : ledger.messages world = count

theorem Same.written {ledger : Ledger World} {count : ℕ} {before after : World}
    (same : ledger.Same before after) (written : ledger.Written count before) :
    ledger.Written count after :=
  ⟨same.stored.mpr written.stored, same.queued.mpr written.queued,
    same.messages.trans written.messages⟩

/-- An end without success after the record was written is not all or nothing. -/
theorem not_allOrNothing_of_written {count : ℕ} (written : (ledger drawn).Written count world) :
    ¬ AllOrNothing ledger submitted drawn ((none : Option α), position, world) :=
  fun blank => blank.1 written.queued

/-- The last operation may not fail. -/
theorem allOrNothing_last {op : I.Op} {value : α} (uncaught : caught op = none)
    (submits : submitted value = some drawn) (written : (ledger drawn).Written 1 world)
    (same : (ledger drawn).Same world (exec (input position) op world).2) :
    AllOrNothing ledger submitted drawn ((Program.perform op fun _ => .done value).attempt exec
      caught input fate position world) ↔ fate position = .completes := by
  have after := same.written written
  cases ends : fate position with
  | completes =>
      rw [Program.attempt_of_completes ends, Program.attempt_done]
      simp [AllOrNothing, submits, after.stored, after.messages]
  | failsBefore =>
      rw [Program.attempt_of_failsBefore ends uncaught]
      simpa using not_allOrNothing_of_written written
  | failsAfter =>
      rw [Program.attempt_of_failsAfter ends uncaught]
      simpa using not_allOrNothing_of_written after

/-- An operation whose exceptions are caught may fail. -/
theorem allOrNothing_caught {op : I.Op} {next : I.Result op → Program I α} {result : I.Result op}
    {remains : Prop} (handled : caught op = some result) (written : (ledger drawn).Written 1 world)
    (same : (ledger drawn).Same world (exec (input position) op world).2)
    (continues : ∀ result later, (ledger drawn).Written 1 later →
      (AllOrNothing ledger submitted drawn
        ((next result).attempt exec caught input fate (position + 1) later) ↔ remains)) :
    AllOrNothing ledger submitted drawn
      ((Program.perform op next).attempt exec caught input fate position world) ↔ remains := by
  have after := same.written written
  rw [Program.attempt]
  cases fate position with
  | completes => exact continues _ _ after
  | failsBefore => rw [handled]; exact continues _ _ written
  | failsAfter => rw [handled]; exact continues _ _ after

/-- The record is saved and the message published: saving may fail before it took effect, and
nothing after it may fail. -/
theorem allOrNothing_core {save publish : I.Op}
    {after : I.Result save → I.Result publish → Program I α} {remains : Prop}
    (uncaughtSave : caught save = none) (uncaughtPublish : caught publish = none)
    (blank : (ledger drawn).Blank world)
    (saves : (ledger drawn).Written 0 (exec (input position) save world).2)
    (publishes : ∀ later, (ledger drawn).Written 0 later →
      (ledger drawn).Written 1 (exec (input (position + 1)) publish later).2)
    (continues : ∀ result result' later, (ledger drawn).Written 1 later →
      (AllOrNothing ledger submitted drawn
        ((after result result').attempt exec caught input fate (position + 2) later) ↔ remains)) :
    AllOrNothing ledger submitted drawn
        ((Program.perform save fun result => .perform publish (after result)).attempt exec caught
          input fate position world) ↔
      fate position = .failsBefore ∨ fate position = .completes ∧
        fate (position + 1) = .completes ∧ remains := by
  cases first : fate position with
  | failsBefore =>
      rw [Program.attempt_of_failsBefore first uncaughtSave]
      simpa [allOrNothing_of_unsubmitted] using blank
  | failsAfter =>
      rw [Program.attempt_of_failsAfter first uncaughtSave]
      simpa using not_allOrNothing_of_written saves
  | completes =>
      rw [Program.attempt_of_completes first]
      have published := publishes _ saves
      cases second : fate (position + 1) with
      | failsBefore =>
          rw [Program.attempt_of_failsBefore second uncaughtPublish]
          simpa using not_allOrNothing_of_written saves
      | failsAfter =>
          rw [Program.attempt_of_failsAfter second uncaughtPublish]
          simpa using not_allOrNothing_of_written published
      | completes =>
          rw [Program.attempt_of_completes second]
          simpa using continues _ _ _ published

end Ledger

end ZeroShield.Foundation
