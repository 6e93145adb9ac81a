import ZeroShield.Foundation.Attempt

/-!
# How programs end

A program which may be ended by an exception at every operation leaves one of the worlds which lie
between its operations.  What it returns, and what it leaves, is shown along its structure.
-/

namespace ZeroShield.Foundation

namespace Program

variable {I J : Interface} {α β ε : Type} {Input World : Type}

/-! ## Sequential composition -/

section Bind

variable {exec : Semantics I Input World} {caught : (op : I.Op) → Option (I.Result op)}
  {input : ℕ → Input} {fate : ℕ → Fate}

/-- A program which is ended by an exception is not continued. -/
theorem attempt_bind (program : Program I α) (next : α → Program I β) (position : ℕ)
    (world : World) :
    (program >>= next).attempt exec caught input fate position world =
      match program.attempt exec caught input fate position world with
      | (some value, later, world) => (next value).attempt exec caught input fate later world
      | (none, later, world) => (none, later, world) := by
  induction program generalizing position world with
  | done value => rfl
  | perform op rest ih =>
      rw [perform_bind, attempt, attempt]
      cases fate position with
      | completes => exact ih _ _ _
      | failsBefore =>
          cases caught op with
          | none => rfl
          | some result => exact ih _ _ _
      | failsAfter =>
          cases caught op with
          | none => rfl
          | some result => exact ih _ _ _

/-- A program which returns has performed all of its operations. -/
theorem run_of_attempt {program : Program I α} {position later : ℕ}
    {world after : World} {value : α}
    (returned : program.attempt exec (fun _ => none) input fate position world =
      (some value, later, after)) :
    program.run exec input position world = (value, later, after) := by
  induction program generalizing position world with
  | done other =>
      simp only [attempt_done, Prod.mk.injEq, Option.some.injEq] at returned
      obtain ⟨rfl, rfl, rfl⟩ := returned
      rfl
  | perform op rest ih =>
      rw [attempt] at returned
      cases ends : fate position with
      | completes =>
          rw [ends] at returned
          exact ih _ returned
      | failsBefore =>
          rw [ends] at returned
          cases returned
      | failsAfter =>
          rw [ends] at returned
          cases returned

/-- A program none of whose operations fails returns. -/
theorem attempt_completes (program : Program I α) (position : ℕ) (world : World) :
    program.attempt exec caught input (fun _ => .completes) position world =
      (some (program.run exec input position world).1,
        (program.run exec input position world).2) := by
  induction program generalizing position world with
  | done value => rfl
  | perform op rest ih => exact ih _ _ _

/-- A fallible program goes on after a value. -/
theorem run_bind_ok {program : ExceptT ε (Program I) α} {next : α → ExceptT ε (Program I) β}
    {position later : ℕ} {world after : World} {value : β}
    (returned : Program.run exec input (program >>= next).run position world =
      (.ok value, later, after)) :
    ∃ first middle between,
      Program.run exec input program.run position world = (.ok first, middle, between) ∧
        Program.run exec input (next first).run middle between = (.ok value, later, after) := by
  rw [ExceptT.run_bind, run_bind] at returned
  cases outcome : Program.run exec input program.run position world with
  | mk result rest =>
      obtain ⟨middle, between⟩ := rest
      rw [outcome] at returned
      cases result with
      | ok first => exact ⟨first, middle, between, rfl, returned⟩
      | error error => cases returned

end Bind

/-! ## Returned values -/

/-- Every value which a program can return has a property. -/
def Yields (property : α → Prop) : Program I α → Prop
  | done value => property value
  | perform _ next => ∀ result, (next result).Yields property

namespace Yields

variable {property : α → Prop} {program : Program I α}

theorem of_call {op : I.Op} {property : I.Result op → Prop} (holds : ∀ result, property result) :
    (call op).Yields property :=
  holds

theorem mono {weaker : α → Prop} (yields : program.Yields property)
    (implied : ∀ value, property value → weaker value) : program.Yields weaker := by
  induction program with
  | done value => exact implied value yields
  | perform op next ih => exact fun result => ih result (yields result)

theorem bind {next : α → Program I β} {final : β → Prop} (yields : program.Yields property)
    (continues : ∀ value, property value → (next value).Yields final) :
    (program >>= next).Yields final := by
  induction program with
  | done value => exact continues value yields
  | perform op rest ih => exact fun result => ih result (yields result)

/-- What a run returns has the property. -/
theorem run {exec : Semantics I Input World} {input : ℕ → Input} (yields : program.Yields property)
    (position : ℕ) (world : World) : property (program.run exec input position world).1 := by
  induction program generalizing position world with
  | done value => exact yields
  | perform op next ih => exact ih _ (yields _) _ _

end Yields

/-- Every value which a fallible program can return has a property. -/
abbrev YieldsOk (property : α → Prop) (program : ExceptT ε (Program I) α) : Prop :=
  Yields (fun result => ∀ value, result = .ok value → property value) program.run

namespace YieldsOk

variable {property : α → Prop} {program : ExceptT ε (Program I) α}

theorem pure {value : α} (holds : property value) :
    YieldsOk property (Pure.pure value : ExceptT ε (Program I) α) := by
  rintro _ ⟨⟩
  exact holds

theorem throw (error : ε) : YieldsOk property (MonadExcept.throw error : ExceptT ε (Program I) α) :=
  nofun

theorem mk {result : Except ε α} (holds : ∀ value, result = .ok value → property value) :
    YieldsOk property (ExceptT.mk (Pure.pure result) : ExceptT ε (Program I) α) :=
  holds

theorem lift {program : Program I α} (yields : program.Yields property) :
    YieldsOk property (ExceptT.lift program : ExceptT ε (Program I) α) := by
  refine Yields.bind yields fun value holds => ?_
  rintro _ ⟨⟩
  exact holds

theorem bind {next : α → ExceptT ε (Program I) β} {final : β → Prop}
    (yields : YieldsOk property program)
    (continues : ∀ value, property value → YieldsOk final (next value)) :
    YieldsOk final (program >>= next) := by
  refine Yields.bind yields fun result holds => ?_
  cases result with
  | ok value => exact continues value (holds value rfl)
  | error error => exact fun _ => nofun

/-- Without regard to what the first program returns. -/
theorem andThen {next : α → ExceptT ε (Program I) β} {final : β → Prop}
    (continues : ∀ value, YieldsOk final (next value)) : YieldsOk final (program >>= next) := by
  have anything : program.run.Yields fun _ => True := by
    generalize program.run = first
    induction first with
    | done value => trivial
    | perform op rest ih => exact fun result => ih result
  refine Yields.bind anything fun result _ => ?_
  cases result with
  | ok value => exact continues value
  | error error => exact fun _ => nofun

/-- A value which a run returns has the property. -/
theorem value {exec : Semantics I Input World} {input : ℕ → Input}
    (yields : YieldsOk property program) {position later : ℕ} {world after : World} {value : α}
    (returned : Program.run exec input program.run position world = (.ok value, later, after)) :
    property value :=
  Yields.run yields position world value (congrArg Prod.fst returned)

end YieldsOk

/-! ## The operations of fallible programs -/

section Performs

variable {allowed : I.Op → Prop} {promised : (op : I.Op) → I.Result op → Prop}
  {property : α → Prop}

/-- What a program yields may be used in what follows. -/
theorem Performs.bind_yields {program : Program I α} {next : α → Program I β}
    (first : program.Performs allowed promised) (yields : program.Yields property)
    (continues : ∀ value, property value → (next value).Performs allowed promised) :
    (program >>= next).Performs allowed promised := by
  induction program with
  | done value => exact continues value yields
  | perform op rest ih =>
      exact ⟨first.1, fun result kept => ih result (first.2 result kept) (yields result)⟩

theorem Performs.bindExcept {program : ExceptT ε (Program I) α}
    {next : α → ExceptT ε (Program I) β} (first : Performs allowed promised program.run)
    (yields : YieldsOk property program)
    (continues : ∀ value, property value → Performs allowed promised (next value).run) :
    Performs allowed promised (program >>= next).run := by
  refine Performs.bind_yields first yields fun result holds => ?_
  cases result with
  | ok value => exact continues value (holds value rfl)
  | error error => trivial

end Performs

/-! ## Worlds which are left -/

/-- From worlds with the precondition a program returns with the postcondition, or an exception
leaves a world which an exception may leave. -/
def Ends (exec : Semantics I Input World) (pre : World → Prop) (program : Program I α)
    (post : α → World → Prop) (cut : World → Prop) : Prop :=
  ∀ input fate position world, pre world →
    match program.attempt exec (fun _ => none) input fate position world with
    | (some value, _, later) => post value later
    | (none, _, later) => cut later

namespace Ends

variable {exec : Semantics I Input World} {pre : World → Prop} {program : Program I α}
  {post : α → World → Prop} {cut : World → Prop}

theorem of_done {value : α} (holds : ∀ world, pre world → post value world) :
    Ends exec pre (done value) post cut :=
  fun _ _ _ world start => holds world start

theorem perform {op : I.Op} {next : I.Result op → Program I α}
    (middle : I.Result op → World → Prop) (before : ∀ world, pre world → cut world)
    (effect : ∀ input world, pre world →
      middle (exec input op world).1 (exec input op world).2 ∧ cut (exec input op world).2)
    (continues : ∀ result, Ends exec (middle result) (next result) post cut) :
    Ends exec pre (.perform op next) post cut := by
  intro input fate position world start
  obtain ⟨reached, left⟩ := effect (input position) world start
  rw [attempt]
  cases fate position with
  | completes => exact continues _ input fate (position + 1) _ reached
  | failsBefore => exact before world start
  | failsAfter => exact left

theorem bind {next : α → Program I β} {final : β → World → Prop}
    (first : Ends exec pre program post cut)
    (continues : ∀ value, Ends exec (post value) (next value) final cut) :
    Ends exec pre (program >>= next) final cut := by
  intro input fate position world start
  have reached := first input fate position world start
  rw [attempt_bind]
  cases outcome : program.attempt exec (fun _ => none) input fate position world with
  | mk result rest =>
      obtain ⟨later, after⟩ := rest
      rw [outcome] at reached
      cases result with
      | some value => exact continues value input fate later after reached
      | none => exact reached

theorem conseq {weaker : World → Prop} {stronger : α → World → Prop} {wider : World → Prop}
    (ends : Ends exec pre program post cut) (start : ∀ world, weaker world → pre world)
    (finish : ∀ value world, post value world → stronger value world)
    (left : ∀ world, cut world → wider world) : Ends exec weaker program stronger wider := by
  intro input fate position world weak
  have reached := ends input fate position world (start world weak)
  cases outcome : program.attempt exec (fun _ => none) input fate position world with
  | mk result rest =>
      rw [outcome] at reached
      cases result with
      | some value => exact finish value rest.2 reached
      | none => exact left rest.2 reached

/-- A fallible program goes on after a value and stops after an error. -/
theorem bindExcept {program : ExceptT ε (Program I) α} {next : α → ExceptT ε (Program I) β}
    {middle : Except ε α → World → Prop} {final : Except ε β → World → Prop}
    (first : Ends exec pre program.run middle cut)
    (raised : ∀ error world, middle (.error error) world → final (.error error) world)
    (continues : ∀ value, Ends exec (middle (.ok value)) (next value).run final cut) :
    Ends exec pre (program >>= next).run final cut := by
  refine Ends.bind first fun result => ?_
  cases result with
  | ok value => exact continues value
  | error error => exact .of_done (raised error)

theorem map {f : α → β} {final : β → World → Prop} (first : Ends exec pre program post cut)
    (mapped : ∀ value world, post value world → final (f value) world) :
    Ends exec pre (f <$> program) final cut :=
  Ends.bind first fun value => .of_done (mapped value)

/-- Nothing is claimed. -/
theorem trivial : Ends exec pre program (fun _ _ => True) fun _ => True := by
  intro input fate position world _
  dsimp only
  split <;> exact True.intro

/-- A fact about the precondition may be assumed. -/
theorem of_assumed {assumed : Prop} (ends : assumed → Ends exec pre program post cut) :
    Ends exec (fun world => assumed ∧ pre world) program post cut :=
  fun input fate position world start => ends start.1 input fate position world start.2

theorem of_exists {κ : Type} {start : κ → World → Prop}
    (ends : ∀ k, Ends exec (start k) program post cut) :
    Ends exec (fun world => ∃ k, start k world) program post cut := by
  rintro input fate position world ⟨k, holds⟩
  exact ends k input fate position world holds

/-- The world which is left, if the same holds of it however the program ends. -/
theorem leaves (ends : Ends exec pre program (fun _ => cut) cut) (input : ℕ → Input)
    (fate : ℕ → Fate) (position : ℕ) {world : World} (start : pre world) :
    cut (program.attempt exec (fun _ => none) input fate position world).2.2 := by
  have reached := ends input fate position world start
  cases outcome : program.attempt exec (fun _ => none) input fate position world with
  | mk result rest =>
      rw [outcome] at reached
      cases result <;> exact reached

/-- What is returned when nothing fails. -/
theorem run (ends : Ends exec pre program post cut) (input : ℕ → Input) (position : ℕ)
    {world : World} (start : pre world) :
    post (program.run exec input position world).1 (program.run exec input position world).2.2 := by
  have reached := ends input (fun _ => .completes) position world start
  rwa [attempt_completes] at reached

end Ends

end Program

/-! ## Two interfaces -/

/-- The operations of two interfaces. -/
abbrev Interface.sum (I J : Interface) : Interface :=
  ⟨I.Op ⊕ J.Op, Sum.elim I.Result J.Result⟩

/-- Operations which only observe the outside, beside operations on a world. -/
def Semantics.beside {I J : Interface} {Input World : Type}
    (observe : Input → (op : I.Op) → I.Result op) (exec : Semantics J Unit World) :
    Semantics (I.sum J) Input World := fun input op world =>
  match op with
  | .inl op => (observe input op, world)
  | .inr op => exec () op world

/-- Operations which only observe the outside. -/
def Semantics.observing {I : Interface} {Input : Type}
    (observe : Input → (op : I.Op) → I.Result op) : Semantics I Input Unit :=
  fun input op _ => (observe input op, ())

namespace Program

variable {I J : Interface} {α : Type} {Input World : Type}

/-- A program beside another interface. -/
def inl : Program I α → Program (I.sum J) α
  | done value => done value
  | perform op next => perform (Sum.inl op) fun result => (next result).inl

/-- A program beside another interface. -/
def inr : Program J α → Program (I.sum J) α
  | done value => done value
  | perform op next => perform (Sum.inr op) fun result => (next result).inr

variable {observe : Input → (op : I.Op) → I.Result op} {exec : Semantics J Unit World}
  {input : ℕ → Input} {fate : ℕ → Fate}

/-- A program which only observes leaves the world. -/
theorem attempt_inl (program : Program I α) (position : ℕ) (world : World) :
    (program.inl (J := J)).attempt (Semantics.beside observe exec) (fun _ => none) input fate
        position world =
      let outcome := program.attempt (Semantics.observing observe) (fun _ => none) input fate
        position ()
      (outcome.1, outcome.2.1, world) := by
  induction program generalizing position with
  | done value => rfl
  | perform op next ih =>
      rw [inl, attempt, attempt]
      cases fate position with
      | completes => exact ih _ _
      | failsBefore => rfl
      | failsAfter => rfl

/-- A program on the world does not observe. -/
theorem attempt_inr (program : Program J α) (position : ℕ) (world : World) :
    (program.inr (I := I)).attempt (Semantics.beside observe exec) (fun _ => none) input fate
        position world =
      program.attempt exec (fun _ => none) (fun _ => ()) fate position world := by
  induction program generalizing position world with
  | done value => rfl
  | perform op next ih =>
      rw [inr, attempt, attempt]
      cases fate position with
      | completes => exact ih _ _ _
      | failsBefore => rfl
      | failsAfter => rfl

/-- A program which only observes ends where it started. -/
theorem Ends.inl {pre : World → Prop} (program : Program I α) :
    Ends (Semantics.beside observe exec) pre (program.inl (J := J)) (fun _ => pre) pre := by
  intro input fate position world start
  rw [attempt_inl]
  dsimp only
  split
  next equal =>
    obtain ⟨-, -, rfl⟩ := Prod.mk.inj equal |>.imp id Prod.mk.inj
    exact start
  next equal =>
    obtain ⟨-, -, rfl⟩ := Prod.mk.inj equal |>.imp id Prod.mk.inj
    exact start

theorem Ends.inr {pre : World → Prop} {program : Program J α} {post : α → World → Prop}
    {cut : World → Prop} (ends : Ends exec pre program post cut) :
    Ends (Semantics.beside observe exec) pre (program.inr (I := I)) post cut := by
  intro input fate position world start
  rw [attempt_inr]
  exact ends _ fate position world start

/-- A program performs the same operations beside another interface. -/
theorem Performs.inl {allowed : (I.sum J).Op → Prop} {program : Program I α}
    (performs : program.Performs (fun op => allowed (.inl op)) fun _ _ => True) :
    (program.inl (J := J)).Performs allowed fun _ _ => True := by
  induction program with
  | done value => trivial
  | perform op next ih => exact ⟨performs.1, fun result _ => ih result (performs.2 result trivial)⟩

/-- What a program which only observes yields. -/
theorem Yields.inl {property : α → Prop} {program : Program I α}
    (yields : program.Yields property) :
    (program.inl (J := J)).Yields property := by
  induction program with
  | done value => exact yields
  | perform op next ih => exact fun result => ih result (yields result)

end Program

end ZeroShield.Foundation
