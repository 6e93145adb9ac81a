import ZeroShield.Foundation.Endings
import ZeroShield.Foundation.Interleaving

/-!
# Writes after a check

A program checks whether something is there already, and only writes where nothing is.  Threads of
such programs overlap harmlessly only when no check falls between the check of another thread and
its first write: then at most one thread writes, as it would alone.
-/

namespace ZeroShield.Foundation

/-- Operations after a check, which are left out where the check refuses. -/
structure CheckedWrites (I : Interface) (Tag Out : Type) where
  /-- The check. -/
  check : I.Op
  /-- Whether a result of the check forbids the operations. -/
  refuses : I.Result check → Bool
  /-- The operations. -/
  operations : Tag → List I.Op
  /-- What is returned without the operations. -/
  refusal : Tag → Out
  /-- What is returned after the operations. -/
  success : Tag → Out
  /-- The operations after which the check refuses. -/
  marks : I.Op → Prop
  /-- The check is not such an operation. -/
  unmarked : ¬ marks check

namespace CheckedWrites

variable {I : Interface} {Tag Out World : Type} (shape : CheckedWrites I Tag Out)

/-- The rest of a program which has passed the check. -/
def writing (tag : Tag) : List I.Op → Program I Out
  | [] => .done (shape.success tag)
  | op :: operations => .perform op fun _ => writing tag operations

/-- The program. -/
def program (tag : Tag) : Program I Out :=
  .perform shape.check fun result =>
    if shape.refuses result then .done (shape.refusal tag)
    else shape.writing tag (shape.operations tag)

/-- The effect of operations one after another. -/
def effect (exec : Semantics I Unit World) (operations : List I.Op) (world : World) : World :=
  operations.foldl (fun world op => (exec () op world).2) world

theorem effect_append_singleton (exec : Semantics I Unit World) (operations : List I.Op) (op : I.Op)
    (world : World) :
    effect exec (operations ++ [op]) world = (exec () op (effect exec operations world)).2 := by
  rw [effect, List.foldl_append]
  rfl

/-- The check has been passed. -/
def Passed (past : List (Event I)) : Prop :=
  ∃ result, ⟨shape.check, result⟩ ∈ past ∧ shape.refuses result = false

/-- No check is made while another thread has passed it and has yet to write. -/
def Apart (pool : Pool I World Tag Out) : Move Tag Unit → Prop
  | .spawn _ => True
  | .advance index _ =>
      (pool.threads[index]?).bind Thread.next = some shape.check →
        ∀ other ∈ pool.threads, shape.Passed other.past →
          ∃ event ∈ other.past, shape.marks event.op

/-- How far a thread has come: it has performed these operations, or it has not passed the check. -/
inductive Stage : Thread I Tag Out → Option (List I.Op) → Prop
  | waiting {tag : Tag} : Stage ⟨tag, [], shape.program tag⟩ none
  | refused {tag : Tag} {past : List (Event I)} :
      Stage ⟨tag, past, .done (shape.refusal tag)⟩ none
  | passed {tag : Tag} {past : List (Event I)} {result : I.Result shape.check}
      {performed remaining : List I.Op} (clear : shape.refuses result = false)
      (events : past.map (·.op) = performed.reverse)
      (split : shape.operations tag = performed ++ remaining) :
      Stage ⟨tag, past ++ [⟨shape.check, result⟩], shape.writing tag remaining⟩ (some performed)

/-- At most one thread has passed the check, and the world is as it would be without the others. -/
inductive Alone (exec : Semantics I Unit World) (start : World) (pool : Pool I World Tag Out) : Prop
  | nobody (others : ∀ thread ∈ pool.threads, shape.Stage thread none)
      (same : pool.world = start) : Alone exec start pool
  | somebody {index : ℕ} {thread : Thread I Tag Out} {performed : List I.Op}
      (selected : pool.threads[index]? = some thread)
      (stage : shape.Stage thread (some performed))
      (others : ∀ position other, position ≠ index → pool.threads[position]? = some other →
        shape.Stage other none)
      (clear : shape.refuses (exec () shape.check start).1 = false)
      (written : pool.world = effect exec performed start) : Alone exec start pool

/-- What the operations of a world do to the check. -/
structure Decides (exec : Semantics I Unit World) (start : World) : Prop where
  /-- The check changes nothing. -/
  checks : ∀ world, (exec () shape.check world).2 = world
  /-- The check refuses after some of the operations of a thread, if one of them is a write. -/
  occupied : ∀ tag performed, performed <+: shape.operations tag →
    (∃ op ∈ performed, shape.marks op) →
      shape.refuses (exec () shape.check (effect exec performed start)).1 = true

variable {shape} {exec : Semantics I Unit World} {start : World}

/-- A thread which performs an operation without having passed the check performs the check. -/
theorem Stage.waiting_of_perform {thread : Thread I Tag Out} {op : I.Op}
    {rest : I.Result op → Program I Out} (stage : shape.Stage thread none)
    (head : thread.rest = .perform op rest) :
    thread = ⟨thread.tag, [], shape.program thread.tag⟩ := by
  cases stage with
  | waiting => rfl
  | refused => cases head

/-- A thread which has refused stays without operations. -/
theorem Stage.after_check {tag : Tag} {result : I.Result shape.check}
    (refuses : shape.refuses result = true) {past : List (Event I)} :
    shape.Stage ⟨tag, past, if shape.refuses result then .done (shape.refusal tag)
      else shape.writing tag (shape.operations tag)⟩ none := by
  rw [if_pos refuses]
  exact .refused

/-- A thread which has passed the check has performed a write as soon as it has seen one. -/
theorem Stage.marked {thread : Thread I Tag Out} {performed : List I.Op}
    (stage : shape.Stage thread (some performed))
    (wrote : shape.Passed thread.past → ∃ event ∈ thread.past, shape.marks event.op) :
    performed <+: shape.operations thread.tag ∧ ∃ op ∈ performed, shape.marks op := by
  cases stage with
  | @passed tag past result performed remaining clear events split =>
      refine ⟨⟨remaining, split.symm⟩, ?_⟩
      obtain ⟨event, member, marked⟩ := wrote ⟨result, by simp, clear⟩
      rcases List.mem_append.mp member with later | first
      · have op : event.op ∈ past.map (·.op) := List.mem_map_of_mem later
        rw [events, List.mem_reverse] at op
        exact ⟨event.op, op, marked⟩
      · obtain rfl := List.mem_singleton.mp first
        exact absurd marked shape.unmarked

/-- The thread which has passed the check performs its next operation. -/
theorem Stage.after {thread : Thread I Tag Out} {op : I.Op} {rest : I.Result op → Program I Out}
    {performed : List I.Op} (stage : shape.Stage thread (some performed))
    (head : thread.rest = .perform op rest) (result : I.Result op) :
    shape.Stage (thread.after op rest result) (some (performed ++ [op])) := by
  cases stage with
  | @passed tag past first performed remaining clear events split =>
      cases remaining with
      | nil => cases head
      | cons next remaining =>
          injection head with same continues
          subst same
          obtain rfl := eq_of_heq continues
          change shape.Stage ⟨tag, (⟨next, result⟩ :: past) ++ [_], _⟩ _
          exact .passed clear (by simp [events]) (by simp [split])

theorem Alone.spawned {pool : Pool I World Tag Out} (alone : shape.Alone exec start pool)
    (tag : Tag) : shape.Alone exec start (pool.spawned shape.program tag) := by
  cases alone with
  | nobody others same =>
      refine .nobody (fun thread member => ?_) same
      rcases Pool.mem_spawned member with old | rfl
      · exact others thread old
      · exact .waiting
  | @somebody index thread performed selected stage others clear written =>
      obtain ⟨bound, -⟩ := List.getElem?_eq_some_iff.mp selected
      refine .somebody ((List.getElem?_append_left bound).trans selected) stage ?_ clear written
      intro position other different found
      rcases Nat.lt_or_ge position pool.threads.length with old | new
      · exact others position other different ((List.getElem?_append_left old).symm.trans found)
      · rw [Pool.spawned, List.getElem?_append_right new] at found
        obtain rfl := List.mem_singleton.mp (List.mem_of_getElem? found)
        exact .waiting

/-- One operation keeps a thread alone. -/
theorem Alone.performed {pool : Pool I World Tag Out} (alone : shape.Alone exec start pool)
    (decides : shape.Decides exec start) {index : ℕ} {thread : Thread I Tag Out} {op : I.Op}
    {rest : I.Result op → Program I Out} (apart : shape.Apart pool (.advance index ()))
    (selected : pool.threads[index]? = some thread) (head : thread.rest = .perform op rest) :
    shape.Alone exec start (pool.performed index thread op rest (exec () op pool.world)) := by
  cases alone with
  | nobody others same =>
      have waiting := (others thread (List.mem_of_getElem? selected)).waiting_of_perform head
      obtain ⟨tag, past, program⟩ := thread
      obtain ⟨rfl, rfl⟩ : past = [] ∧ program = shape.program tag := by
        injection waiting with _ fresh continues
        exact ⟨fresh, continues⟩
      injection head with checked continues
      subst checked
      obtain rfl := eq_of_heq continues
      cases result : shape.refuses (exec () shape.check start).1 with
      | true =>
          refine .nobody (fun other member => ?_) ((decides.checks _).trans same)
          rcases Pool.mem_performed member with old | rfl
          · exact others other old
          · exact .after_check (by rw [same, result])
      | false =>
          have clear : shape.refuses (exec () shape.check pool.world).1 = false := by
            rw [same, result]
          have stage : shape.Stage (Thread.after ⟨tag, [], shape.program tag⟩ shape.check
              (fun result => if shape.refuses result then .done (shape.refusal tag)
                else shape.writing tag (shape.operations tag))
              (exec () shape.check pool.world).1) (some []) := by
            rw [Thread.after, clear]
            change shape.Stage ⟨tag, [] ++ [_], _⟩ _
            exact .passed clear rfl rfl
          refine .somebody (Pool.getElem?_performed_self selected) stage ?_ result
            ((decides.checks _).trans same)
          intro position other different found
          rw [Pool.getElem?_performed_of_ne different] at found
          exact others other (List.mem_of_getElem? found)
  | @somebody sole writer performed chosen stage others clear written =>
      by_cases same : index = sole
      · -- the thread which has passed the check goes on
        subst same
        obtain rfl : thread = writer := Option.some.inj (selected.symm.trans chosen)
        refine .somebody (Pool.getElem?_performed_self selected) (stage.after head _) ?_ clear ?_
        · intro position other different found
          rw [Pool.getElem?_performed_of_ne different] at found
          exact others position other different found
        · rw [Pool.performed_world, written, effect_append_singleton]
      · -- another thread makes its check, and something is there already
        have waiting := (others index thread same selected).waiting_of_perform head
        obtain ⟨tag, past, program⟩ := thread
        obtain ⟨rfl, rfl⟩ : past = [] ∧ program = shape.program tag := by
          injection waiting with _ fresh continues
          exact ⟨fresh, continues⟩
        injection head with checked continues
        subst checked
        obtain rfl := eq_of_heq continues
        have next : (pool.threads[index]?).bind Thread.next = some shape.check := by
          rw [selected]
          rfl
        obtain ⟨part, marked⟩ := stage.marked (apart next writer (List.mem_of_getElem? chosen))
        have refuses := decides.occupied writer.tag performed part marked
        refine .somebody ((Pool.getElem?_performed_of_ne (Ne.symm same)).trans chosen)
          stage ?_ clear
          ((decides.checks _).trans written)
        intro position other different found
        by_cases self : position = index
        · subst self
          rw [Pool.getElem?_performed_self selected] at found
          obtain rfl := Option.some.inj found
          exact .after_check (by rw [written, refuses])
        · rw [Pool.getElem?_performed_of_ne self] at found
          exact others position other different found

/-- The operations which remain are performed one after another. -/
theorem writing_ends (start : World) {tag : Tag} {performed remaining : List I.Op}
    (split : shape.operations tag = performed ++ remaining) :
    Program.Ends exec (· = effect exec performed start) (shape.writing tag remaining)
      (fun value world => value = shape.success tag ∧
        world = effect exec (shape.operations tag) start)
      (fun world => ∃ part, part <+: shape.operations tag ∧ world = effect exec part start) := by
  induction remaining generalizing performed with
  | nil =>
      refine .of_done fun world same => ⟨rfl, ?_⟩
      rw [same, split, List.append_nil]
  | cons op remaining ih =>
      have next : shape.operations tag = (performed ++ [op]) ++ remaining := by
        rw [split, List.append_assoc, List.singleton_append]
      refine .perform (fun _ world => world = effect exec (performed ++ [op]) start) ?_ ?_
        fun _ => ih next
      · rintro world rfl
        exact ⟨performed, ⟨_, split.symm⟩, rfl⟩
      · rintro input world rfl
        refine ⟨(effect_append_singleton exec performed op start).symm, performed ++ [op],
          ⟨remaining, next.symm⟩, (effect_append_singleton exec performed op start).symm⟩

/-- A program alone refuses, or performs all of its operations, or an exception ends it between. -/
theorem program_ends (tag : Tag) (checks : (exec () shape.check start).2 = start) :
    Program.Ends exec (· = start) (shape.program tag)
      (fun value world =>
        (shape.refuses (exec () shape.check start).1 = true ∧ value = shape.refusal tag ∧
          world = start) ∨
        (shape.refuses (exec () shape.check start).1 = false ∧ value = shape.success tag ∧
          world = effect exec (shape.operations tag) start))
      (fun world => world = start ∨
        shape.refuses (exec () shape.check start).1 = false ∧
          ∃ part, part <+: shape.operations tag ∧ world = effect exec part start) := by
  refine .perform (fun result world => result = (exec () shape.check start).1 ∧
    world = start) (fun world same => Or.inl same) ?_ fun result => ?_
  · rintro input world rfl
    exact ⟨⟨rfl, checks⟩, Or.inl checks⟩
  · cases refuses : shape.refuses (exec () shape.check start).1 with
    | true =>
        split
        next => exact .of_done fun world same => Or.inl ⟨rfl, rfl, same.2⟩
        next other =>
          intro input fate position world same
          rw [same.1] at other
          exact absurd refuses other
    | false =>
        split
        next other =>
          intro input fate position world same
          rw [same.1, refuses] at other
          cases other
        next =>
          refine (writing_ends start (List.nil_append _).symm).conseq ?_ ?_ ?_
          · exact fun world same => same.2
          · exact fun value world reached => Or.inr ⟨rfl, reached⟩
          · exact fun world reached => Or.inr ⟨rfl, reached⟩

/-- Threads whose checks are apart write as one of them would alone. -/
theorem alone_of_reaches {pool : Pool I World Tag Out} (decides : shape.Decides exec start)
    (reach : Pool.Reaches shape.program exec shape.Apart (Pool.initial start) pool) :
    shape.Alone exec start pool := by
  refine Pool.invariant_of_reaches (.nobody nofun rfl) ?_ ?_ reach
  · intro pool tag _ alone _
    exact alone.spawned tag
  · intro pool index thread op rest input _ alone apart selected head
    exact alone.performed decides apart selected head

/-- A thread has returned something else than its refusal. -/
def Succeeded (thread : Thread I Tag Out) : Prop :=
  ∃ value, thread.rest = .done value ∧ value ≠ shape.refusal thread.tag

theorem Stage.not_succeeded {thread : Thread I Tag Out} (stage : shape.Stage thread none) :
    ¬ shape.Succeeded thread := by
  rintro ⟨value, returned, accepted⟩
  cases stage with
  | waiting => cases returned
  | refused =>
      injection returned with same
      exact accepted same.symm

theorem Stage.operations_of_succeeded {thread : Thread I Tag Out} {performed : List I.Op}
    (stage : shape.Stage thread (some performed)) (succeeded : shape.Succeeded thread) :
    performed = shape.operations thread.tag := by
  obtain ⟨value, returned, -⟩ := succeeded
  cases stage with
  | @passed tag past result performed remaining clear events split =>
      cases remaining with
      | nil => simp [split]
      | cons op remaining => cases returned

/-- The only thread which succeeded has written all of its operations. -/
theorem Alone.of_succeeded {pool : Pool I World Tag Out} (alone : shape.Alone exec start pool)
    {index : ℕ} {thread : Thread I Tag Out} (selected : pool.threads[index]? = some thread)
    (succeeded : shape.Succeeded thread) :
    pool.world = effect exec (shape.operations thread.tag) start ∧
      shape.refuses (exec () shape.check start).1 = false ∧
        ∀ position other, pool.threads[position]? = some other → shape.Succeeded other →
          position = index := by
  cases alone with
  | nobody others same =>
      exact absurd succeeded (others thread (List.mem_of_getElem? selected)).not_succeeded
  | @somebody sole writer performed chosen stage others clear written =>
      have only : ∀ position other, pool.threads[position]? = some other →
          shape.Succeeded other → position = sole := by
        intro position other found done
        by_contra different
        exact (others position other different found).not_succeeded done
      obtain rfl := only index thread selected succeeded
      obtain rfl : thread = writer := Option.some.inj (selected.symm.trans chosen)
      exact ⟨stage.operations_of_succeeded succeeded ▸ written, clear, only⟩

end CheckedWrites

end ZeroShield.Foundation
