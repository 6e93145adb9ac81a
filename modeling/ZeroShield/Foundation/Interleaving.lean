import ZeroShield.Foundation.Program
import Mathlib.Tactic.Common

/-!
# Interleaved programs

A pool holds a shared world and the threads which have been started on it.  A move either starts a
new thread or lets one thread perform its next operation, so a run of a pool is an arbitrary
interleaving of the operations of finitely many programs.

What a thread may do is stated by a protocol: which operation is allowed after the events the thread
has already seen.  A program obeys a protocol when every operation it can ever issue is allowed.
Obedience is checked once per program, without regard to other threads, and then holds of every
thread of every reachable pool.
-/

namespace ZeroShield.Foundation

variable {I : Interface} {Tag Out Input World : Type}

/-- A started program: the request it serves, the events it has seen (newest first) and what
remains to be executed. -/
structure Thread (I : Interface) (Tag Out : Type) where
  /-- The request served by this thread. -/
  tag : Tag
  /-- Events seen by this thread, newest first. -/
  past : List (Event I)
  /-- The remaining program. -/
  rest : Program I Out

/-- The thread which performed an operation, afterwards. -/
def Thread.after (thread : Thread I Tag Out) (op : I.Op) (rest : I.Result op → Program I Out)
    (result : I.Result op) : Thread I Tag Out where
  tag := thread.tag
  past := ⟨op, result⟩ :: thread.past
  rest := rest result

/-- The operation which a thread performs next, if it has not returned. -/
def Thread.next (thread : Thread I Tag Out) : Option I.Op :=
  match thread.rest with
  | .done _ => none
  | .perform op _ => some op

theorem Thread.next_eq_some {thread : Thread I Tag Out} {op : I.Op} :
    thread.next = some op ↔ ∃ rest, thread.rest = .perform op rest := by
  unfold Thread.next
  split
  case h_1 value returned => simp [returned]
  case h_2 other rest continues =>
    rw [continues, Option.some.injEq]
    constructor
    · rintro rfl
      exact ⟨rest, rfl⟩
    · rintro ⟨_, equal⟩
      injection equal

/-- A shared world with its threads and the global log of events, newest first. -/
structure Pool (I : Interface) (World Tag Out : Type) where
  /-- The shared world. -/
  world : World
  /-- All threads ever started, finished ones included. -/
  threads : List (Thread I Tag Out)
  /-- Every event with the index of the thread which performed it, newest first. -/
  log : List (ℕ × Event I)

/-- Start a new request, or let one thread perform its next operation. -/
inductive Move (Tag Input : Type)
  | spawn (tag : Tag)
  | advance (thread : ℕ) (input : Input)

namespace Pool

/-- A world on which nothing has been started. -/
def initial (world : World) : Pool I World Tag Out :=
  { world, threads := [], log := [] }

/-- Start a thread for a request. -/
def spawned (code : Tag → Program I Out) (pool : Pool I World Tag Out) (tag : Tag) :
    Pool I World Tag Out :=
  { pool with threads := pool.threads ++ [{ tag, past := [], rest := code tag }] }

/-- The pool after thread `index` has performed `op` with the given outcome. -/
def performed (pool : Pool I World Tag Out) (index : ℕ) (thread : Thread I Tag Out) (op : I.Op)
    (next : I.Result op → Program I Out) (outcome : I.Result op × World) :
    Pool I World Tag Out where
  world := outcome.2
  threads := pool.threads.set index (thread.after op next outcome.1)
  log := (index, ⟨op, outcome.1⟩) :: pool.log

/-- Execute one move, failing when the selected thread is absent or finished. -/
def step (code : Tag → Program I Out) (exec : Semantics I Input World)
    (pool : Pool I World Tag Out) : Move Tag Input → Option (Pool I World Tag Out)
  | .spawn tag => some (pool.spawned code tag)
  | .advance index input =>
      match pool.threads[index]? with
      | some ⟨tag, past, .perform op next⟩ =>
          some (pool.performed index ⟨tag, past, .perform op next⟩ op next
            (exec input op pool.world))
      | _ => none

/-- Execute a list of moves as long as a guard admits them. -/
def runGuarded (code : Tag → Program I Out) (exec : Semantics I Input World)
    (guard : Pool I World Tag Out → Move Tag Input → Prop)
    [∀ pool move, Decidable (guard pool move)] :
    Pool I World Tag Out → List (Move Tag Input) → Option (Pool I World Tag Out)
  | pool, [] => some pool
  | pool, move :: moves =>
      if guard pool move then
        match pool.step code exec move with
        | some next => next.runGuarded code exec guard moves
        | none => none
      else none

/-- Pools reachable from `start` by moves which all satisfy `guard` in the pool they are made in. -/
inductive Reaches (code : Tag → Program I Out) (exec : Semantics I Input World)
    (guard : Pool I World Tag Out → Move Tag Input → Prop) (start : Pool I World Tag Out) :
    Pool I World Tag Out → Prop
  | refl : Reaches code exec guard start start
  | step {pool next : Pool I World Tag Out} {move : Move Tag Input} :
      Reaches code exec guard start pool →
      guard pool move →
      pool.step code exec move = some next →
      Reaches code exec guard start next

/-- A thread serving a request has seen an event. -/
def Saw (pool : Pool I World Tag Out) (tag : Tag) (event : Event I) : Prop :=
  ∃ thread ∈ pool.threads, thread.tag = tag ∧ event ∈ thread.past

/-- The thread at a position serves a request and has seen an event. -/
def SawAt (pool : Pool I World Tag Out) (index : ℕ) (tag : Tag) (event : Event I) : Prop :=
  ∃ thread, pool.threads[index]? = some thread ∧ thread.tag = tag ∧ event ∈ thread.past

/-- No thread has an operation left to perform. -/
def Quiescent (pool : Pool I World Tag Out) : Prop :=
  ∀ thread ∈ pool.threads, ∃ value, thread.rest = .done value

theorem quiescent_of_next {pool : Pool I World Tag Out}
    (finished : ∀ thread ∈ pool.threads, thread.next = none) : pool.Quiescent := by
  intro thread member
  have next := finished thread member
  unfold Thread.next at next
  split at next
  case h_1 value returned => exact ⟨value, returned⟩
  case h_2 => cases next

variable {code : Tag → Program I Out} {exec : Semantics I Input World}
  {guard : Pool I World Tag Out → Move Tag Input → Prop}

/-- A successful advance performs exactly the head operation of the selected thread. -/
theorem step_advance {pool next : Pool I World Tag Out} {index : ℕ} {input : Input}
    (step : pool.step code exec (.advance index input) = some next) :
    ∃ thread op rest,
      pool.threads[index]? = some thread ∧ thread.rest = .perform op rest ∧
        next = pool.performed index thread op rest (exec input op pool.world) := by
  cases selected : pool.threads[index]? with
  | none => simp [Pool.step, selected] at step
  | some thread =>
      obtain ⟨tag, past, rest⟩ := thread
      cases rest with
      | done value => simp [Pool.step, selected] at step
      | perform op rest =>
          simp only [Pool.step, selected, Option.some.injEq] at step
          exact ⟨_, op, rest, rfl, rfl, step.symm⟩

theorem step_spawn {pool next : Pool I World Tag Out} {tag : Tag}
    (step : pool.step code exec (.spawn tag : Move Tag Input) = some next) :
    next = pool.spawned code tag := by
  simpa [Pool.step] using step.symm

/-- Membership in the threads after a spawn. -/
theorem mem_spawned {pool : Pool I World Tag Out} {tag : Tag} {thread : Thread I Tag Out}
    (member : thread ∈ (pool.spawned code tag).threads) :
    thread ∈ pool.threads ∨ thread = ⟨tag, [], code tag⟩ := by
  simpa [spawned] using member

/-- A property which holds at the start and is kept by every start of a thread and by every
operation performed in a guarded reachable pool holds of every reachable pool. -/
@[elab_as_elim]
theorem invariant_of_reaches {start pool : Pool I World Tag Out}
    {motive : Pool I World Tag Out → Prop} (base : motive start)
    (spawn : ∀ pool tag, Reaches code exec guard start pool → motive pool →
      guard pool (.spawn tag) → motive (pool.spawned code tag))
    (perform : ∀ pool index thread op rest input, Reaches code exec guard start pool →
      motive pool → guard pool (.advance index input) → pool.threads[index]? = some thread →
      thread.rest = .perform op rest →
        motive (pool.performed index thread op rest (exec input op pool.world)))
    (reach : Reaches code exec guard start pool) : motive pool := by
  induction reach with
  | refl => exact base
  | @step pool next move reach permitted step ih =>
      cases move with
      | spawn tag =>
          rw [step_spawn step]
          exact spawn pool tag reach ih permitted
      | advance index input =>
          obtain ⟨thread, op, rest, selected, head, rfl⟩ := step_advance step
          exact perform pool index thread op rest input reach ih permitted selected head

theorem Reaches.spawned {start pool : Pool I World Tag Out} {tag : Tag}
    (reach : Reaches code exec guard start pool) (permitted : guard pool (.spawn tag)) :
    Reaches code exec guard start (pool.spawned code tag) :=
  reach.step permitted rfl

theorem Reaches.performed {start pool : Pool I World Tag Out} {thread : Thread I Tag Out}
    {op : I.Op} {rest : I.Result op → Program I Out} (reach : Reaches code exec guard start pool)
    (index : ℕ) (input : Input) (permitted : guard pool (.advance index input))
    (selected : pool.threads[index]? = some thread) (head : thread.rest = .perform op rest) :
    Reaches code exec guard start
      (pool.performed index thread op rest (exec input op pool.world)) := by
  obtain ⟨tag, past, program⟩ := thread
  subst head
  exact reach.step permitted (by rw [Pool.step, selected])

/-- A weaker guard admits more pools. -/
theorem Reaches.mono {weaker : Pool I World Tag Out → Move Tag Input → Prop}
    {start pool : Pool I World Tag Out} (implied : ∀ pool move, guard pool move → weaker pool move)
    (reach : Reaches code exec guard start pool) : Reaches code exec weaker start pool := by
  induction reach with
  | refl => exact .refl
  | step _ permitted step ih => exact ih.step (implied _ _ permitted) step

/-- Moves after moves. -/
theorem Reaches.trans {start middle pool : Pool I World Tag Out}
    (first : Reaches code exec guard start middle) (second : Reaches code exec guard middle pool) :
    Reaches code exec guard start pool := by
  induction second with
  | refl => exact first
  | step _ permitted step ih => exact ih.step permitted step

section Performed

variable {pool : Pool I World Tag Out} {index : ℕ} {thread : Thread I Tag Out} {op : I.Op}
  {rest : I.Result op → Program I Out} {outcome : I.Result op × World}

@[simp] theorem performed_world :
    (pool.performed index thread op rest outcome).world = outcome.2 := rfl

theorem mem_performed {other : Thread I Tag Out}
    (member : other ∈ (pool.performed index thread op rest outcome).threads) :
    other ∈ pool.threads ∨ other = Thread.after thread op rest outcome.1 :=
  List.mem_or_eq_of_mem_set member

/-- The performing thread is present afterwards. -/
theorem after_mem_performed (selected : pool.threads[index]? = some thread) :
    Thread.after thread op rest outcome.1 ∈
      (pool.performed index thread op rest outcome).threads := by
  obtain ⟨bound, -⟩ := List.getElem?_eq_some_iff.mp selected
  exact List.mem_set bound _

/-- The threads around the one which performs an operation. -/
theorem exists_around_performed (op : I.Op) (rest : I.Result op → Program I Out)
    (outcome : I.Result op × World) (selected : pool.threads[index]? = some thread) :
    ∃ before after, pool.threads = before ++ thread :: after ∧
      (pool.performed index thread op rest outcome).threads =
        before ++ thread.after op rest outcome.1 :: after := by
  obtain ⟨bound, found⟩ := List.getElem?_eq_some_iff.mp selected
  refine ⟨pool.threads.take index, pool.threads.drop (index + 1), ?_, ?_⟩
  · rw [← found, List.getElem_cons_drop, List.take_append_drop]
  · exact List.set_eq_take_append_cons_drop.trans (if_pos bound)

/-- Threads only gain events. -/
theorem extended_of_mem (selected : pool.threads[index]? = some thread)
    {other : Thread I Tag Out} (member : other ∈ pool.threads) :
    ∃ later ∈ (pool.performed index thread op rest outcome).threads,
      later.tag = other.tag ∧ other.past <:+ later.past := by
  obtain ⟨position, found⟩ := List.getElem?_of_mem member
  by_cases same : position = index
  · subst same
    obtain rfl : other = thread := Option.some.inj (found.symm.trans selected)
    exact ⟨_, after_mem_performed selected, rfl, List.suffix_cons _ _⟩
  · refine ⟨other, List.mem_of_getElem? (i := position) ?_, rfl, List.suffix_rfl⟩
    simpa [performed, List.getElem?_set_ne (Ne.symm same)] using found

/-- What has been seen after an operation. -/
theorem saw_performed (selected : pool.threads[index]? = some thread) {tag : Tag}
    {event : Event I} :
    (pool.performed index thread op rest outcome).Saw tag event ↔
      pool.Saw tag event ∨ (thread.tag = tag ∧ event = ⟨op, outcome.1⟩) := by
  constructor
  · rintro ⟨other, member, rfl, seen⟩
    rcases mem_performed member with old | rfl
    · exact Or.inl ⟨other, old, rfl, seen⟩
    · rcases List.mem_cons.mp seen with rfl | earlier
      · exact Or.inr ⟨rfl, rfl⟩
      · exact Or.inl ⟨thread, List.mem_of_getElem? selected, rfl, earlier⟩
  · rintro (⟨other, member, rfl, seen⟩ | ⟨rfl, rfl⟩)
    · obtain ⟨later, present, same, suffix⟩ := extended_of_mem selected member
      exact ⟨later, present, same, suffix.subset seen⟩
    · exact ⟨_, after_mem_performed selected, rfl, List.mem_cons_self⟩

theorem getElem?_performed_self (selected : pool.threads[index]? = some thread) :
    (pool.performed index thread op rest outcome).threads[index]? =
      some (Thread.after thread op rest outcome.1) := by
  obtain ⟨bound, -⟩ := List.getElem?_eq_some_iff.mp selected
  simp [performed, bound]

theorem getElem?_performed_of_ne {position : ℕ} (other : position ≠ index) :
    (pool.performed index thread op rest outcome).threads[position]? =
      pool.threads[position]? := by
  simp [performed, List.getElem?_set_ne (Ne.symm other)]

/-- Threads keep their requests. -/
theorem map_tag_performed (selected : pool.threads[index]? = some thread) :
    (pool.performed index thread op rest outcome).threads.map (·.tag) =
      pool.threads.map (·.tag) := by
  refine List.ext_getElem? fun position => ?_
  rw [List.getElem?_map, List.getElem?_map]
  by_cases same : position = index
  · subst same
    rw [getElem?_performed_self selected, selected]
    rfl
  · rw [getElem?_performed_of_ne same]

/-- What the thread at a position has seen after an operation. -/
theorem sawAt_performed (selected : pool.threads[index]? = some thread) {position : ℕ} {tag : Tag}
    {event : Event I} :
    (pool.performed index thread op rest outcome).SawAt position tag event ↔
      pool.SawAt position tag event ∨
        (position = index ∧ thread.tag = tag ∧ event = ⟨op, outcome.1⟩) := by
  by_cases same : position = index
  · subst same
    simp only [SawAt, getElem?_performed_self selected, selected, Option.some.injEq,
      exists_eq_left', Thread.after, List.mem_cons, true_and]
    tauto
  · simp only [SawAt, getElem?_performed_of_ne same, same, false_and, or_false]

/-- An event of another operation has been seen before. -/
theorem saw_performed_of_ne (selected : pool.threads[index]? = some thread) {tag : Tag}
    {event : Event I} (other : op ≠ event.op) :
    (pool.performed index thread op rest outcome).Saw tag event ↔ pool.Saw tag event := by
  rw [saw_performed selected, or_iff_left]
  rintro ⟨-, rfl⟩
  exact other rfl

end Performed

@[simp] theorem spawned_world {pool : Pool I World Tag Out} {tag : Tag} :
    (pool.spawned code tag).world = pool.world := rfl

@[simp] theorem saw_spawned {pool : Pool I World Tag Out} {started tag : Tag} {event : Event I} :
    (pool.spawned code started).Saw tag event ↔ pool.Saw tag event := by
  constructor
  · rintro ⟨thread, member, same, seen⟩
    rcases mem_spawned member with old | rfl
    · exact ⟨thread, old, same, seen⟩
    · cases seen
  · rintro ⟨thread, member, same, seen⟩
    exact ⟨thread, List.mem_append_left _ member, same, seen⟩

@[simp] theorem sawAt_spawned {pool : Pool I World Tag Out} {position : ℕ} {started tag : Tag}
    {event : Event I} :
    (pool.spawned code started).SawAt position tag event ↔ pool.SawAt position tag event := by
  constructor
  · rintro ⟨thread, found, same, seen⟩
    simp only [spawned] at found
    rcases Nat.lt_or_ge position pool.threads.length with old | new
    · rw [List.getElem?_append_left old] at found
      exact ⟨thread, found, same, seen⟩
    · rw [List.getElem?_append_right new] at found
      obtain rfl := List.mem_singleton.mp (List.mem_of_getElem? found)
      cases seen
  · rintro ⟨thread, found, same, seen⟩
    obtain ⟨bound, -⟩ := List.getElem?_eq_some_iff.mp found
    exact ⟨thread, (List.getElem?_append_left bound).trans found, same, seen⟩

section Computed

variable [∀ pool move, Decidable (guard pool move)]

/-- A computed run reaches its final pool. -/
theorem reaches_of_runGuarded {start pool final : Pool I World Tag Out}
    {moves : List (Move Tag Input)} (reach : Reaches code exec guard start pool)
    (execution : pool.runGuarded code exec guard moves = some final) :
    Reaches code exec guard start final := by
  induction moves generalizing pool with
  | nil =>
      obtain rfl : pool = final := by simpa [runGuarded] using execution
      exact reach
  | cons move moves ih =>
      unfold runGuarded at execution
      split at execution
      case isFalse => cases execution
      case isTrue permitted =>
        split at execution
        case h_2 => cases execution
        case h_1 next stepped => exact ih (reach.step permitted stepped) execution

/-- A property checked at the end of a computed run holds of a reachable pool. -/
theorem exists_reaches {start : Pool I World Tag Out} {check : Pool I World Tag Out → Bool}
    (moves : List (Move Tag Input))
    (checked : (start.runGuarded code exec guard moves).any check = true) :
    ∃ pool, Reaches code exec guard start pool ∧ check pool = true := by
  cases execution : start.runGuarded code exec guard moves with
  | none => simp [execution] at checked
  | some pool =>
      rw [execution] at checked
      exact ⟨pool, reaches_of_runGuarded .refl execution, checked⟩

end Computed

end Pool

/-- What threads may do and may rely on. -/
structure Protocol (I : Interface) (Tag Out : Type) where
  /-- Operations allowed to a thread after the events it has seen. -/
  allowed : Tag → List (Event I) → I.Op → Prop
  /-- Facts which hold of every result of an operation, in every world. -/
  promised : (op : I.Op) → I.Result op → Prop
  /-- What holds when a thread returns a value after the events it has seen. -/
  finished : Tag → List (Event I) → Out → Prop

namespace Protocol

variable (protocol : Protocol I Tag Out)

/-- Every operation which a program can still issue is allowed, and what it returns satisfies a
postcondition. -/
def Ensures {α : Type} (tag : Tag) (post : List (Event I) → α → Prop) :
    Program I α → List (Event I) → Prop
  | .done value, past => post past value
  | .perform op next, past =>
      protocol.allowed tag past op ∧ ∀ result, protocol.promised op result →
        Ensures tag post (next result) (⟨op, result⟩ :: past)

/-- Every operation which a program can still issue is allowed. -/
def Obeys (tag : Tag) (program : Program I Out) (past : List (Event I)) : Prop :=
  protocol.Ensures tag (protocol.finished tag) program past

/-- Every event of a past was allowed by the events before it and kept its promise. -/
def Lawful (tag : Tag) : List (Event I) → Prop
  | [] => True
  | event :: earlier =>
      protocol.allowed tag earlier event.op ∧ protocol.promised event.op event.result ∧
        Lawful tag earlier

/-- A thread whose past is lawful and whose remaining program obeys the protocol. -/
def Sound (thread : Thread I Tag Out) : Prop :=
  protocol.Lawful thread.tag thread.past ∧ protocol.Obeys thread.tag thread.rest thread.past

variable {protocol}

section Ensures

variable {α β : Type} {tag : Tag} {program : Program I α} {past : List (Event I)}

theorem Ensures.mono {post weaker : List (Event I) → α → Prop}
    (ensures : protocol.Ensures tag post program past)
    (implied : ∀ past value, post past value → weaker past value) :
    protocol.Ensures tag weaker program past := by
  induction program generalizing past with
  | done value => exact implied past value ensures
  | perform op next ih =>
      exact ⟨ensures.1, fun result promised => ih result (ensures.2 result promised)⟩

/-- Sequential composition. -/
theorem Ensures.bind {post : List (Event I) → α → Prop} {final : List (Event I) → β → Prop}
    {next : α → Program I β} (ensures : protocol.Ensures tag post program past)
    (continues : ∀ past value, post past value → protocol.Ensures tag final (next value) past) :
    protocol.Ensures tag final (program >>= next) past := by
  induction program generalizing past with
  | done value => exact continues past value ensures
  | perform op rest ih =>
      exact ⟨ensures.1, fun result promised => ih result (ensures.2 result promised)⟩

/-- A program leads from pasts with one property to pasts with another. -/
abbrev Leads (protocol : Protocol I Tag Out) (tag : Tag) (pre post : List (Event I) → Prop)
    (program : Program I α) : Prop :=
  ∀ past, pre past → protocol.Ensures tag (fun past _ => post past) program past

section Leads

variable {pre middle post : List (Event I) → Prop}

theorem leads_done (value : α) : protocol.Leads tag pre pre (.done value) :=
  fun _ before => before

theorem leads_call {op : I.Op} (allowed : ∀ past, pre past → protocol.allowed tag past op)
    (seen : ∀ past result, pre past → post (⟨op, result⟩ :: past)) :
    protocol.Leads tag pre post (Program.call op) :=
  fun past before => ⟨allowed past before, fun result _ => seen past result before⟩

theorem Leads.bind {next : α → Program I β} (leads : protocol.Leads tag pre middle program)
    (continues : ∀ value, protocol.Leads tag middle post (next value)) :
    protocol.Leads tag pre post (program >>= next) :=
  fun past before => (leads past before).bind fun later value seen => continues value later seen

theorem Leads.mono {stronger weaker : List (Event I) → Prop}
    (leads : protocol.Leads tag pre post program) (before : ∀ past, stronger past → pre past)
    (after : ∀ past, post past → weaker past) : protocol.Leads tag stronger weaker program :=
  fun past strong => (leads past (before past strong)).mono fun later _ seen => after later seen

end Leads

/-- A program which obeys a protocol obeys every protocol which allows and promises as much. -/
theorem Obeys.map {Tag' Out' : Type} {wider : Protocol I Tag' Out'} {tag' : Tag'}
    {program : Program I Out} {f : Out → Out'} (obeys : protocol.Obeys tag program past)
    (allowed : ∀ past op, protocol.allowed tag past op → wider.allowed tag' past op)
    (promised : ∀ op result, wider.promised op result → protocol.promised op result)
    (finished : ∀ past value, protocol.finished tag past value →
      wider.finished tag' past (f value)) :
    wider.Obeys tag' (f <$> program) past := by
  induction program generalizing past with
  | done value => exact finished past value obeys
  | perform op next ih =>
      exact ⟨allowed past op obeys.1, fun result kept =>
        ih result (obeys.2 result (promised op result kept))⟩

end Ensures

theorem Lawful.allowed_of_mem {tag : Tag} {past : List (Event I)} {event : Event I}
    (lawful : protocol.Lawful tag past) (member : event ∈ past) :
    ∃ earlier, event :: earlier <:+ past ∧ protocol.allowed tag earlier event.op ∧
      protocol.promised event.op event.result := by
  induction past with
  | nil => simp at member
  | cons head earlier ih =>
      rcases List.mem_cons.mp member with rfl | later
      · exact ⟨earlier, List.suffix_rfl, lawful.1, lawful.2.1⟩
      · obtain ⟨before, suffix, allowed⟩ := ih lawful.2.2 later
        exact ⟨before, suffix.trans (List.suffix_cons _ _), allowed⟩

theorem Sound.after {thread : Thread I Tag Out} {op : I.Op}
    {next : I.Result op → Program I Out} {result : I.Result op} (sound : protocol.Sound thread)
    (rest : thread.rest = .perform op next) (promised : protocol.promised op result) :
    protocol.Sound (Thread.after thread op next result) := by
  obtain ⟨lawful, obeys⟩ := sound
  rw [rest] at obeys
  exact ⟨⟨obeys.1, promised, lawful⟩, obeys.2 result promised⟩

theorem Sound.allowed {thread : Thread I Tag Out} {op : I.Op}
    {next : I.Result op → Program I Out} (sound : protocol.Sound thread)
    (rest : thread.rest = .perform op next) : protocol.allowed thread.tag thread.past op := by
  have obeys := sound.2
  rw [rest] at obeys
  exact obeys.1

theorem Sound.finished {thread : Thread I Tag Out} {value : Out} (sound : protocol.Sound thread)
    (rest : thread.rest = .done value) : protocol.finished thread.tag thread.past value := by
  have obeys := sound.2
  rwa [rest] at obeys

variable {code : Tag → Program I Out} {exec : Semantics I Input World}
  {guard : Pool I World Tag Out → Move Tag Input → Prop}

/-- If every program obeys the protocol and operations keep their promises, then every thread of
every pool reachable from sound threads is sound. -/
theorem sound_of_sound {start pool : Pool I World Tag Out}
    (obedient : ∀ tag, protocol.Obeys tag (code tag) [])
    (faithful : ∀ input op world, protocol.promised op (exec input op world).1)
    (base : ∀ thread ∈ start.threads, protocol.Sound thread)
    (reach : Pool.Reaches code exec guard start pool) :
    ∀ thread ∈ pool.threads, protocol.Sound thread := by
  refine Pool.invariant_of_reaches base ?_ ?_ reach
  · intro pool tag _ sound _ thread member
    rcases Pool.mem_spawned member with old | rfl
    · exact sound thread old
    · exact ⟨trivial, obedient tag⟩
  · intro pool index thread op rest input _ sound _ selected head other member
    rcases Pool.mem_performed member with old | rfl
    · exact sound other old
    · exact (sound thread (List.mem_of_getElem? selected)).after head
        (faithful input op pool.world)

/-- The same from a pool without threads. -/
theorem sound_of_reaches {start pool : Pool I World Tag Out}
    (obedient : ∀ tag, protocol.Obeys tag (code tag) [])
    (faithful : ∀ input op world, protocol.promised op (exec input op world).1)
    (fresh : start.threads = [])
    (reach : Pool.Reaches code exec guard start pool) :
    ∀ thread ∈ pool.threads, protocol.Sound thread :=
  sound_of_sound obedient faithful (by simp [fresh]) reach

end Protocol

end ZeroShield.Foundation
