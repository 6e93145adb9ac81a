import ZeroShield.Studio.Runs
import ZeroShield.Worker.Tasks

/-!
# Queued runs

A queued job names its experiment only; what is executed is the definition which is in the
experiment's file when the worker looks it up.  It is the submitted one as long as nothing changes
the file of an experiment with an outstanding job.
-/

namespace ZeroShield.Worker

open Foundation Models Platform Studio

/-- Tasks acting on the shared state. -/
abbrev TaskPool := Pool platform World Task (Option Response)

/-- A move of the tasks. -/
abbrev TaskMove := Move Task Input

/-- A started task. -/
abbrev TaskThread := Thread platform Task (Option Response)

/-- States reachable by tasks from a world on which nothing runs. -/
abbrev Reaches (services : Services) (guard : TaskPool → TaskMove → Prop) (start : World) :
    TaskPool → Prop :=
  Pool.Reaches (serveTask services) exec guard (Pool.initial start)

/-- What a request wrote into the experiments directory last. -/
def materialised (past : Past) : Option (String × ExperimentDefinition) :=
  past.findSome? fun event =>
    match event with
    | ⟨.writeExperiment experimentId definition, _⟩ => some (experimentId, definition)
    | _ => none

/-- The job which a request has published. -/
def published (past : Past) : Option RunJobMessage :=
  past.findSome? fun event =>
    match event with
    | ⟨.publish message, _⟩ => some message
    | _ => none

/-- The definition which a worker executes. -/
def executing (past : Past) : Option ExperimentDefinition :=
  past.findSome? fun event =>
    match event with
    | ⟨.runStage _ definition, _⟩ => some definition
    | _ => none

/-- The experiment and the definition of a run which was materialised and is not yet queued. -/
def submitting (thread : TaskThread) : Option (String × ExperimentDefinition) :=
  match thread.tag with
  | .request (.run _ _ _) =>
      if (published thread.past).isSome then none else materialised thread.past
  | _ => none

/-- The message which a worker received and whose experiment it has not looked up yet. -/
def awaiting (thread : TaskThread) : Option RunJobMessage :=
  if (lookedUp thread.past).isSome then none else (received thread.past).map (·.2)

/-- The experiments with outstanding jobs: queued ones, ones which may be queued again, ones which
are about to be looked up and ones which are about to be queued. -/
def outstanding (pool : TaskPool) : List String :=
  pool.world.queue.map (·.experimentId) ++ pool.world.unacked.map (·.2.experimentId) ++
    pool.threads.filterMap (fun thread => (awaiting thread).map (·.experimentId)) ++
    pool.threads.filterMap fun thread => (submitting thread).map (·.1)

/-- The file of an experiment with an outstanding job is only written as it is. -/
def FileKept (pool : TaskPool) : TaskMove → Prop
  | .spawn _ => True
  | .advance index _ =>
      match pool.threads[index]?.bind Thread.next with
      | some (.writeExperiment experimentId definition) =>
          experimentId ∈ outstanding pool →
            pool.world.experimentFile experimentId = some definition
      | _ => True

instance {pool : TaskPool} {move : TaskMove} : Decidable (FileKept pool move) := by
  unfold FileKept
  split
  · infer_instance
  · split <;> infer_instance

/-- A run request has read a version with a definition and has queued a job for it. -/
def Requested (thread : TaskThread) (message : RunJobMessage) (definition : ExperimentDefinition) :
    Prop :=
  ∃ versionId requestId user version, thread.tag = .request (.run versionId requestId user) ∧
    (⟨.getVersion versionId, .ok (some version)⟩ : Event platform) ∈ thread.past ∧
      (⟨.publish message, ()⟩ : Event platform) ∈ thread.past ∧ version.definition = definition

/-- A worker has received a job and has executed a stage of a definition. -/
def Executed (thread : TaskThread) (message : RunJobMessage) (definition : ExperimentDefinition) :
    Prop :=
  ∃ delivery stage result,
    (⟨.receive, some (delivery, message)⟩ : Event platform) ∈ thread.past ∧
      (⟨.runStage stage definition, result⟩ : Event platform) ∈ thread.past

/-- A message which may still lead to a lookup of its experiment. -/
def Held (pool : TaskPool) (message : RunJobMessage) : Prop :=
  message ∈ pool.world.queue ∨ (∃ delivery, (delivery, message) ∈ pool.world.unacked) ∨
    ∃ thread ∈ pool.threads, awaiting thread = some message

theorem mem_outstanding_of_held {pool : TaskPool} {message : RunJobMessage}
    (held : Held pool message) : message.experimentId ∈ outstanding pool := by
  simp only [outstanding, List.mem_append, List.mem_map, List.mem_filterMap]
  rcases held with queued | ⟨delivery, unacked⟩ | ⟨thread, member, waits⟩
  · exact Or.inl (Or.inl (Or.inl ⟨message, queued, rfl⟩))
  · exact Or.inl (Or.inl (Or.inr ⟨(delivery, message), unacked, rfl⟩))
  · exact Or.inl (Or.inr ⟨thread, member, by rw [waits, Option.map_some]⟩)

theorem mem_outstanding_of_submitting {pool : TaskPool} {thread : TaskThread}
    (member : thread ∈ pool.threads) {experimentId : String} {definition : ExperimentDefinition}
    (submits : submitting thread = some (experimentId, definition)) :
    experimentId ∈ outstanding pool := by
  simp only [outstanding, List.mem_append, List.mem_filterMap]
  exact Or.inr ⟨thread, member, by rw [submits, Option.map_some]⟩

section Heads

variable {op : Op} {result : op.Result} {past : Past}

theorem materialised_cons
    (other : ∀ experimentId definition, op ≠ .writeExperiment experimentId definition) :
    materialised (⟨op, result⟩ :: past) = materialised past := by
  cases op <;> first | rfl | exact absurd rfl (other _ _)

theorem published_of_cons (unpublished : published (⟨op, result⟩ :: past) = none) :
    published past = none := by
  by_cases publishes : ∃ message, op = .publish message
  · obtain ⟨message, rfl⟩ := publishes
    cases unpublished
  · cases op <;> first | exact unpublished | exact absurd ⟨_, rfl⟩ publishes

end Heads

/-! ## What one operation changes -/

section Performed

variable {pool : TaskPool} {index : ℕ} {thread : TaskThread} {op : Op}
  {rest : op.Result → Program platform (Option Response)} {input : Input}

/-- A file keeps its definition unless another one is written into it. -/
theorem experimentFile_performed {experimentId : String} {definition : ExperimentDefinition}
    (present : pool.world.experimentFile experimentId = some definition)
    (kept : ∀ written, op = .writeExperiment experimentId written → written = definition) :
    (exec input op pool.world).2.experimentFile experimentId = some definition := by
  by_cases writes : ∃ written other, op = .writeExperiment written other
  · obtain ⟨written, other, rfl⟩ := writes
    change (pool.world.writeExperiment written other).experimentFile experimentId = _
    rw [World.experimentFile_writeExperiment]
    split
    case isTrue same =>
      subst same
      rw [kept other rfl]
    case isFalse => exact present
  · have same : (exec input op pool.world).2.experiments = pool.world.experiments :=
      exec_experiments fun experimentId definition equal => writes ⟨experimentId, definition, equal⟩
    rw [World.experimentFile, same]
    exact present

/-- A worker awaits what it awaited before or what it has just received. -/
theorem held_of_awaiting_after (selected : pool.threads[index]? = some thread)
    {message : RunJobMessage}
    (waits : awaiting (Thread.after thread op rest (exec input op pool.world).1) = some message) :
    Held pool message := by
  unfold awaiting at waits
  split at waits
  case isTrue => cases waits
  case isFalse pending =>
    have unseen : lookedUp thread.past = none :=
      lookedUp_of_cons (Option.not_isSome_iff_eq_none.mp pending)
    have waited {delivery : ℕ} (got : received thread.past = some (delivery, message)) :
        Held pool message := by
      refine Or.inr (Or.inr ⟨thread, List.mem_of_getElem? selected, ?_⟩)
      rw [awaiting, unseen, got]
      rfl
    obtain ⟨⟨delivery, _⟩, got, rfl⟩ := Option.map_eq_some_iff.mp waits
    by_cases receives : op = .receive
    · subst receives
      rcases Option.or_eq_some_iff.mp ((received_cons_receive _).symm.trans got) with new | ⟨-, old⟩
      · obtain ⟨found, queued, same⟩ := Option.map_eq_some_iff.mp new
        obtain rfl := (Prod.mk.inj same).2
        exact Or.inl (List.mem_of_getElem? queued)
      · exact waited old
    · exact waited ((received_cons receives).symm.trans got)

/-- A message which is held afterwards was held before or has just been published. -/
theorem held_performed (selected : pool.threads[index]? = some thread) {message : RunJobMessage}
    (held : Held (pool.performed index thread op rest (exec input op pool.world)) message) :
    Held pool message ∨ op = .publish message := by
  rcases held with queued | ⟨delivery, unacked⟩ | ⟨later, member, waits⟩
  · rcases mem_queue_exec queued with queued | unacked | published
    · exact Or.inl (Or.inl queued)
    · exact Or.inl (Or.inr (Or.inl unacked))
    · exact Or.inr published
  · rcases mem_unacked_exec unacked with queued | unacked
    · exact Or.inl (Or.inl queued)
    · exact Or.inl (Or.inr (Or.inl ⟨delivery, unacked⟩))
  · rcases Pool.mem_performed member with old | rfl
    · exact Or.inl (Or.inr (Or.inr ⟨later, old, waits⟩))
    · exact Or.inl (held_of_awaiting_after selected waits)

/-- A run which is being submitted afterwards was so before or has just written its definition. -/
theorem submitting_performed (selected : pool.threads[index]? = some thread) {later : TaskThread}
    (member : later ∈ (pool.performed index thread op rest (exec input op pool.world)).threads)
    {experimentId : String} {definition : ExperimentDefinition}
    (submits : submitting later = some (experimentId, definition)) :
    (∃ thread ∈ pool.threads, submitting thread = some (experimentId, definition)) ∨
      op = .writeExperiment experimentId definition := by
  rcases Pool.mem_performed member with old | rfl
  · exact Or.inl ⟨later, old, submits⟩
  · unfold submitting at submits
    split at submits
    case h_2 => cases submits
    case h_1 versionId requestId user tag =>
      split at submits
      case isTrue => cases submits
      case isFalse unpublished =>
        by_cases writes : ∃ written other, op = .writeExperiment written other
        · obtain ⟨written, other, rfl⟩ := writes
          obtain ⟨rfl, rfl⟩ := Prod.mk.inj (Option.some.inj submits)
          exact Or.inr rfl
        · refine Or.inl ⟨thread, List.mem_of_getElem? selected, ?_⟩
          have before : published thread.past = none :=
            published_of_cons (Option.not_isSome_iff_eq_none.mp unpublished)
          have same : materialised thread.past = some (experimentId, definition) := by
            rw [← submits]
            exact (materialised_cons fun experimentId definition equal =>
              writes ⟨experimentId, definition, equal⟩).symm
          have tag : thread.tag = .request (.run versionId requestId user) := tag
          simp only [submitting, tag, before, Option.isSome_none, Bool.false_eq_true, if_false,
            same]

end Performed

/-! ## What the script says about runs -/

section Script

variable {thread : TaskThread}

/-- A version which was read is valid. -/
theorem valid_of_read (sound : taskScript.Sound thread) {versionId : String}
    {version : ExperimentVersion}
    (seen : (⟨.getVersion versionId, .ok (some version)⟩ : Event platform) ∈ thread.past) :
    version.Valid := by
  obtain ⟨_, _, _, promised⟩ := sound.1.allowed_of_mem seen
  exact (promised version rfl).1

/-- Only definitions of the named experiment are written. -/
theorem experimentId_of_write (sound : taskScript.Sound thread) {experimentId : String}
    {definition : ExperimentDefinition}
    (next : thread.next = some (.writeExperiment experimentId definition)) :
    definition.experimentId = experimentId := by
  obtain ⟨rest, head⟩ := Thread.next_eq_some.mp next
  have allowed := sound.allowed head
  have valid := fun (versionId : String) (version : ExperimentVersion) =>
    @valid_of_read _ sound versionId version
  obtain ⟨tag, past, _⟩ := thread
  cases tag with
  | request request =>
      cases allowed with
      | @materialiseApproved versionId _ _ _ version =>
          exact (valid versionId version (by simp)).experimentId.symm
      | @materialiseRun versionId _ _ version =>
          exact (valid versionId version (by simp)).experimentId.symm
  | deliver =>
      cases allowed with
      | book books => cases books
  | redeliver delivery => cases allowed.2

/-- Before a run is published, it has been materialised. -/
theorem submitting_of_publish (sound : taskScript.Sound thread) {message : RunJobMessage}
    {rest : Op.Result (.publish message) → Program platform (Option Response)}
    (head : thread.rest = .perform (.publish message) rest) :
    ∃ definition, submitting thread = some (message.experimentId, definition) ∧
      Requested (Thread.after thread (.publish message) rest ()) message definition := by
  have allowed := sound.allowed head
  obtain ⟨tag, past, _⟩ := thread
  cases tag with
  | request request =>
      cases allowed with
      | @publish versionId requestId user version hex now job _ _ same =>
          refine ⟨version.definition, ?_, versionId, requestId, user, version, rfl, by
            simp [Thread.after], by simp [Thread.after], rfl⟩
          rw [same]
          rfl
  | deliver =>
      cases allowed with
      | book books => cases books
  | redeliver delivery => cases allowed.2

/-- An experiment is looked up for a received message, once. -/
theorem awaiting_of_lookup (sound : taskScript.Sound thread) {experimentId : String}
    (next : thread.next = some (.findExperiment experimentId)) :
    ∃ delivery message, received thread.past = some (delivery, message) ∧
      lookedUp thread.past = none ∧ experimentId = message.experimentId := by
  obtain ⟨rest, head⟩ := Thread.next_eq_some.mp next
  have allowed := sound.allowed head
  obtain ⟨tag, past, _⟩ := thread
  cases tag with
  | request request => cases allowed
  | deliver =>
      cases allowed with
      | lookUp waiting unseen => exact ⟨_, _, waiting, unseen, rfl⟩
      | book books => cases books
  | redeliver delivery => cases allowed.2

/-- A message is received first of all. -/
theorem past_of_receive (sound : taskScript.Sound thread)
    (next : thread.next = some .receive) : thread.past = [] := by
  obtain ⟨rest, head⟩ := Thread.next_eq_some.mp next
  have allowed := sound.allowed head
  obtain ⟨tag, past, _⟩ := thread
  cases tag with
  | request request => cases allowed
  | deliver =>
      cases allowed with
      | receive => rfl
      | book books => cases books
  | redeliver delivery => cases allowed.2

end Script

/-! ## The invariant -/

/-- Files are named after their experiments, outstanding jobs find their definitions in the files,
and job identifiers are fresh. -/
structure Running (pool : TaskPool) : Prop where
  named : ∀ file ∈ pool.world.experiments.rows,
    file.name = World.experimentFileName file.definition.experimentId
  submitted : ∀ thread ∈ pool.threads, ∀ experimentId definition,
    submitting thread = some (experimentId, definition) →
      pool.world.experimentFile experimentId = some definition
  held : ∀ message, Held pool message → ∃ requester ∈ pool.threads, ∃ definition,
    Requested requester message definition ∧
      pool.world.experimentFile message.experimentId = some definition
  found : ∀ worker ∈ pool.threads, ∀ delivery message definition,
    received worker.past = some (delivery, message) →
      lookedUp worker.past = some (message.experimentId, some definition) →
        ∃ requester ∈ pool.threads, Requested requester message definition
  issued : ∀ index tag hex, pool.SawAt index tag ⟨.uuid4, hex⟩ →
    ∃ number < pool.world.issued, hex = hexText number
  once : ∀ left right tag other hex, pool.SawAt left tag ⟨.uuid4, hex⟩ →
    pool.SawAt right other ⟨.uuid4, hex⟩ → left = right

theorem Requested.extended {thread later : TaskThread} {message : RunJobMessage}
    {definition : ExperimentDefinition} (requested : Requested thread message definition)
    (same : later.tag = thread.tag) (suffix : thread.past <:+ later.past) :
    Requested later message definition := by
  obtain ⟨versionId, requestId, user, version, tag, read, publishes, content⟩ := requested
  exact ⟨versionId, requestId, user, version, same.trans tag, suffix.subset read,
    suffix.subset publishes, content⟩

/-- What is found for an experiment is in its own file. -/
theorem experimentFile_of_find {world : World} {experimentId : String}
    {definition : ExperimentDefinition}
    (named : ∀ file ∈ world.experiments.rows,
      file.name = World.experimentFileName file.definition.experimentId)
    (found : world.findExperiment experimentId = some definition) :
    world.experimentFile experimentId = some definition := by
  have same : definition.experimentId = experimentId := by simpa using List.find?_some found
  have discovered := List.mem_of_find?_eq_some found
  simp only [World.discoverExperiments, List.mem_filter, List.mem_map,
    List.mem_insertionSort] at discovered
  obtain ⟨⟨file, present, rfl⟩, -⟩ := discovered
  have stored := Table.mem_rows.mp present
  rw [named file present, same] at stored
  rw [World.experimentFile, stored, Option.map_some]

section Steps

variable {services : Services} {pool : TaskPool} {index : ℕ} {thread : TaskThread} {op : Op}
  {rest : op.Result → Program platform (Option Response)} {input : Input}

theorem named_performed (running : Running pool) (sound : taskScript.Sound thread)
    (head : thread.rest = .perform op rest) :
    ∀ file ∈ (exec input op pool.world).2.experiments.rows,
      file.name = World.experimentFileName file.definition.experimentId := by
  intro file present
  by_cases writes : ∃ written other, op = .writeExperiment written other
  · obtain ⟨written, other, rfl⟩ := writes
    rcases Table.mem_rows_upsert present with rfl | ⟨-, old⟩
    · rw [experimentId_of_write sound (Thread.next_eq_some.mpr ⟨rest, head⟩)]
    · exact running.named file old
  · rw [exec_experiments fun experimentId definition equal =>
      writes ⟨experimentId, definition, equal⟩] at present
    exact running.named file present

/-- The file of an experiment with an outstanding job stays as it is. -/
theorem experimentFile_kept (kept : FileKept pool (.advance index input))
    (selected : pool.threads[index]? = some thread) (head : thread.rest = .perform op rest)
    {experimentId : String} {definition : ExperimentDefinition}
    (waits : experimentId ∈ outstanding pool)
    (present : pool.world.experimentFile experimentId = some definition) :
    (exec input op pool.world).2.experimentFile experimentId = some definition := by
  refine experimentFile_performed present ?_
  rintro written rfl
  have next : thread.next = some (.writeExperiment experimentId written) :=
    Thread.next_eq_some.mpr ⟨rest, head⟩
  simp only [FileKept, selected, Option.bind_some, next] at kept
  exact Option.some.inj ((kept waits).symm.trans present)

theorem requested_performed (selected : pool.threads[index]? = some thread)
    {message : RunJobMessage}
    {definition : ExperimentDefinition}
    (requested : ∃ requester ∈ pool.threads, Requested requester message definition) :
    ∃ requester ∈ (pool.performed index thread op rest (exec input op pool.world)).threads,
      Requested requester message definition := by
  obtain ⟨requester, member, requested⟩ := requested
  obtain ⟨later, present, same, suffix⟩ := Pool.extended_of_mem selected member
  exact ⟨later, present, requested.extended same suffix⟩

/-- A lookup finds the definition which was submitted. -/
theorem found_performed (running : Running pool) (sound : taskScript.Sound thread)
    (selected : pool.threads[index]? = some thread) (head : thread.rest = .perform op rest)
    {delivery : ℕ} {message : RunJobMessage} {definition : ExperimentDefinition}
    (receives : received (Thread.after thread op rest (exec input op pool.world).1).past =
      some (delivery, message))
    (looks : lookedUp (Thread.after thread op rest (exec input op pool.world).1).past =
      some (message.experimentId, some definition)) :
    ∃ requester ∈ pool.threads, Requested requester message definition := by
  have member := List.mem_of_getElem? selected
  have next : thread.next = some op := Thread.next_eq_some.mpr ⟨rest, head⟩
  by_cases lookup : ∃ experimentId, op = .findExperiment experimentId
  · obtain ⟨experimentId, rfl⟩ := lookup
    obtain ⟨other, waited, got, unseen, rfl⟩ := awaiting_of_lookup sound next
    obtain ⟨rfl, rfl⟩ := Prod.mk.inj (Option.some.inj
      (got.symm.trans ((received_cons (by simp)).symm.trans receives)))
    have find : pool.world.findExperiment waited.experimentId = some definition :=
      (Prod.mk.inj (Option.some.inj looks)).2
    have waits : awaiting thread = some waited := by
      rw [awaiting, unseen, got]
      rfl
    obtain ⟨requester, present, submitted, requested, file⟩ :=
      running.held waited (Or.inr (Or.inr ⟨thread, member, waits⟩))
    have same := file.symm.trans (experimentFile_of_find running.named find)
    obtain rfl := Option.some.inj same
    exact ⟨requester, present, requested⟩
  · have looked := (lookedUp_cons (not_exists.mp lookup)).symm.trans looks
    by_cases first : op = .receive
    · subst first
      rw [past_of_receive sound next] at looked
      cases looked
    · exact running.found thread member delivery message definition
        ((received_cons first).symm.trans receives) looked

/-- One guarded operation keeps the invariant. -/
theorem Running.performed (running : Running pool) (sound : taskScript.Sound thread)
    (kept : FileKept pool (.advance index input))
    (selected : pool.threads[index]? = some thread) (head : thread.rest = .perform op rest) :
    Running (pool.performed index thread op rest (exec input op pool.world)) := by
  constructor
  case named => exact named_performed running sound head
  case submitted =>
    intro later member experimentId definition submits
    rcases submitting_performed selected member submits with ⟨old, present, before⟩ | writes
    · exact experimentFile_kept kept selected head (mem_outstanding_of_submitting present before)
        (running.submitted old present experimentId definition before)
    · subst writes
      change (pool.world.writeExperiment experimentId definition).experimentFile experimentId = _
      rw [World.experimentFile_writeExperiment, if_pos rfl]
  case held =>
    intro message held
    rcases held_performed selected held with old | publishes
    · obtain ⟨requester, member, definition, requested, file⟩ := running.held message old
      obtain ⟨later, present, requested⟩ :=
        requested_performed selected ⟨requester, member, requested⟩
      exact ⟨later, present, definition, requested,
        experimentFile_kept kept selected head (mem_outstanding_of_held old) file⟩
    · subst publishes
      obtain ⟨definition, submits, requested⟩ := submitting_of_publish sound head
      exact ⟨_, Pool.after_mem_performed selected, definition, requested,
        running.submitted thread (List.mem_of_getElem? selected) _ definition submits⟩
  case found =>
    intro worker member delivery message definition receives looks
    refine requested_performed selected ?_
    rcases Pool.mem_performed member with old | rfl
    · exact running.found worker old delivery message definition receives looks
    · exact found_performed running sound selected head receives looks
  case issued =>
    intro position tag hex seen
    rcases (Pool.sawAt_performed selected).mp seen with old | ⟨-, -, event⟩
    · obtain ⟨number, bound, same⟩ := running.issued position tag hex old
      exact ⟨number, bound.trans_le issued_le_exec, same⟩
    · obtain ⟨rfl, fresh⟩ := uuid4_of_event event
      exact ⟨pool.world.issued, Nat.lt_succ_self _, fresh⟩
  case once =>
    -- an identifier issued before differs from the one issued now
    have apart : ∀ position tag hex, pool.SawAt position tag ⟨.uuid4, hex⟩ →
        hex ≠ hexText pool.world.issued := by
      intro position tag hex seen same
      obtain ⟨number, bound, old⟩ := running.issued position tag hex seen
      exact bound.ne (hexText_inj.mp (old.symm.trans same))
    intro left right tag other hex leftSeen rightSeen
    rcases (Pool.sawAt_performed selected).mp leftSeen with leftOld | ⟨rfl, -, leftEvent⟩
    · rcases (Pool.sawAt_performed selected).mp rightSeen with rightOld | ⟨-, -, rightEvent⟩
      · exact running.once left right tag other hex leftOld rightOld
      · exact absurd (uuid4_of_event rightEvent).2 (apart left tag hex leftOld)
    · rcases (Pool.sawAt_performed selected).mp rightSeen with rightOld | ⟨rfl, -, -⟩
      · exact absurd (uuid4_of_event leftEvent).2 (apart right other hex rightOld)
      · rfl

end Steps

/-- A world on which nothing is queued and whose files are named after their experiments. -/
structure Idle (world : World) : Prop where
  named : ∀ file ∈ world.experiments.rows,
    file.name = World.experimentFileName file.definition.experimentId
  noQueue : world.queue = []
  noDelivery : world.unacked = []

section Reachable

variable {services : Services} {start : World} {pool : TaskPool}

theorem Running.initial (idle : Idle start) : Running (Pool.initial start) := by
  constructor
  case named => exact idle.named
  case submitted => rintro thread ⟨⟩
  case held =>
    rintro message (queued | ⟨delivery, unacked⟩ | ⟨thread, ⟨⟩, -⟩)
    · change message ∈ start.queue at queued
      rw [idle.noQueue] at queued
      cases queued
    · change (delivery, message) ∈ start.unacked at unacked
      rw [idle.noDelivery] at unacked
      cases unacked
  case found => rintro worker ⟨⟩
  case issued => rintro index tag hex ⟨_, ⟨⟩, -⟩
  case once => rintro left right tag other hex ⟨_, ⟨⟩, -⟩

theorem Running.spawned {tag : Task} (running : Running pool) :
    Running (pool.spawned (serveTask services) tag) := by
  have fresh : submitting ⟨tag, [], serveTask services tag⟩ = none := by
    unfold submitting
    split <;> rfl
  constructor
  case named => exact running.named
  case submitted =>
    intro thread member experimentId definition submits
    rcases Pool.mem_spawned member with old | rfl
    · exact running.submitted thread old experimentId definition submits
    · rw [fresh] at submits
      cases submits
  case held =>
    intro message held
    have before : Held pool message := by
      rcases held with queued | unacked | ⟨thread, member, waits⟩
      · exact Or.inl queued
      · exact Or.inr (Or.inl unacked)
      · rcases Pool.mem_spawned member with old | rfl
        · exact Or.inr (Or.inr ⟨thread, old, waits⟩)
        · cases waits
    obtain ⟨requester, member, submitted⟩ := running.held message before
    exact ⟨requester, List.mem_append_left _ member, submitted⟩
  case found =>
    intro worker member delivery message definition receives looks
    rcases Pool.mem_spawned member with old | rfl
    · obtain ⟨requester, present, requested⟩ :=
        running.found worker old delivery message definition receives looks
      exact ⟨requester, List.mem_append_left _ present, requested⟩
    · cases receives
  case issued =>
    simp only [Pool.sawAt_spawned]
    exact running.issued
  case once =>
    simp only [Pool.sawAt_spawned]
    exact running.once

theorem sound_of_reaches {guard : TaskPool → TaskMove → Prop}
    (reach : Reaches services guard start pool) :
    ∀ thread ∈ pool.threads, taskScript.Sound thread :=
  Protocol.sound_of_reaches (serveTask_obeys services) promised_exec rfl reach

theorem running_of_reaches (idle : Idle start) (reach : Reaches services FileKept start pool) :
    Running pool := by
  refine Pool.invariant_of_reaches (Running.initial idle) ?_ ?_ reach
  · intro pool tag _ running _
    exact running.spawned
  · intro pool index thread op rest input reach running kept selected head
    exact running.performed (sound_of_reaches reach thread (List.mem_of_getElem? selected)) kept
      selected head

/-- The events of a run request up to its publication. -/
theorem published_shape {thread : TaskThread} (sound : taskScript.Sound thread)
    {versionId : String} {requestId : Option String} {user : User}
    (tag : thread.tag = .request (.run versionId requestId user)) {message : RunJobMessage}
    (seen : (⟨.publish message, ()⟩ : Event platform) ∈ thread.past) :
    ∃ version hex now job, message.jobId = "JOB-" ++ hex ∧
      [⟨.publish message, ()⟩, ⟨.saveJob job, ()⟩, ⟨.utcNow, now⟩, ⟨.uuid4, hex⟩,
        ⟨.writeExperiment version.experimentId version.definition, ()⟩,
        ⟨.getVersion versionId, .ok (some version)⟩] <:+ thread.past := by
  obtain ⟨earlier, suffix, allowed, -⟩ := sound.1.allowed_of_mem seen
  rw [tag] at allowed
  cases allowed with
  | @publish _ _ _ version hex now job _ named _ =>
      exact ⟨version, hex, now, job, named, suffix⟩

/-- A run request reads one version. -/
theorem read_unique {thread : TaskThread} (sound : taskScript.Sound thread)
    {versionId : String} {requestId : Option String} {user : User}
    (tag : thread.tag = .request (.run versionId requestId user)) {left right : Event platform}
    (leftRead : ∃ versionId, left.op = .getVersion versionId)
    (rightRead : ∃ versionId, right.op = .getVersion versionId)
    (leftSeen : left ∈ thread.past) (rightSeen : right ∈ thread.past) : left = right := by
  have last (event : Event platform) (reads : ∃ versionId, event.op = .getVersion versionId)
      (seen : event ∈ thread.past) : [event] <:+ thread.past := by
    obtain ⟨earlier, suffix, allowed, -⟩ := sound.1.allowed_of_mem seen
    obtain ⟨other, reads⟩ := reads
    rw [tag, reads] at allowed
    cases allowed with
    | readForRun => exact suffix
  have same := List.suffix_of_suffix_length_le (last left leftRead leftSeen)
    (last right rightRead rightSeen) le_rfl
  exact List.singleton_inj.mp (same.eq_of_length rfl)

end Reachable

/-! ## What a worker has seen -/

section Deliveries

variable {past : Past} {delivery : ℕ} {message : RunJobMessage}
  {found : Option ExperimentDefinition}

/-- Nothing is received after something else has been seen. -/
theorem not_receive_of_ne_nil {op : Op} (allowed : DeliveryAllowed past op) (later : past ≠ []) :
    op ≠ .receive := by
  rintro rfl
  cases allowed with
  | receive => exact later rfl
  | book books => cases books

theorem received_of_mem (lawful : taskScript.Lawful .deliver past)
    (seen : (⟨.receive, some (delivery, message)⟩ : Event platform) ∈ past) :
    received past = some (delivery, message) := by
  induction past with
  | nil => cases seen
  | cons event earlier ih =>
      rcases List.mem_cons.mp seen with rfl | before
      · rfl
      · have got := ih lawful.2.2 before
        have later : earlier ≠ [] := by
          rintro rfl
          cases before
        rw [← got]
        exact received_cons (not_receive_of_ne_nil lawful.1 later)

/-- What was received and looked up stays so. -/
theorem Seen.extended {earlier : Past} (seen : Seen delivery message found earlier)
    (lawful : taskScript.Lawful .deliver past) (suffix : earlier <:+ past) :
    Seen delivery message found past := by
  induction past with
  | nil =>
      obtain rfl := List.suffix_nil.mp suffix
      exact seen
  | cons event past ih =>
      rcases List.suffix_cons_iff.mp suffix with rfl | before
      · exact seen
      · have kept := ih lawful.2.2 before
        have later : past ≠ [] := by
          rintro rfl
          cases kept.1
        refine kept.cons (not_receive_of_ne_nil lawful.1 later) ?_
        intro experimentId looks
        have allowed : DeliveryAllowed past event.op := lawful.1
        rw [looks] at allowed
        cases allowed with
        | lookUp _ unseen =>
            rw [kept.2] at unseen
            cases unseen
        | book books => cases books

/-- A worker executes what it found for the message it received. -/
theorem seen_of_executed {thread : TaskThread} (sound : taskScript.Sound thread)
    {definition : ExperimentDefinition} (executed : Executed thread message definition) :
    ∃ delivery, Seen delivery message (some definition) thread.past := by
  obtain ⟨delivery, stage, result, receives, runs⟩ := executed
  obtain ⟨earlier, suffix, allowed, -⟩ := sound.1.allowed_of_mem runs
  have lawful := sound.1
  obtain ⟨tag, past, _⟩ := thread
  cases tag with
  | request request => cases allowed
  | redeliver other => cases allowed.2
  | deliver =>
      cases allowed with
      | book books => cases books
      | @runStage _ other waited _ _ got looked =>
          have seen : Seen other waited (some definition) past :=
            Seen.extended ⟨got, looked⟩ lawful ((List.suffix_cons _ _).trans suffix)
          obtain ⟨rfl, rfl⟩ := Prod.mk.inj (Option.some.inj
            (seen.1.symm.trans (received_of_mem lawful receives)))
          exact ⟨other, seen⟩

end Deliveries

/-- Every executed job was requested, by a single request, and what is executed is the definition of
the version for which it was requested. -/
structure RunsAsSubmitted (pool : TaskPool) : Prop where
  requested : ∀ worker ∈ pool.threads, ∀ message definition, Executed worker message definition →
    ∃ requester ∈ pool.threads, Requested requester message definition
  submitted : ∀ worker ∈ pool.threads, ∀ message definition, Executed worker message definition →
    ∀ requester ∈ pool.threads, ∀ other submitted, Requested requester other submitted →
      other.jobId = message.jobId → definition = submitted
  single : ∀ (left right : ℕ) (first second : TaskThread) message other definition submitted,
    pool.threads[left]? = some first → pool.threads[right]? = some second →
      Requested first message definition → Requested second other submitted →
        message.jobId = other.jobId → left = right

section Reachable

variable {services : Services} {start : World} {pool : TaskPool}

/-- Requests with the same job identifier are one, and were made for one version. -/
theorem requested_unique (running : Running pool)
    (sound : ∀ thread ∈ pool.threads, taskScript.Sound thread) {left right : ℕ}
    {first second : TaskThread} {message other : RunJobMessage}
    {definition submitted : ExperimentDefinition} (atLeft : pool.threads[left]? = some first)
    (atRight : pool.threads[right]? = some second) (requested : Requested first message definition)
    (otherRequested : Requested second other submitted) (same : message.jobId = other.jobId) :
    left = right ∧ definition = submitted := by
  obtain ⟨versionId, _, _, version, tag, read, publishes, rfl⟩ := requested
  obtain ⟨otherId, _, _, otherVersion, otherTag, otherRead, otherPublishes, rfl⟩ := otherRequested
  have firstSound := sound first (List.mem_of_getElem? atLeft)
  have secondSound := sound second (List.mem_of_getElem? atRight)
  obtain ⟨_, hex, _, _, named, suffix⟩ := published_shape firstSound tag publishes
  obtain ⟨_, otherHex, _, _, otherNamed, otherSuffix⟩ :=
    published_shape secondSound otherTag otherPublishes
  obtain rfl : hex = otherHex :=
    prefix_append_inj.mp (named.symm.trans (same.trans otherNamed))
  obtain rfl : left = right := running.once left right first.tag second.tag hex
    ⟨first, atLeft, rfl, suffix.subset (by simp)⟩
      ⟨second, atRight, rfl, otherSuffix.subset (by simp)⟩
  obtain rfl : first = second := Option.some.inj (atLeft.symm.trans atRight)
  have reads := read_unique firstSound tag ⟨_, rfl⟩ ⟨_, rfl⟩ read otherRead
  have versions : version = otherVersion := by
    obtain rfl : versionId = otherId := Op.getVersion.inj (congrArg Event.op reads)
    simpa using reads
  exact ⟨rfl, congrArg _ versions⟩

/-- Jobs are executed as submitted in every run which leaves the files of experiments with
outstanding jobs as they are. -/
theorem runsAsSubmitted_of_reaches (services : Services) {start : World} (idle : Idle start)
    {pool : TaskPool} (reach : Reaches services FileKept start pool) : RunsAsSubmitted pool := by
  have running := running_of_reaches idle reach
  have sound := sound_of_reaches reach
  have requested : ∀ worker ∈ pool.threads, ∀ message definition,
      Executed worker message definition →
        ∃ requester ∈ pool.threads, Requested requester message definition := by
    intro worker member message definition executed
    obtain ⟨delivery, received_, lookedUp_⟩ := seen_of_executed (sound worker member) executed
    exact running.found worker member delivery message definition received_ lookedUp_
  constructor
  case requested => exact requested
  case submitted =>
    intro worker member message definition executed second otherMember other submitted
      otherRequested same
    obtain ⟨first, present, submits⟩ := requested worker member message definition executed
    obtain ⟨left, atLeft⟩ := List.getElem?_of_mem present
    obtain ⟨right, atRight⟩ := List.getElem?_of_mem otherMember
    exact (requested_unique running sound atLeft atRight submits otherRequested same.symm).2
  case single =>
    intro left right first second message other definition submitted atLeft atRight requests
      otherRequests same
    exact (requested_unique running sound atLeft atRight requests otherRequests same).1

end Reachable

/-! ## Sample runs -/

namespace Sample

open Studio.Sample

/-- Create a version with a title and take it through its review up to an approval. -/
def approvedVersion (first number : ℕ) (title : String) : List TaskMove :=
  serveAlone first 5 1 (Task.request (.create { body with title } none researcher)) ++
    serveAlone (first + 1) 5 2
      (Task.request (.review .submitReview (versionId number) none none researcher)) ++
    serveAlone (first + 2) 5 3
      (Task.request (.review .startReview (versionId number) none none reviewer)) ++
    serveAlone (first + 3) 6 4
      (Task.request (.review .approve (versionId number) none none reviewer))

/-- Request a run of a version. -/
def runVersion (index number : ℕ) : List TaskMove :=
  serveAlone index 7 5 (.request (.run (versionId number) none researcher))

/-- The titles of the versions which a run request has read. -/
def readTitles (thread : TaskThread) : List String :=
  match thread.tag with
  | .request (.run _ _ _) =>
      thread.past.filterMap fun event =>
        match event with
        | ⟨.getVersion _, .ok (some version)⟩ => some version.definition.title
        | _ => none
  | _ => []

theorem title_mem_readTitles {thread : TaskThread} {message : RunJobMessage}
    {definition : ExperimentDefinition} (requested : Requested thread message definition) :
    definition.title ∈ readTitles thread := by
  obtain ⟨versionId, requestId, user, version, tag, read, -, rfl⟩ := requested
  simp only [readTitles, tag, List.mem_filterMap]
  exact ⟨_, read, rfl⟩

theorem executed_of_executing {thread : TaskThread} {delivery : ℕ} {message : RunJobMessage}
    {definition : ExperimentDefinition} (receives : received thread.past = some (delivery, message))
    (executes : executing thread.past = some definition) : Executed thread message definition := by
  obtain ⟨⟨op, result⟩, receivedHere, same⟩ := List.exists_of_findSome?_eq_some receives
  obtain ⟨⟨other, stageResult⟩, ranHere, runs⟩ := List.exists_of_findSome?_eq_some executes
  cases op with
  | receive =>
      cases other with
      | runStage stage found =>
          obtain rfl := Option.some.inj runs
          obtain rfl : result = some (delivery, message) := same
          exact ⟨delivery, stage, stageResult, receivedHere, ranHere⟩
      | _ => cases runs
  | _ => cases same

end Sample

/-- A second version is approved and run after the job of the first one was done. -/
theorem runsAsSubmitted_of_sample : ∃ pool, RunsAsSubmitted pool ∧
    pool.world.jobs.rows.map (·.status) = [.completed, .completed] := by
  obtain ⟨pool, reach, checked⟩ :
      ∃ pool, Reaches Studio.Sample.services FileKept {} pool ∧
        decide (pool.world.jobs.rows.map (·.status) = [.completed, .completed]) = true :=
    Pool.exists_reaches
      (Sample.approvedVersion 0 1 "First" ++ Sample.runVersion 4 1 ++
        Studio.Sample.serveAlone 5 25 6 Task.deliver ++
        Sample.approvedVersion 6 2 "Second" ++ Sample.runVersion 10 2 ++
        Studio.Sample.serveAlone 11 25 6 Task.deliver)
      (by decide +kernel)
  have idle : Idle {} := ⟨by rintro _ ⟨⟩, rfl, rfl⟩
  exact ⟨pool, runsAsSubmitted_of_reaches _ idle reach, of_decide_eq_true checked⟩

/-- A second version is approved before the job of the first one is delivered, and is executed in
its place. -/
theorem not_runsAsSubmitted_of_approval :
    ¬ ∀ services start pool, Idle start → Reaches services (fun _ _ => True) start pool →
      RunsAsSubmitted pool := by
  intro claim
  obtain ⟨pool, reach, checked⟩ :
      ∃ pool, Reaches Studio.Sample.services (fun _ _ => True) {} pool ∧
        decide ((∃ worker ∈ pool.threads, (received worker.past).isSome = true ∧
            (executing worker.past).map (·.title) = some "Second") ∧
          ∀ thread ∈ pool.threads, ∀ title ∈ Sample.readTitles thread, title = "First") = true :=
    Pool.exists_reaches
      (Sample.approvedVersion 0 1 "First" ++ Sample.runVersion 4 1 ++
        Sample.approvedVersion 5 2 "Second" ++ Studio.Sample.serveAlone 9 7 6 Task.deliver)
      (by decide +kernel)
  obtain ⟨⟨worker, member, receives, executes⟩, titles⟩ := of_decide_eq_true checked
  obtain ⟨⟨delivery, message⟩, receives⟩ := Option.isSome_iff_exists.mp receives
  obtain ⟨definition, executes, second⟩ := Option.map_eq_some_iff.mp executes
  have idle : Idle {} := ⟨by rintro _ ⟨⟩, rfl, rfl⟩
  obtain ⟨requester, present, requested⟩ := (claim _ {} pool idle reach).requested worker member
    message definition (Sample.executed_of_executing receives executes)
  have first := titles requester present definition.title (Sample.title_mem_readTitles requested)
  rw [second] at first
  exact absurd first (by decide)

end ZeroShield.Worker
