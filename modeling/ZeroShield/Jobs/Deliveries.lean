import ZeroShield.Jobs.Lifecycle
import ZeroShield.Worker.Tasks

/-!
# Deliveries of a job which is done

A message is acknowledged after its job was processed, so it is delivered again when its worker is
lost in between, and every delivery processes the job without looking at its stored status.  A job
which is done stays so as long as its message is only delivered while the job is not done and nobody
else works on it.
-/

namespace ZeroShield.Jobs

open Foundation Models Platform

/-- A delivery to a worker, or the broker taking a message back from a lost one. -/
inductive Courier
  | deliver
  | redeliver (delivery : ℕ)

def Courier.program : Courier → Program platform Unit
  | .deliver => Worker.onMessage
  | .redeliver delivery => call (.requeue delivery)

abbrev CourierPool : Type := Pool platform World Courier Unit

abbrev CourierMove : Type := Move Courier Input

abbrev CourierThread : Type := Thread platform Courier Unit

/-- The stored record of a job has a terminal status. -/
def Done (world : World) (jobId : String) : Prop :=
  ∃ job ∈ world.jobs.lookup jobId, job.status ∈ terminalStatuses

instance {world : World} {jobId : String} : Decidable (Done world jobId) :=
  inferInstanceAs (Decidable (∃ job ∈ world.jobs.lookup jobId, _))

/-- A move in which a worker executes a stage of the experiment of a job. -/
def Executes (jobId : String) (pool : CourierPool) : CourierMove → Prop
  | .spawn _ => False
  | .advance index _ =>
      ∃ thread delivery message stage experiment, pool.threads[index]? = some thread ∧
        Worker.received thread.past = some (delivery, message) ∧ message.jobId = jobId ∧
          thread.next = some (.runStage stage experiment)

/-- Once a job is done, its record never changes and its experiment is not executed. -/
def StaysDone (guard : CourierPool → CourierMove → Prop) (start : World) : Prop :=
  ∀ jobId pool later, Pool.Reaches Courier.program exec guard (.initial start) pool →
    Pool.Reaches Courier.program exec guard pool later → Done pool.world jobId →
      later.world.jobs.lookup jobId = pool.world.jobs.lookup jobId ∧
        ∀ move, guard later move → ¬ Executes jobId later move

/-- A message is only delivered while its job is not done and no other delivery of the job is
unacknowledged, and a worker whose message was taken back does nothing more. -/
def Undisturbed (pool : CourierPool) : CourierMove → Prop
  | .spawn _ => True
  | .advance index input =>
      match (pool.threads[index]? : Option CourierThread) with
      | none => True
      | some thread =>
          match thread.next, Worker.received thread.past with
          | some .receive, _ =>
              ∀ message ∈ pool.world.queue[input.delivery]?, ¬ Done pool.world message.jobId ∧
                ∀ other ∈ pool.world.unacked, other.2.jobId ≠ message.jobId
          | _, some delivered => delivered ∈ pool.world.unacked
          | _, none => True

instance {pool : CourierPool} {move : CourierMove} : Decidable (Undisturbed pool move) := by
  cases move <;> unfold Undisturbed <;> dsimp only
  · infer_instance
  · split
    · infer_instance
    · split <;> infer_instance

/-! ## What a delivery does -/

/-- A terminal status was saved. -/
def Ended (past : Past) : Prop :=
  ∃ job, (⟨.saveJob job, ()⟩ : Event platform) ∈ past ∧ job.status ∈ terminalStatuses

/-- The script of deliveries: nothing is saved or executed after a terminal status was saved. -/
def courierScript : Protocol platform Courier Unit where
  allowed
    | .deliver, past, .receive => past = []
    | .deliver, past, .saveJob job =>
        ∃ delivery message, Worker.received past = some (delivery, message) ∧
          job.jobId = message.jobId ∧ ¬ Ended past
    | .deliver, past, .runStage _ _ => (Worker.received past).isSome ∧ ¬ Ended past
    | .deliver, past, .acknowledge _ => (Worker.received past).isSome
    | .deliver, past, .runSummary _ => (Worker.received past).isSome
    | .deliver, past, .findExperiment _ => (Worker.received past).isSome
    | .deliver, past, op => Worker.books op = true ∧ (Worker.received past).isSome
    | .redeliver delivery, _, op => op = .requeue delivery
  promised _ _ := True
  finished _ _ _ := True

section Delivery

variable {α : Type} {delivery : ℕ} {message : RunJobMessage} {past : Past}

/-- A message was received. -/
def Received (delivery : ℕ) (message : RunJobMessage) (past : Past) : Prop :=
  Worker.received past = some (delivery, message)

/-- A message was received, and its job was not yet saved with a terminal status. -/
def Working (delivery : ℕ) (message : RunJobMessage) (past : Past) : Prop :=
  Received delivery message past ∧ ¬ Ended past

theorem ended_cons {op : Op} {result : op.Result}
    (other : ∀ job, op = .saveJob job → job.status ∉ terminalStatuses) :
    Ended (⟨op, result⟩ :: past) ↔ Ended past := by
  constructor
  · rintro ⟨job, member, terminal⟩
    rcases List.mem_cons.mp member with same | earlier
    · injection same with ops
      exact absurd terminal (other job ops.symm)
    · exact ⟨job, earlier, terminal⟩
  · rintro ⟨job, member, terminal⟩
    exact ⟨job, List.mem_cons_of_mem _ member, terminal⟩

theorem Received.cons {op : Op} {result : op.Result} (received : Received delivery message past)
    (other : op ≠ .receive) : Received delivery message (⟨op, result⟩ :: past) :=
  (Worker.received_cons other).trans received

theorem Working.cons {op : Op} {result : op.Result} (working : Working delivery message past)
    (noReceive : op ≠ .receive)
    (other : ∀ job, op = .saveJob job → job.status ∉ terminalStatuses) :
    Working delivery message (⟨op, result⟩ :: past) :=
  ⟨working.1.cons noReceive, (ended_cons other).not.mpr working.2⟩

/-- Operations which are allowed at any time after the message was received. -/
structure Eases (op : Op) : Prop where
  allowed : ∀ past, (Worker.received past).isSome → courierScript.allowed .deliver past op
  noReceive : op ≠ .receive
  noSave : ∀ job, op ≠ .saveJob job

theorem eases_book {op : Op} (book : Worker.books op = true) (noSave : ∀ job, op ≠ .saveJob job) :
    Eases op := by
  refine ⟨fun past received => ?_, ?_, noSave⟩
  · cases op with
    | saveJob job => exact absurd rfl (noSave job)
    | loadJob | recordEvent | recordAudit | recordControlValidation | utcNow =>
        exact ⟨rfl, received⟩
    | _ => cases book
  · rintro rfl
    cases book

theorem eases_findExperiment {experimentId : String} : Eases (.findExperiment experimentId) :=
  ⟨fun _ => id, by simp, by simp⟩

theorem eases_runSummary {experiment : ExperimentDefinition} : Eases (.runSummary experiment) :=
  ⟨fun _ => id, by simp, by simp⟩

/-- A program of a delivery between two conditions on its past. -/
abbrev Goes (pre post : Past → Prop) (program : Program platform α) : Prop :=
  courierScript.Leads .deliver pre post program

theorem goes_working {op : Op} (eases : Eases op) :
    Goes (Working delivery message) (Working delivery message) (call op) := by
  refine Protocol.leads_call (fun past working => eases.allowed past ?_) fun _ _ working => ?_
  · rw [working.1, Option.isSome_some]
  · exact working.cons eases.noReceive fun job same => absurd same (eases.noSave job)

theorem goes_received {op : Op} (eases : Eases op) :
    Goes (Received delivery message) (Received delivery message) (call op) := by
  refine Protocol.leads_call (fun past received => eases.allowed past ?_) fun _ _ received => ?_
  · rw [received, Option.isSome_some]
  · exact received.cons eases.noReceive

theorem goes_runStage {stage : RunEventType} {experiment : ExperimentDefinition} :
    Goes (Working delivery message) (Working delivery message)
      (call (.runStage stage experiment)) := by
  refine Protocol.leads_call (fun past working => ⟨?_, working.2⟩) fun _ _ working => ?_
  · rw [working.1, Option.isSome_some]
  · exact working.cons (by simp) (by simp)

theorem goes_emit {eventType : RunEventType} {detail : Option (List (String × Json))} :
    Goes (Working delivery message) (Working delivery message)
      (Worker.emit message eventType detail) :=
  goes_working (eases_book rfl (by simp))

/-- A job is saved with a status which is not terminal. -/
theorem goes_running {submittedAt : DateTime} :
    Goes (Working delivery message) (Working delivery message)
      (Worker.record message submittedAt .running) := by
  refine (goes_working (eases_book rfl (by simp))).bind fun now => ?_
  refine Protocol.leads_call (fun past working => ⟨delivery, message, working.1, rfl, working.2⟩)
    fun _ _ working => working.cons (by simp) ?_
  rintro job ⟨⟩
  exact (by decide : JobStatus.running ∉ terminalStatuses)

/-- A job is saved with any status. -/
theorem goes_record {submittedAt : DateTime} {status : JobStatus}
    {result : Option RunResultSummary} {error : Option String} :
    Goes (Working delivery message) (Received delivery message)
      (Worker.record message submittedAt status result error) := by
  refine (goes_working (eases_book rfl (by simp))).bind fun now => ?_
  exact Protocol.leads_call (fun past working => ⟨delivery, message, working.1, rfl, working.2⟩)
    fun _ _ working => working.1.cons (by simp)

theorem goes_runStages {experiment : ExperimentDefinition} (stages : List RunEventType) :
    Goes (Working delivery message) (Working delivery message)
      (Worker.runStages message experiment stages) := by
  induction stages with
  | nil => exact Protocol.leads_done _
  | cons stage stages ih =>
      refine goes_emit.bind fun _ => goes_runStage.bind fun outcome => ?_
      cases outcome with
      | error failure => exact Protocol.leads_done _
      | ok => exact ih

theorem goes_runExperiment {experiment : ExperimentDefinition} :
    Goes (Working delivery message) (Working delivery message)
      (Worker.runExperiment message experiment) := by
  refine (goes_runStages _).bind fun outcome => ?_
  cases outcome with
  | error failure => exact Protocol.leads_done _
  | ok =>
      refine goes_emit.bind fun _ => ?_
      refine (goes_working (eases_book rfl (by simp))).bind fun now => ?_
      dsimp only
      split
      case isTrue => exact Protocol.leads_done _
      case isFalse =>
        refine goes_runStage.bind fun outcome => ?_
        cases outcome with
        | error failure => exact Protocol.leads_done _
        | ok =>
            refine (goes_runStages _).bind fun outcome => ?_
            cases outcome with
            | error failure => exact Protocol.leads_done _
            | ok => exact (goes_working eases_runSummary).bind fun _ => Protocol.leads_done _

theorem goes_finishJob {submittedAt : DateTime} {found : Option ExperimentDefinition} :
    Goes (Working delivery message) (Received delivery message)
      (Worker.finishJob message submittedAt found) := by
  have ending {eventType : RunEventType} {detail : Option (List (String × Json))} :
      Goes (Received delivery message) (Received delivery message)
        (Worker.emit message eventType detail) := goes_received (eases_book rfl (by simp))
  have audited {action targetType targetId : String} {metadata : List (String × Json)} :
      Goes (Received delivery message) (Received delivery message)
        (Worker.audit message action targetType targetId metadata) :=
    goes_received (eases_book rfl (by simp))
  cases found with
  | none => exact goes_record.bind fun _ => ending
  | some experiment =>
      refine goes_runExperiment.bind fun outcome => ?_
      cases outcome with
      | ok summary =>
          refine goes_record.bind fun _ => ending.bind fun _ => audited.bind fun _ => ?_
          exact goes_received (eases_book rfl (by simp))
      | error error =>
          cases error with
          | refused decision => exact goes_record.bind fun _ => ending.bind fun _ => audited
          | failure failure =>
              cases failure with
              | service => exact goes_record.bind fun _ => ending.bind fun _ => audited
              | internal => exact goes_record.bind fun _ => ending.bind fun _ => audited

theorem goes_processRunJob :
    Goes (Working delivery message) (Received delivery message) (Worker.processRunJob message) := by
  refine (goes_working (eases_book rfl (by simp))).bind fun existing => ?_
  have continues (submittedAt : DateTime) :
      Goes (Working delivery message) (Received delivery message) (do
        Worker.record message submittedAt .running
        let found ← call (.findExperiment message.experimentId)
        Worker.finishJob message submittedAt found) :=
    goes_running.bind fun _ => (goes_working eases_findExperiment).bind fun _ => goes_finishJob
  cases existing with
  | some job => exact continues job.submittedAt
  | none =>
      exact (goes_working (eases_book rfl (by simp))).bind fun submittedAt => continues submittedAt

theorem courier_obeys (courier : Courier) :
    courierScript.Obeys courier (Courier.program courier) [] := by
  cases courier with
  | redeliver delivery => exact ⟨rfl, fun _ _ => trivial⟩
  | deliver =>
      refine ⟨rfl, fun (delivered : Option (ℕ × RunJobMessage)) _ => ?_⟩
      cases delivered with
      | none => trivial
      | some delivered =>
          have working : Working delivered.1 delivered.2 [⟨.receive, some delivered⟩] := by
            refine ⟨rfl, ?_⟩
            rintro ⟨job, member, _⟩
            cases List.mem_singleton.mp member
          refine (goes_processRunJob _ working).bind fun past _ received => ⟨?_, fun _ _ => trivial⟩
          exact Option.isSome_of_eq_some received

end Delivery

theorem sound_of_couriers {guard : CourierPool → CourierMove → Prop} {start : World}
    {pool : CourierPool}
    (reach : Pool.Reaches Courier.program exec guard (.initial start) pool) :
    ∀ thread ∈ pool.threads, courierScript.Sound thread :=
  Protocol.sound_of_reaches courier_obeys (fun _ _ _ => trivial) rfl reach

/-! ## Whole runs -/

/-- The thread at a position has received a message. -/
def Serves (pool : CourierPool) (index delivery : ℕ) (message : RunJobMessage) : Prop :=
  ∃ thread : CourierThread, pool.threads[index]? = some thread ∧
    Received delivery message thread.past

/-- Every job has at most one unacknowledged delivery, every delivery at most one worker, and a
worker whose delivery is unacknowledged knows when its job is done. -/
structure Orderly (pool : CourierPool) : Prop where
  single : (pool.world.unacked.map (·.2.jobId)).Nodup
  numbered : ∀ entry ∈ pool.world.unacked, entry.1 < pool.world.deliveries
  drawn : ∀ (index delivery : ℕ) (message : RunJobMessage), Serves pool index delivery message →
    delivery < pool.world.deliveries
  unique : ∀ (left right delivery : ℕ) (message other : RunJobMessage),
    Serves pool left delivery message → Serves pool right delivery other → left = right
  ended : ∀ (index delivery : ℕ) (message : RunJobMessage) (thread : CourierThread),
    pool.threads[index]? = some thread → Received delivery message thread.past →
      (delivery, message) ∈ pool.world.unacked → Done pool.world message.jobId →
        Ended thread.past

section Reachable

variable {start : World} {pool : CourierPool} {index : ℕ} {thread : CourierThread} {op : Op}
  {rest : op.Result → Program platform Unit} {input : Input}

/-- Two unacknowledged deliveries of a job are the same. -/
theorem Orderly.eq_of_jobId (orderly : Orderly pool) {left right : ℕ × RunJobMessage}
    (first : left ∈ pool.world.unacked) (second : right ∈ pool.world.unacked)
    (same : left.2.jobId = right.2.jobId) : left = right :=
  List.inj_on_of_nodup_map orderly.single first second same

/-- What a thread was before an operation of a pool. -/
theorem before_of_performed (selected : pool.threads[index]? = some thread)
    {outcome : op.Result × World} {position : ℕ} {later : CourierThread}
    (found : (pool.performed index thread op rest outcome).threads[position]? = some later) :
    position = index ∧ later = thread.after op rest outcome.1 ∨
      position ≠ index ∧ pool.threads[position]? = some later := by
  by_cases same : position = index
  · subst same
    rw [Pool.getElem?_performed_self selected] at found
    exact Or.inl ⟨rfl, (Option.some.inj found).symm⟩
  · rw [Pool.getElem?_performed_of_ne same] at found
    exact Or.inr ⟨same, found⟩

/-- Every thread has received what it had received before an operation which receives nothing. -/
theorem received_before (selected : pool.threads[index]? = some thread)
    {outcome : op.Result × World} (noReceive : op ≠ .receive) {position : ℕ} {later : CourierThread}
    (found : (pool.performed index thread op rest outcome).threads[position]? = some later) :
    ∃ before, pool.threads[position]? = some before ∧
      Worker.received later.past = Worker.received before.past ∧
        (Ended before.past → Ended later.past) := by
  rcases before_of_performed selected found with ⟨rfl, rfl⟩ | ⟨-, same⟩
  · refine ⟨thread, selected, Worker.received_cons noReceive, ?_⟩
    rintro ⟨job, member, terminal⟩
    exact ⟨job, List.mem_cons_of_mem _ member, terminal⟩
  · exact ⟨later, same, rfl, id⟩

theorem serves_before (selected : pool.threads[index]? = some thread)
    {outcome : op.Result × World} (noReceive : op ≠ .receive) {position delivery : ℕ}
    {message : RunJobMessage}
    (serves : Serves (pool.performed index thread op rest outcome) position delivery message) :
    Serves pool position delivery message := by
  obtain ⟨later, found, received⟩ := serves
  obtain ⟨before, present, same, -⟩ := received_before selected noReceive found
  exact ⟨before, present, same.symm.trans received⟩

/-- Operations which do not receive a message. -/
theorem Orderly.of_kept (orderly : Orderly pool)
    (selected : pool.threads[index]? = some thread) (noReceive : op ≠ .receive)
    {outcome : op.Result × World}
    (unacked : outcome.2.unacked.Sublist pool.world.unacked)
    (deliveries : outcome.2.deliveries = pool.world.deliveries)
    (ended : ∀ (position delivery : ℕ) (message : RunJobMessage) (later : CourierThread),
      (pool.performed index thread op rest outcome).threads[position]? = some later →
        Received delivery message later.past → (delivery, message) ∈ pool.world.unacked →
          Done outcome.2 message.jobId → ¬ Done pool.world message.jobId → Ended later.past) :
    Orderly (pool.performed index thread op rest outcome) := by
  constructor
  case single => exact orderly.single.sublist (unacked.map _)
  case numbered =>
    intro entry member
    rw [Pool.performed_world, deliveries]
    exact orderly.numbered entry (unacked.subset member)
  case drawn =>
    intro position delivery message serves
    rw [Pool.performed_world, deliveries]
    exact orderly.drawn position delivery message (serves_before selected noReceive serves)
  case unique =>
    intro left right delivery message other first second
    exact orderly.unique left right delivery message other
      (serves_before selected noReceive first) (serves_before selected noReceive second)
  case ended =>
    intro position delivery message later found received member done
    have live := unacked.subset member
    by_cases already : Done pool.world message.jobId
    · obtain ⟨before, present, same, kept⟩ := received_before selected noReceive found
      exact kept (orderly.ended position delivery message before present
        (same.symm.trans received) live already)
    · exact ended position delivery message later found received live done already

/-- A job which is not done and which nobody works on is received. -/
theorem Orderly.of_receive (orderly : Orderly pool)
    {rest : Op.Result .receive → Program platform Unit}
    (selected : pool.threads[index]? = some thread)
    (fresh : ∀ message ∈ pool.world.queue[input.delivery]?, ¬ Done pool.world message.jobId ∧
      ∀ other ∈ pool.world.unacked, other.2.jobId ≠ message.jobId)
    (first : thread.past = []) :
    Orderly (pool.performed index thread .receive rest (exec input .receive pool.world)) := by
  have split {position delivery : ℕ} {message : RunJobMessage} {later : CourierThread}
      (found : (pool.performed index thread .receive rest
        (exec input .receive pool.world)).threads[position]? = some later)
      (received : Received delivery message later.past) :
      (position ≠ index ∧ pool.threads[position]? = some later) ∨ position = index ∧
        delivery = pool.world.deliveries ∧ message ∈ pool.world.queue[input.delivery]? := by
    rcases before_of_performed selected found with ⟨rfl, rfl⟩ | old
    · unfold Received at received
      have nothing : Worker.received [] = none := rfl
      rw [Thread.after, first, Worker.received_cons_receive, nothing, Option.or_none] at received
      obtain ⟨other, queued, same⟩ := Option.map_eq_some_iff.mp received
      obtain ⟨rfl, rfl⟩ := Prod.mk.inj same
      exact Or.inr ⟨rfl, rfl, queued⟩
    · exact Or.inl old
  have unacked {entry : ℕ × RunJobMessage}
      (member : entry ∈ (exec input .receive pool.world).2.unacked) :
      entry ∈ pool.world.unacked ∨ entry.1 = pool.world.deliveries ∧
        entry.2 ∈ pool.world.queue[input.delivery]? := by
    rcases List.mem_append.mp member with old | new
    · exact Or.inl old
    · obtain ⟨other, queued, rfl⟩ := Option.map_eq_some_iff.mp (Option.mem_toList.mp new)
      exact Or.inr ⟨rfl, queued⟩
  constructor
  case single =>
    rw [Pool.performed_world, exec, World.receive]
    cases queued : pool.world.queue[input.delivery]? with
    | none => simpa using orderly.single
    | some message =>
        have other := (fresh message queued).2
        simp only [Option.map_some, Option.toList_some, List.map_append, List.map_cons,
          List.map_nil]
        refine List.Nodup.append orderly.single (List.nodup_singleton _) ?_
        rw [List.disjoint_singleton]
        intro member
        obtain ⟨entry, present, same⟩ := List.mem_map.mp member
        exact other entry present same
  case numbered =>
    intro entry member
    rcases unacked member with old | ⟨number, -⟩
    · exact (orderly.numbered entry old).trans (Nat.lt_succ_self _)
    · exact number ▸ Nat.lt_succ_self _
  case drawn =>
    rintro position delivery message ⟨later, found, received⟩
    rcases split found received with ⟨-, old⟩ | ⟨-, rfl, -⟩
    · exact (orderly.drawn position delivery message ⟨later, old, received⟩).trans
        (Nat.lt_succ_self _)
    · exact Nat.lt_succ_self _
  case unique =>
    rintro left right delivery message other ⟨one, atLeft, receives⟩ ⟨two, atRight, receives'⟩
    rcases split atLeft receives with ⟨-, old⟩ | ⟨rfl, rfl, -⟩
    · rcases split atRight receives' with ⟨-, old'⟩ | ⟨-, rfl, -⟩
      · exact orderly.unique left right delivery message other ⟨one, old, receives⟩
          ⟨two, old', receives'⟩
      · exact absurd (orderly.drawn left _ message ⟨one, old, receives⟩) (lt_irrefl _)
    · rcases split atRight receives' with ⟨-, old'⟩ | ⟨rfl, -, -⟩
      · exact absurd (orderly.drawn right _ other ⟨two, old', receives'⟩) (lt_irrefl _)
      · rfl
  case ended =>
    intro position delivery message later found received member done
    have done' : Done pool.world message.jobId := done
    rcases split found received with ⟨-, old⟩ | ⟨-, -, queued⟩
    · rcases unacked member with live | ⟨number, -⟩
      · exact orderly.ended position delivery message later old received live done'
      · have drawn := orderly.drawn position delivery message ⟨later, old, received⟩
        exact absurd number drawn.ne
    · exact absurd done' (fresh message queued).1

/-- A job which is saved or executed is not done. -/
theorem Orderly.not_done (orderly : Orderly pool) {delivery : ℕ} {message : RunJobMessage}
    (selected : pool.threads[index]? = some thread)
    (received : Received delivery message thread.past)
    (live : (delivery, message) ∈ pool.world.unacked) (working : ¬ Ended thread.past) :
    ¬ Done pool.world message.jobId :=
  fun done => working (orderly.ended index delivery message thread selected received live done)

/-- The worker of a delivery saves its job. -/
theorem Orderly.of_saving (orderly : Orderly pool) {job : JobRecord}
    {rest : Op.Result (.saveJob job) → Program platform Unit} {delivery : ℕ}
    {message : RunJobMessage} (selected : pool.threads[index]? = some thread)
    (received : Received delivery message thread.past)
    (live : (delivery, message) ∈ pool.world.unacked) (same : job.jobId = message.jobId) :
    Orderly (pool.performed index thread (.saveJob job) rest
      (exec input (.saveJob job) pool.world)) := by
  refine orderly.of_kept selected (by simp) (List.Sublist.refl _) rfl ?_
  intro position other entry later found received' live' done before
  have ofJob : entry.jobId = job.jobId := by
    by_contra different
    obtain ⟨row, stored, terminal⟩ := done
    rw [exec, Option.mem_def, Table.lookup_upsert_ne (Ne.symm different)] at stored
    exact before ⟨row, stored, terminal⟩
  have one := orderly.eq_of_jobId live' live (ofJob.trans same)
  obtain ⟨rfl, rfl⟩ := Prod.mk.inj one
  have serves := serves_before selected (by simp) ⟨later, found, received'⟩
  obtain rfl : position = index :=
    orderly.unique position index other entry entry serves ⟨thread, selected, received⟩
  rcases before_of_performed selected found with ⟨-, rfl⟩ | ⟨different, -⟩
  · obtain ⟨row, stored, terminal⟩ := done
    rw [exec, Option.mem_def, Table.lookup_upsert_of_eq same, Option.some.injEq] at stored
    exact ⟨job, List.mem_cons_self, stored ▸ terminal⟩
  · exact absurd rfl different

/-- What the guard demands of an operation of a delivery. -/
theorem live_of_undisturbed {delivery : ℕ} {message : RunJobMessage}
    (permitted : Undisturbed pool (.advance index input))
    (selected : pool.threads[index]? = some thread)
    (received : Received delivery message thread.past) (next : thread.next = some op)
    (noReceive : op ≠ .receive) : (delivery, message) ∈ pool.world.unacked := by
  simp only [Undisturbed, selected] at permitted
  split at permitted
  case h_1 receives => exact absurd (Option.some.inj (next.symm.trans receives)) noReceive
  case h_2 delivered same _ =>
    obtain rfl := Option.some.inj (received.symm.trans same)
    exact permitted
  case h_3 unseen _ => cases received.symm.trans unseen

theorem exec_unacked {world : World} (noReceive : op ≠ .receive) :
    (exec input op world).2.unacked.Sublist world.unacked ∧
      (exec input op world).2.deliveries = world.deliveries := by
  cases op with
  | receive => exact absurd rfl noReceive
  | acknowledge | requeue => exact ⟨List.filter_sublist, rfl⟩
  | _ => exact ⟨List.Sublist.refl _, rfl⟩

theorem exec_jobs {world : World} (noSave : ∀ job, op ≠ .saveJob job) :
    (exec input op world).2.jobs = world.jobs := by
  cases op with
  | saveJob job => exact absurd rfl (noSave job)
  | _ => rfl

theorem Orderly.spawned (orderly : Orderly pool) (courier : Courier) :
    Orderly (pool.spawned Courier.program courier) := by
  have old {position delivery : ℕ} {message : RunJobMessage} {later : CourierThread}
      (found : (pool.spawned Courier.program courier).threads[position]? = some later)
      (received : Received delivery message later.past) : pool.threads[position]? = some later := by
    rw [Pool.spawned] at found
    rcases Nat.lt_or_ge position pool.threads.length with before | new
    · rwa [List.getElem?_append_left before] at found
    · rw [List.getElem?_append_right new] at found
      obtain rfl := List.mem_singleton.mp (List.mem_of_getElem? found)
      cases received
  constructor
  case single => exact orderly.single
  case numbered => exact orderly.numbered
  case drawn =>
    rintro position delivery message ⟨later, found, received⟩
    exact orderly.drawn position delivery message ⟨later, old found received, received⟩
  case unique =>
    rintro left right delivery message other ⟨one, atLeft, receives⟩ ⟨two, atRight, receives'⟩
    exact orderly.unique left right delivery message other ⟨one, old atLeft receives, receives⟩
      ⟨two, old atRight receives', receives'⟩
  case ended =>
    intro position delivery message later found received
    exact orderly.ended position delivery message later (old found received) received

theorem orderly_of_reaches (idle : start.unacked = [])
    (reach : Pool.Reaches Courier.program exec Undisturbed (.initial start) pool) :
    Orderly pool := by
  refine Pool.invariant_of_reaches ?_
    (fun _ courier _ orderly _ => orderly.spawned courier) ?_ reach
  · constructor
    case single => simp [Pool.initial, idle]
    case numbered => simp [Pool.initial, idle]
    case drawn => rintro _ _ _ ⟨_, ⟨⟩, _⟩
    case unique => rintro _ _ _ _ _ ⟨_, ⟨⟩, _⟩
    case ended => rintro _ _ _ _ ⟨⟩
  · intro pool index thread op rest input reach orderly permitted selected head
    have allowed := (sound_of_couriers reach thread (List.mem_of_getElem? selected)).allowed head
    have next : thread.next = some op := Thread.next_eq_some.mpr ⟨rest, head⟩
    have quiet (noReceive : op ≠ .receive) (noSave : ∀ job, op ≠ .saveJob job) :
        Orderly (pool.performed index thread op rest (exec input op pool.world)) := by
      refine orderly.of_kept selected noReceive (exec_unacked noReceive).1
        (exec_unacked noReceive).2 ?_
      intro position delivery message later found received live done before
      rw [Done, exec_jobs noSave] at done
      exact absurd done before
    cases tag : thread.tag with
    | redeliver delivery =>
        rw [tag] at allowed
        obtain rfl : op = .requeue delivery := allowed
        exact quiet (by simp) (by simp)
    | deliver =>
        rw [tag] at allowed
        cases op with
        | receive =>
            refine orderly.of_receive selected ?_ allowed
            simpa only [Undisturbed, selected, next] using permitted
        | saveJob job =>
            obtain ⟨delivery, message, received, same, -⟩ := allowed
            exact orderly.of_saving selected received
              (live_of_undisturbed permitted selected received next (by simp)) same
        | _ => exact quiet (by simp) (by simp)

/-- The move of a worker on a job which is done neither saves the job nor executes it. -/
theorem kept_of_done (idle : start.unacked = [])
    (reach : Pool.Reaches Courier.program exec Undisturbed (.initial start) pool)
    (permitted : Undisturbed pool (.advance index input))
    (selected : pool.threads[index]? = some thread) (head : thread.rest = .perform op rest)
    {jobId : String} (done : Done pool.world jobId) :
    (exec input op pool.world).2.jobs.lookup jobId = pool.world.jobs.lookup jobId := by
  have allowed := (sound_of_couriers reach thread (List.mem_of_getElem? selected)).allowed head
  have next : thread.next = some op := Thread.next_eq_some.mpr ⟨rest, head⟩
  by_cases saves : ∃ job, op = .saveJob job
  · obtain ⟨job, rfl⟩ := saves
    cases tag : thread.tag with
    | redeliver delivery =>
        rw [tag] at allowed
        cases allowed
    | deliver =>
        rw [tag] at allowed
        obtain ⟨delivery, message, received, same, working⟩ := allowed
        have live := live_of_undisturbed permitted selected received next (by simp)
        have unfinished :=
          (orderly_of_reaches idle reach).not_done selected received live working
        refine Table.lookup_upsert_ne ?_
        rintro rfl
        exact unfinished (same ▸ done)
  · rw [exec_jobs (not_exists.mp saves)]

/-- In undisturbed runs a job which is done stays so. -/
theorem staysDone_of_undisturbed (idle : start.unacked = []) : StaysDone Undisturbed start := by
  intro jobId pool later reach continues done
  have kept : later.world.jobs.lookup jobId = pool.world.jobs.lookup jobId := by
    refine Pool.invariant_of_reaches rfl (fun _ _ _ same _ => same) ?_ continues
    intro middle index thread op rest input further same permitted selected head
    have done' : Done middle.world jobId := by
      rw [Done, same]
      exact done
    exact (kept_of_done idle (reach.trans further) permitted selected head done').trans same
  refine ⟨kept, ?_⟩
  rintro (courier | ⟨index, input⟩) permitted executes
  · exact executes
  · obtain ⟨thread, delivery, message, stage, experiment, selected, received, rfl, next⟩ := executes
    have reach' := reach.trans continues
    have live := live_of_undisturbed permitted selected received next (by simp)
    obtain ⟨rest, head⟩ := Thread.next_eq_some.mp next
    have allowed := (sound_of_couriers reach' thread (List.mem_of_getElem? selected)).allowed head
    have working : ¬ Ended thread.past := by
      cases tag : thread.tag with
      | redeliver delivery =>
          rw [tag] at allowed
          cases allowed
      | deliver =>
          rw [tag] at allowed
          exact allowed.2
    refine (orderly_of_reaches idle reach').not_done selected received live working ?_
    rw [Done, kept]
    exact done

end Reachable

/-! ## Sample runs -/

namespace Sample

/-- The message of the job which is submitted. -/
def message : RunJobMessage where
  jobId := "JOB-0"
  experimentId := "ZC-VPN-EXP-001"
  executionContext := .experimentRun
  submittedByUserId := some "u1"
  submittedByUsername := some "researcher"

/-- The record of the job which is submitted. -/
def queued : JobRecord where
  jobId := "JOB-0"
  experimentId := "ZC-VPN-EXP-001"
  executionContext := .experimentRun
  status := .queued
  submittedAt := 5
  updatedAt := 5

/-- A store in which the message waits for its delivery. -/
def waiting : World :=
  { prepared with queue := [message], jobs := Table.empty.upsert queued }

/-- Take the first delivery back and deliver the message again. -/
def redelivery (count : ℕ) : List CourierMove :=
  Studio.Sample.serveAlone 1 1 7 (Courier.redeliver 0) ++
    Studio.Sample.serveAlone 2 count 8 Courier.deliver

end Sample

/-- A worker is lost in the middle of a job, which is then delivered again and done. -/
theorem staysDone_of_sample : StaysDone Undisturbed Sample.waiting ∧
    ∃ pool, Pool.Reaches Courier.program exec Undisturbed (.initial Sample.waiting) pool ∧
      decide (Done pool.world "JOB-0") = true :=
  ⟨staysDone_of_undisturbed rfl,
    Pool.exists_reaches (Studio.Sample.serveAlone 0 8 6 Courier.deliver ++ Sample.redelivery 25)
      (by decide +kernel)⟩

/-- A worker is lost after the job was completed and before it acknowledges the message. -/
theorem not_staysDone_of_redelivery :
    ¬ ∀ start, start.unacked = [] → StaysDone (fun _ _ => True) start := by
  intro claim
  obtain ⟨pool, reach, checked⟩ :
      ∃ pool, Pool.Reaches Courier.program exec (fun _ _ => True) (.initial Sample.waiting) pool ∧
        decide (Done pool.world "JOB-0" ∧ (pool.runGuarded Courier.program exec (fun _ _ => True)
          (Sample.redelivery 4)).any (fun later => ¬ Done later.world "JOB-0") = true) = true :=
    Pool.exists_reaches (Studio.Sample.serveAlone 0 21 6 Courier.deliver) (by decide +kernel)
  obtain ⟨done, again⟩ := of_decide_eq_true checked
  obtain ⟨later, continues, undone⟩ := Pool.exists_reaches _ again
  obtain ⟨same, -⟩ := claim Sample.waiting rfl "JOB-0" pool later reach continues done
  refine of_decide_eq_true undone ?_
  rw [Done, same]
  exact done

end ZeroShield.Jobs
