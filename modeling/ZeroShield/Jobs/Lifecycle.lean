import ZeroShield.Jobs.Script
import ZeroShield.Studio.Sequential

/-!
# The status of a run moves forward

The status of a run is that of the event recorded last, and the submission and the worker record
events independently.  The status moves forward as long as the submission records that the job is
queued before the worker records anything; nothing enforces this order, because the message can be
consumed before the event is recorded.
-/

namespace ZeroShield.Jobs

open Foundation Models Platform

/-- The status of a run, once an event was recorded for it. -/
def currentStatus (world : World) (runId : String) : Option RunEventType :=
  (world.runs.lookup runId).map (·.currentStatus)

/-- A status is kept or replaced by one of a later place; a terminal status is kept. -/
def Onward (before after : Option RunEventType) : Prop :=
  ∀ status, before = some status →
    ∃ next, after = some next ∧ rank status ≤ rank next ∧ (IsTerminal status → next = status)

theorem Onward.refl (status : Option RunEventType) : Onward status status :=
  fun _ found => ⟨_, found, le_rfl, fun _ => rfl⟩

theorem Onward.trans {first second third : Option RunEventType} (left : Onward first second)
    (right : Onward second third) : Onward first third := by
  intro status found
  obtain ⟨middle, reached, le, kept⟩ := left status found
  obtain ⟨last, ends, le', kept'⟩ := right middle reached
  refine ⟨last, ends, le.trans le', fun terminal => ?_⟩
  obtain rfl := kept terminal
  exact kept' terminal

/-- Between the states of a run of the parties, the status of a run only moves forward. -/
def MovesForward (guard : JobPool → JobMove → Prop) (start : JobPool) (runId : String) : Prop :=
  ∀ pool later, Pool.Reaches Party.program exec guard start pool →
    Pool.Reaches Party.program exec guard pool later →
      Onward (currentStatus pool.world runId) (currentStatus later.world runId)

/-- No party joins. -/
def Closed (_ : JobPool) : JobMove → Prop
  | .spawn _ => False
  | .advance _ _ => True

instance {pool : JobPool} {move : JobMove} : Decidable (Closed pool move) := by
  cases move <;> unfold Closed <;> infer_instance

/-- A job is recorded as queued before any other event of its run. -/
def QueuedFirst (pool : JobPool) : JobMove → Prop
  | .spawn _ => False
  | .advance index _ =>
      match pool.threads[index]?.bind Thread.next with
      | some (.recordEvent event) =>
          event.eventType = .queued → (pool.world.runs.lookup event.runId).isNone
      | _ => True

instance {pool : JobPool} {move : JobMove} : Decidable (QueuedFirst pool move) := by
  cases move <;> unfold QueuedFirst <;> dsimp only
  · infer_instance
  · split <;> infer_instance

/-! ## What an event does to the status -/

section Status

variable {input : Input} {op : Op} {world : World} {runId : String}

theorem jobId_runRowAfter (world : World) (event : RunEvent) (now : DateTime) :
    (World.runRowAfter event now (world.runs.lookup event.runId)).jobId = event.runId := by
  cases found : world.runs.lookup event.runId with
  | none => rfl
  | some row => exact (Table.key_of_lookup found : row.jobId = event.runId)

theorem currentStatus_recordEvent (world : World) (event : RunEvent) (now : DateTime) :
    currentStatus (world.recordEvent event now) event.runId = some event.eventType := by
  have stored : (world.recordEvent event now).runs.lookup event.runId =
      some (World.runRowAfter event now (world.runs.lookup event.runId)) :=
    Table.lookup_upsert_of_eq (jobId_runRowAfter world event now)
  rw [currentStatus, stored]
  cases world.runs.lookup event.runId <;> rfl

/-- Events of other runs and all other operations leave a status as it is. -/
theorem currentStatus_exec (other : ∀ event, op = .recordEvent event → event.runId ≠ runId) :
    currentStatus (exec input op world).2 runId = currentStatus world runId := by
  cases op with
  | recordEvent event =>
      have kept : (world.recordEvent event input.now).runs.lookup runId =
          world.runs.lookup runId := by
        refine Table.lookup_upsert_ne ?_
        rw [jobId_runRowAfter]
        exact other event rfl
      rw [currentStatus, exec, kept, currentStatus]
  | _ => rfl

end Status

/-! ## Runs in which a job is recorded as queued first -/

section Reachable

variable {world : World} {request : RunSubmission} {jobId runId : String} {pool later : JobPool}

/-- The status of a new run is that of the submission or of an event which the worker recorded. -/
def Explained (runId : String) (pool : JobPool) : Prop :=
  ∀ status, currentStatus pool.world runId = some status → status = .queued ∨
    ∃ event, pool.SawAt 1 .work ⟨.recordEvent event, ()⟩ ∧ event.eventType = status

theorem explained_of_reaches (fresh : world.runs.lookup runId = none)
    (reach : Pool.Reaches Party.program exec QueuedFirst (parties world request jobId) pool) :
    Explained runId pool := by
  refine Pool.invariant_of_reaches ?_ ?_ ?_ reach
  · intro status found
    rw [currentStatus, parties, fresh] at found
    cases found
  · exact fun _ _ _ _ joined => joined.elim
  · intro pool index thread op rest input reach explained _ selected head status found
    have allowed := (sound_of_parties reach thread (List.mem_of_getElem? selected)).allowed head
    rw [Pool.performed_world] at found
    by_cases records : ∃ event, op = .recordEvent event ∧ event.runId = runId
    · obtain ⟨event, rfl, rfl⟩ := records
      obtain rfl : event.eventType = status :=
        Option.some.inj ((currentStatus_recordEvent pool.world event input.now).symm.trans found)
      rcases party_of_index (tags_of_parties (fun _ _ => id) reach) selected with
        ⟨rfl, tag⟩ | ⟨rfl, tag⟩ | ⟨rfl, tag⟩
      · rw [tag] at allowed
        exact Or.inl allowed.1
      · exact Or.inr ⟨event, (Pool.sawAt_performed selected).mpr (Or.inr ⟨rfl, tag, rfl⟩), rfl⟩
      · rw [tag] at allowed
        exact allowed.elim
    · have other : ∀ event, op = .recordEvent event → event.runId ≠ runId :=
        fun event recording same => records ⟨event, recording, same⟩
      rw [currentStatus_exec other] at found
      rcases explained status found with queued | ⟨event, saw, same⟩
      · exact Or.inl queued
      · exact Or.inr ⟨event, (Pool.sawAt_performed selected).mpr (Or.inl saw), same⟩

/-- One operation moves the status forward. -/
theorem onward_performed (fresh : world.runs.lookup runId = none)
    (reach : Pool.Reaches Party.program exec QueuedFirst (parties world request jobId) pool)
    {index : ℕ} {thread : Thread platform Party Outcome} {op : Op}
    {rest : op.Result → Program platform Outcome} {input : Input}
    (permitted : QueuedFirst pool (.advance index input))
    (selected : pool.threads[index]? = some thread) (head : thread.rest = .perform op rest) :
    Onward (currentStatus pool.world runId)
      (currentStatus (exec input op pool.world).2 runId) := by
  by_cases records : ∃ event, op = .recordEvent event ∧ event.runId = runId
  · obtain ⟨event, rfl, rfl⟩ := records
    have allowed := (sound_of_parties reach thread (List.mem_of_getElem? selected)).allowed head
    have next : thread.next = some (.recordEvent event) := Thread.next_eq_some.mpr ⟨rest, head⟩
    have after := currentStatus_recordEvent pool.world event input.now
    intro status before
    refine ⟨event.eventType, after, ?_⟩
    rcases party_of_index (tags_of_parties (fun _ _ => id) reach) selected with
      ⟨rfl, tag⟩ | ⟨rfl, tag⟩ | ⟨rfl, tag⟩ <;> rw [tag] at allowed
    · simp only [QueuedFirst, selected, Option.bind_some, next] at permitted
      have unknown := permitted allowed.1
      rw [currentStatus, Option.isNone_iff_eq_none.mp unknown] at before
      cases before
    · have later : rank status < rank event.eventType := by
        rcases explained_of_reaches fresh reach status before with rfl | ⟨earlier, saw, rfl⟩
        · exact Nat.pos_of_ne_zero fun zero => allowed.1 (rank_eq_zero.mp zero)
        · obtain ⟨worker, found, -, member⟩ := saw
          obtain rfl : thread = worker := Option.some.inj (selected.symm.trans found)
          exact (allowed.2 earlier (mem_recorded.mpr member)).2
      refine ⟨later.le, fun terminal => ?_⟩
      have last := rank_le event.eventType
      unfold IsTerminal at terminal
      omega
    · exact allowed.elim
  · rw [currentStatus_exec fun event recording same => records ⟨event, recording, same⟩]
    exact Onward.refl _

/-- In runs which record a job as queued first, the status of a new run only moves forward. -/
theorem movesForward_of_queuedFirst (fresh : world.runs.lookup runId = none) :
    MovesForward QueuedFirst (parties world request jobId) runId := by
  intro pool later reach continues
  refine Pool.invariant_of_reaches (Onward.refl _) ?_ ?_ continues
  · exact fun _ _ _ _ joined => joined.elim
  · intro middle index thread op rest input further onward permitted selected head
    exact onward.trans (onward_performed fresh (reach.trans further) permitted selected head)

end Reachable

/-! ## Sample runs -/

namespace Sample

open Studio Studio.Sample

/-- A store in which the sample experiment has just been created. -/
def created : World :=
  served services (.create body none researcher) (fun _ => { now := 1 }) {}

/-- A store with the file of the approved sample experiment. -/
def prepared : World :=
  match created.getVersion (versionId 1) with
  | .ok (some version) =>
      created.writeExperiment version.experimentId
        { version.definition with approvalStatus := .approved }
  | _ => created

def submission : RunSubmission where
  experimentId := "ZC-VPN-EXP-001"
  executionContext := .experimentRun
  requestId := none
  user := researcher

/-- The parties of the job which is submitted. -/
def start : JobPool :=
  parties prepared submission "JOB-0"

end Sample

/-- A job is submitted and then processed until its run is completed. -/
theorem movesForward_of_sample : MovesForward QueuedFirst Sample.start "JOB-0" ∧
    ∃ pool, Pool.Reaches Party.program exec QueuedFirst Sample.start pool ∧
      decide (currentStatus pool.world "JOB-0" = some .completed) = true :=
  ⟨movesForward_of_queuedFirst (by decide +kernel),
    Pool.exists_reaches (Studio.Sample.steps 0 7 5 ++ Studio.Sample.steps 1 25 6)
      (by decide +kernel)⟩

/-- The worker prepares the run before the submission records that the job is queued. -/
theorem not_movesForward_of_late_queued :
    ¬ ∀ world request jobId runId, world.runs.lookup runId = none →
      MovesForward Closed (parties world request jobId) runId := by
  intro claim
  obtain ⟨pool, reach, preparing⟩ :
      ∃ pool, Pool.Reaches Party.program exec Closed Sample.start pool ∧
        decide (currentStatus pool.world "JOB-0" = some .preparing ∧
          (((pool.runGuarded Party.program exec Closed (Studio.Sample.steps 0 1 7)).any
            fun later => decide (currentStatus later.world "JOB-0" = some .queued)) = true)) =
          true :=
    Pool.exists_reaches (Studio.Sample.steps 0 5 5 ++ Studio.Sample.steps 1 6 6)
      (by decide +kernel)
  obtain ⟨before, late⟩ := of_decide_eq_true preparing
  obtain ⟨later, continues, queued⟩ := Pool.exists_reaches _ late
  obtain ⟨next, after, forward, -⟩ :=
    claim Sample.prepared Sample.submission "JOB-0" "JOB-0" (by decide +kernel) pool later reach
      continues .preparing before
  obtain rfl : RunEventType.queued = next :=
    Option.some.inj ((of_decide_eq_true queued).symm.trans after)
  exact absurd forward (by decide)

end ZeroShield.Jobs
