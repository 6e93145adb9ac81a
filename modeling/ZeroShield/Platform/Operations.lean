import ZeroShield.Platform.World

/-!
# The operations of the platform

The interface through which programs act on the shared state, and its meaning.
-/

namespace ZeroShield.Platform

open Foundation Models

/-- The operations of routes, workers and the broker. -/
inductive Op
  | getVersion (versionId : String)
  | latestVersionNumber (experimentId : String)
  | saveVersion (version : ExperimentVersion)
  | appendApprovalDecision (decision : ApprovalDecision)
  | writeDataset (path testSet : String)
  | writeExperiment (experimentId : String) (definition : ExperimentDefinition)
  | findExperiment (experimentId : String)
  | loadJob (jobId : String)
  | saveJob (job : JobRecord)
  | publish (message : RunJobMessage)
  | receive
  | acknowledge (delivery : ℕ)
  | requeue (delivery : ℕ)
  /-- The work of a run between a lifecycle event and the next one. -/
  | runStage (stage : RunEventType) (experiment : ExperimentDefinition)
  /-- The summary of a run whose evidence was written. -/
  | runSummary (experiment : ExperimentDefinition)
  | recordEvent (event : RunEvent)
  | listEvents (runId : String)
  | recordAudit (event : AuditEvent)
  | recordControlValidation (experiment : ExperimentDefinition) (summary : RunResultSummary)
  | utcNow
  | uuid4

/-- What each operation returns. -/
@[reducible]
def Op.Result : Op → Type
  | getVersion _ => Except ValidationError (Option ExperimentVersion)
  | latestVersionNumber _ => Except ValidationError ℕ
  | findExperiment _ => Option ExperimentDefinition
  | loadJob _ => Option JobRecord
  | receive => Option (ℕ × RunJobMessage)
  | runStage _ _ => Except RunFailure Unit
  | runSummary _ => RunResultSummary
  | listEvents _ => List RunEventRow
  | utcNow => DateTime
  | uuid4 => String
  | _ => Unit

/-- The platform as an interface. -/
abbrev platform : Interface where
  Op := Op
  Result := Op.Result

/-- What an operation takes from outside the modelled state. -/
structure Input where
  /-- The reading of the clock. -/
  now : DateTime := 0
  /-- Which waiting message the broker delivers. -/
  delivery : ℕ := 0
  /-- How the work of a stage ends. -/
  stage : Except RunFailure Unit := .ok ()
  /-- The summary of a finished run. -/
  summary : RunResultSummary := ⟨"RUN-001", "RUN-002", 0, 0, 0, 0, ""⟩

/-- Deliver a waiting message to a consumer under a new delivery number. -/
def World.receive (world : World) (position : ℕ) : Option (ℕ × RunJobMessage) × World :=
  let delivered := world.queue[position]?.map fun message => (world.deliveries, message)
  (delivered,
    { world with
      queue := world.queue.eraseIdx position
      unacked := world.unacked ++ delivered.toList
      deliveries := world.deliveries + 1 })

/-- Forget a delivery; one which was taken back before is no longer known. -/
def World.acknowledge (world : World) (delivery : ℕ) : World :=
  { world with unacked := world.unacked.filter (·.1 ≠ delivery) }

/-- An unacknowledged message returns to the queue when its consumer is lost. -/
def World.requeue (world : World) (delivery : ℕ) : World :=
  { world with
    queue := (world.unacked.filter (·.1 = delivery)).map (·.2) ++ world.queue
    unacked := world.unacked.filter (·.1 ≠ delivery) }

/-- The meaning of the operations. -/
def exec : Semantics platform Input World
  | _, .getVersion versionId, world => (world.getVersion versionId, world)
  | _, .latestVersionNumber experimentId, world =>
      (world.latestVersionNumber experimentId, world)
  | _, .saveVersion version, world => ((), world.saveVersion version)
  | _, .appendApprovalDecision decision, world => ((), world.appendApprovalDecision decision)
  | _, .writeDataset path testSet, world => ((), world.writeDataset path testSet)
  | _, .writeExperiment experimentId definition, world =>
      ((), world.writeExperiment experimentId definition)
  | _, .findExperiment experimentId, world => (world.findExperiment experimentId, world)
  | _, .loadJob jobId, world => (world.jobs.lookup jobId, world)
  | _, .saveJob job, world => ((), { world with jobs := world.jobs.upsert job })
  | _, .publish message, world => ((), { world with queue := world.queue ++ [message] })
  | input, .receive, world => world.receive input.delivery
  | _, .acknowledge delivery, world => ((), world.acknowledge delivery)
  | _, .requeue delivery, world => ((), world.requeue delivery)
  | input, .runStage _ _, world => (input.stage, world)
  | input, .runSummary _, world => (input.summary, world)
  | input, .recordEvent event, world => ((), world.recordEvent event input.now)
  | _, .listEvents runId, world => (world.listEvents runId, world)
  | _, .recordAudit event, world => ((), { world with audit := world.audit ++ [event] })
  | _, .recordControlValidation _ _, world => ((), world)
  | input, .utcNow, world => (input.now, world)
  | _, .uuid4, world => (hexText world.issued, { world with issued := world.issued + 1 })

/-- Perform one operation and return its result. -/
abbrev call (op : Op) : Program platform op.Result :=
  Program.call (I := platform) op

/-! ## What the operations leave unchanged -/

section Unchanged

variable {input : Input} {op : Op} {world : World}

/-- Only saving a version changes the version rows. -/
theorem exec_versions (other : ∀ version, op ≠ .saveVersion version) :
    (exec input op world).2.versions = world.versions := by
  cases op with
  | saveVersion version => exact absurd rfl (other version)
  | _ => rfl

/-- Only recording a decision changes the approval rows. -/
theorem exec_approvals (other : ∀ decision, op ≠ .appendApprovalDecision decision) :
    (exec input op world).2.approvals = world.approvals := by
  cases op with
  | appendApprovalDecision decision => exact absurd rfl (other decision)
  | _ => rfl

/-- Only materialising a version changes the experiment files. -/
theorem exec_experiments
    (other : ∀ experimentId definition, op ≠ .writeExperiment experimentId definition) :
    (exec input op world).2.experiments = world.experiments := by
  cases op with
  | writeExperiment experimentId definition => exact absurd rfl (other experimentId definition)
  | _ => rfl

/-- A queued message was queued or unacknowledged before, or has just been published. -/
theorem mem_queue_exec {message : RunJobMessage}
    (queued : message ∈ (exec input op world).2.queue) :
    message ∈ world.queue ∨ (∃ delivery, (delivery, message) ∈ world.unacked) ∨
      op = .publish message := by
  cases op with
  | publish other =>
      rcases List.mem_append.mp queued with old | new
      · exact Or.inl old
      · obtain rfl := List.mem_singleton.mp new
        exact Or.inr (Or.inr rfl)
  | receive => exact Or.inl (List.mem_of_mem_eraseIdx queued)
  | requeue delivery =>
      rcases List.mem_append.mp queued with returned | old
      · obtain ⟨⟨other, _⟩, unacked, rfl⟩ := List.mem_map.mp returned
        exact Or.inr (Or.inl ⟨other, List.mem_of_mem_filter unacked⟩)
      · exact Or.inl old
  | _ => exact Or.inl queued

/-- An unacknowledged message was unacknowledged before or has just been delivered. -/
theorem mem_unacked_exec {message : RunJobMessage} {delivery : ℕ}
    (unacked : (delivery, message) ∈ (exec input op world).2.unacked) :
    message ∈ world.queue ∨ (delivery, message) ∈ world.unacked := by
  cases op with
  | receive =>
      rcases List.mem_append.mp unacked with old | delivered
      · exact Or.inr old
      · obtain ⟨found, queued, same⟩ := Option.map_eq_some_iff.mp (Option.mem_toList.mp delivered)
        obtain rfl := (Prod.mk.inj same).2
        exact Or.inl (List.mem_of_getElem? queued)
  | acknowledge other => exact Or.inr (List.mem_of_mem_filter unacked)
  | requeue other => exact Or.inr (List.mem_of_mem_filter unacked)
  | _ => exact Or.inr unacked

theorem issued_le_exec : world.issued ≤ (exec input op world).2.issued := by
  cases op with
  | uuid4 => exact Nat.le_succ _
  | _ => exact le_rfl

end Unchanged

/-- A version seen by a read was stored, valid, at that moment. -/
theorem getVersion_of_event {input : Input} {op : Op} {world : World} {versionId : String}
    {version : ExperimentVersion}
    (same : (⟨.getVersion versionId, .ok (some version)⟩ : Event platform) =
      ⟨op, (exec input op world).1⟩) :
    op = .getVersion versionId ∧ world.getVersion versionId = .ok (some version) := by
  injection same with ops results
  subst ops
  exact ⟨rfl, (eq_of_heq results).symm⟩

/-- A fresh identifier is made of the number of identifiers issued before. -/
theorem uuid4_of_event {input : Input} {op : Op} {world : World} {hex : String}
    (same : (⟨.uuid4, hex⟩ : Event platform) = ⟨op, (exec input op world).1⟩) :
    op = .uuid4 ∧ hex = hexText world.issued := by
  injection same with ops results
  subst ops
  exact ⟨rfl, eq_of_heq results⟩

end ZeroShield.Platform
