import ZeroShield.Studio.Script
import ZeroShield.Worker.Processor

/-!
# Requests, deliveries and redeliveries

What runs against the shared state: the studio's requests, the deliveries which workers serve, and
the broker, which takes a message back when its consumer is lost before acknowledging it.
-/

namespace ZeroShield.Worker

open Foundation Models Platform Studio

/-- A program of the platform. -/
inductive Task
  | request (request : StudioRequest)
  | deliver
  | redeliver (delivery : ℕ)

/-- The program of a task; only requests are answered. -/
def serveTask (services : Services) : Task → Program platform (Option Response)
  | .request request => some <$> serve services request
  | .deliver => (fun _ => none) <$> onMessage
  | .redeliver delivery => (fun _ => none) <$> (call (.requeue delivery) : Program platform Unit)

/-- The delivery which a worker received. -/
def received (past : Past) : Option (ℕ × RunJobMessage) :=
  past.findSome? fun event =>
    match event with
    | ⟨.receive, delivered⟩ => delivered
    | _ => none

/-- What a worker found when it looked an experiment up. -/
def lookedUp (past : Past) : Option (String × Option ExperimentDefinition) :=
  past.findSome? fun event =>
    match event with
    | ⟨.findExperiment experimentId, found⟩ => some (experimentId, found)
    | _ => none

section Heads

variable {op : Op} {result : op.Result} {past : Past}

theorem received_cons (other : op ≠ .receive) : received (⟨op, result⟩ :: past) =
    received past := by
  cases op <;> first | rfl | exact absurd rfl other

theorem lookedUp_cons (other : ∀ experimentId, op ≠ .findExperiment experimentId) :
    lookedUp (⟨op, result⟩ :: past) = lookedUp past := by
  cases op <;> first | rfl | exact absurd rfl (other _)

theorem received_cons_receive (delivered : Option (ℕ × RunJobMessage)) :
    received (⟨.receive, delivered⟩ :: past) = delivered.or (received past) := by
  cases delivered <;> rfl

theorem lookedUp_of_cons (unseen : lookedUp (⟨op, result⟩ :: past) = none) :
    lookedUp past = none := by
  by_cases looks : ∃ experimentId, op = .findExperiment experimentId
  · obtain ⟨experimentId, rfl⟩ := looks
    cases unseen
  · rwa [lookedUp_cons (not_exists.mp looks)] at unseen

end Heads

/-- The operations which only book a job's progress. -/
def books : Op → Bool
  | .loadJob _ | .saveJob _ | .recordEvent _ | .recordAudit _ | .recordControlValidation _ _
  | .utcNow => true
  | _ => false

/-- The next operation of a delivery after its past. -/
inductive DeliveryAllowed : Past → Op → Prop
  | receive : DeliveryAllowed [] .receive
  | lookUp {past delivery message} :
      received past = some (delivery, message) → lookedUp past = none →
      DeliveryAllowed past (.findExperiment message.experimentId)
  | runStage {past delivery message stage definition} :
      received past = some (delivery, message) →
      lookedUp past = some (message.experimentId, some definition) →
      DeliveryAllowed past (.runStage stage definition)
  | runSummary {past delivery message definition} :
      received past = some (delivery, message) →
      lookedUp past = some (message.experimentId, some definition) →
      DeliveryAllowed past (.runSummary definition)
  | acknowledge {past delivery message found} :
      received past = some (delivery, message) →
      lookedUp past = some (message.experimentId, found) →
      DeliveryAllowed past (.acknowledge delivery)
  | book {past op} : books op = true → DeliveryAllowed past op

/-- The script of all tasks. -/
def taskScript : Protocol platform Task (Option Response) where
  allowed
    | .request request => Allowed request
    | .deliver => DeliveryAllowed
    | .redeliver delivery => fun past op => past = [] ∧ op = .requeue delivery
  promised := Promised
  finished := fun _ _ _ => True

/-! ## Deliveries follow the script -/

/-- A past in which a message was received and its experiment looked up. -/
def Seen (delivery : ℕ) (message : RunJobMessage) (found : Option ExperimentDefinition)
    (past : Past) : Prop :=
  received past = some (delivery, message) ∧ lookedUp past = some (message.experimentId, found)

section Deliveries

variable {α : Type} {delivery : ℕ} {message : RunJobMessage}
  {found : Option ExperimentDefinition} {past : Past}

/-- Programs which only look at what they have seen keep having seen it. -/
abbrev Keeps (delivery : ℕ) (message : RunJobMessage) (found : Option ExperimentDefinition)
    (program : Program platform α) : Prop :=
  ∀ past, Seen delivery message found past →
    taskScript.Ensures .deliver (fun past _ => Seen delivery message found past) program past

theorem Seen.cons {op : Op} {result : op.Result} (seen : Seen delivery message found past)
    (noReceive : op ≠ .receive) (noLookup : ∀ experimentId, op ≠ .findExperiment experimentId) :
    Seen delivery message found (⟨op, result⟩ :: past) :=
  ⟨(received_cons noReceive).trans seen.1, (lookedUp_cons noLookup).trans seen.2⟩

theorem keeps_done (value : α) : Keeps delivery message found (.done value) :=
  fun _ seen => seen

theorem Keeps.bind {β : Type} {program : Program platform α} {next : α → Program platform β}
    (keeps : Keeps delivery message found program)
    (continues : ∀ value, Keeps delivery message found (next value)) :
    Keeps delivery message found (program >>= next) :=
  fun past seen => (keeps past seen).bind fun later value seen => continues value later seen

theorem keeps_book {op : Op} (book : books op = true) : Keeps delivery message found (call op) := by
  intro past seen
  refine ⟨.book book, fun result _ => seen.cons ?_ ?_⟩
  · rintro rfl
    cases book
  · rintro _ rfl
    cases book

theorem keeps_runStage {stage : RunEventType} {definition : ExperimentDefinition} :
    Keeps delivery message (some definition) (call (.runStage stage definition)) :=
  fun _ seen => ⟨.runStage seen.1 seen.2, fun _ _ => seen.cons (by simp) (by simp)⟩

theorem keeps_runSummary {definition : ExperimentDefinition} :
    Keeps delivery message (some definition) (call (.runSummary definition)) :=
  fun _ seen => ⟨.runSummary seen.1 seen.2, fun _ _ => seen.cons (by simp) (by simp)⟩

theorem keeps_record (submittedAt : DateTime) (status : JobStatus)
    (result : Option RunResultSummary) (error : Option String) :
    Keeps delivery message found (record message submittedAt status result error) :=
  (keeps_book rfl).bind fun _ => keeps_book rfl

theorem keeps_runStages {definition : ExperimentDefinition} (stages : List RunEventType) :
    Keeps delivery message (some definition) (runStages message definition stages) := by
  induction stages with
  | nil => exact keeps_done _
  | cons stage stages ih =>
      refine (keeps_book rfl).bind fun _ => keeps_runStage.bind fun result => ?_
      cases result with
      | error failure => exact keeps_done _
      | ok value => exact ih

theorem keeps_runExperiment (definition : ExperimentDefinition) :
    Keeps delivery message (some definition) (runExperiment message definition) := by
  refine (keeps_runStages _).bind fun prepared => ?_
  cases prepared with
  | error failure => exact keeps_done _
  | ok _ =>
      refine (keeps_book rfl).bind fun _ => (keeps_book rfl).bind fun now => ?_
      dsimp only
      split
      case isTrue => exact keeps_done _
      case isFalse =>
        refine keeps_runStage.bind fun checked => ?_
        cases checked with
        | error failure => exact keeps_done _
        | ok _ =>
            refine (keeps_runStages _).bind fun ran => ?_
            cases ran with
            | error failure => exact keeps_done _
            | ok _ => exact keeps_runSummary.bind fun _ => keeps_done _

theorem keeps_emit (eventType : RunEventType) (detail : Option (List (String × Json))) :
    Keeps delivery message found (emit message eventType detail) :=
  keeps_book rfl

theorem keeps_audit (action targetType targetId : String) (metadata : List (String × Json)) :
    Keeps delivery message found (audit message action targetType targetId metadata) :=
  keeps_book rfl

theorem keeps_finishJob (submittedAt : DateTime) (found : Option ExperimentDefinition) :
    Keeps delivery message found (finishJob message submittedAt found) := by
  cases found with
  | none => exact (keeps_record _ _ _ _).bind fun _ => keeps_emit _ _
  | some definition =>
      refine (keeps_runExperiment definition).bind fun outcome => ?_
      split
      · exact (keeps_record _ _ _ _).bind fun _ => (keeps_emit _ _).bind fun _ =>
          keeps_audit _ _ _ _
      · exact (keeps_record _ _ _ _).bind fun _ => (keeps_emit _ _).bind fun _ =>
          keeps_audit _ _ _ _
      · exact (keeps_record _ _ _ _).bind fun _ => (keeps_emit _ _).bind fun _ =>
          keeps_audit _ _ _ _
      · exact (keeps_record _ _ _ _).bind fun _ => (keeps_emit _ _).bind fun _ =>
          (keeps_audit _ _ _ _).bind fun _ => keeps_book rfl

/-- A job whose message was received is looked up once and then run. -/
theorem processRunJob_ensures (waiting : received past = some (delivery, message))
    (unseen : lookedUp past = none) :
    taskScript.Ensures .deliver (fun past _ => ∃ found, Seen delivery message found past)
      (processRunJob message) past := by
  refine ⟨.book rfl, fun existing _ => ?_⟩
  have finish (submittedAt : DateTime) (found : Option ExperimentDefinition) (earlier : Past)
      (waiting : received earlier = some (delivery, message)) :
      taskScript.Ensures .deliver (fun past _ => ∃ found, Seen delivery message found past)
        (finishJob message submittedAt found)
        (⟨.findExperiment message.experimentId, found⟩ :: earlier) := by
    have seen : Seen delivery message found
        (⟨.findExperiment message.experimentId, found⟩ :: earlier) := ⟨waiting, rfl⟩
    exact (keeps_finishJob submittedAt found _ seen).mono fun _ _ seen => ⟨found, seen⟩
  have lookUp (submittedAt : DateTime) (earlier : Past)
      (waiting : received earlier = some (delivery, message)) (unseen : lookedUp earlier = none) :
      taskScript.Ensures .deliver (fun past _ => ∃ found, Seen delivery message found past)
        (record message submittedAt .running >>= fun _ =>
          call (.findExperiment message.experimentId) >>= finishJob message submittedAt) earlier :=
    ⟨.book rfl, fun _ _ => ⟨.book rfl, fun _ _ => ⟨.lookUp waiting unseen, fun found _ =>
      finish submittedAt found _ waiting⟩⟩⟩
  cases existing with
  | none => exact ⟨.book rfl, fun now _ => lookUp now _ waiting unseen⟩
  | some job => exact lookUp job.submittedAt _ waiting unseen

theorem onMessage_obeys :
    taskScript.Ensures .deliver (fun _ _ => True) onMessage [] := by
  refine ⟨.receive, fun delivered _ => ?_⟩
  cases delivered with
  | none => trivial
  | some delivered =>
      refine (processRunJob_ensures rfl rfl).bind ?_
      rintro past _ ⟨found, received_, lookedUp_⟩
      exact ⟨.acknowledge received_ lookedUp_, fun _ _ => trivial⟩

end Deliveries

/-- Every task follows the script. -/
theorem serveTask_obeys (services : Services) (task : Task) :
    taskScript.Obeys task (serveTask services task) [] := by
  cases task with
  | request request =>
      exact (serve_obeys services request).map (fun _ _ allowed => allowed)
        (fun _ _ promised => promised) fun _ _ _ => trivial
  | deliver => exact onMessage_obeys.bind fun _ _ _ => trivial
  | redeliver delivery => exact ⟨⟨rfl, rfl⟩, fun _ _ => trivial⟩

end ZeroShield.Worker
