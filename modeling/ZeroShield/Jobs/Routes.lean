import ZeroShield.Studio.Routes
import ZeroShield.Worker.Processor

/-!
# Submitting and watching a job

A run is submitted by saving a queued job, publishing its message and recording the first lifecycle
event.  The event stream polls the recorded events and the job until the job is done.
-/

namespace ZeroShield.Jobs

open Foundation Models Platform Studio StringEnum

/-- A request to run an experiment. -/
structure RunSubmission where
  experimentId : String
  executionContext : ExecutionContext
  requestId : Option String
  user : User

/-- Save a queued job, publish its message, and record that it is queued. -/
def queueRun (request : RunSubmission) (experiment : ExperimentDefinition) :
    Program platform Response := do
  let hex : String ← call .uuid4
  let jobId := "JOB-" ++ hex
  let now ← call .utcNow
  call (.saveJob
    { jobId
      experimentId := experiment.experimentId
      executionContext := request.executionContext
      status := .queued
      submittedAt := now
      updatedAt := now })
  call (.publish
    { jobId
      experimentId := experiment.experimentId
      executionContext := request.executionContext
      submittedByUserId := some request.user.userId
      submittedByUsername := some request.user.username })
  call (.recordEvent
    { runId := jobId
      experimentId := experiment.experimentId
      eventType := .queued
      executionContext := some request.executionContext
      detail := none })
  recordAudit request.user request.requestId "run.submitted" "job" jobId
    [("experiment_id", .str experiment.experimentId),
      ("execution_context", .str (value request.executionContext))]
  return .jobSubmitted jobId experiment.experimentId .queued

def submitRun (request : RunSubmission) : Program platform Response := do
  match ← call (.findExperiment request.experimentId) with
  | none => return .refused 404 "experiment_not_found" (.text
      s!"no experiment with id '{request.experimentId}'")
  | some experiment =>
      requireRole [.researcher, .reviewer, .admin] request.user (queueRun request experiment)

/-! ## The event stream -/

/-- The statuses in which a job is done. -/
def terminalStatuses : List JobStatus :=
  [.completed, .failed, .denied]

/-- What is sent of a recorded event. -/
structure RunEventPayload where
  eventType : String
  occurredAt : String
  detail : Option (List (String × Json))

def payload (row : RunEventRow) : RunEventPayload where
  eventType := value row.eventType
  occurredAt := row.occurredAt.isoformat
  detail := row.detail

/-- A message of the stream. -/
inductive StreamMessage
  | runEvent (data : RunEventPayload)
  | jobTerminal (jobStatus : String) (error : Option String)
  | streamTimeout (detail : String)

/-- The message of a job which is done. -/
def terminalMessage (job : JobRecord) : Option StreamMessage :=
  if job.status ∈ terminalStatuses then some (.jobTerminal (value job.status) job.error) else none

/-- Poll the events and then the job; `seen` events were sent before. -/
def generate (jobId : String) : ℕ → ℕ → Program platform (List StreamMessage)
  | 0, _ => return [.streamTimeout
      "stream exceeded maximum duration; poll GET /jobs/\x7bjob_id\x7d instead"]
  | polls + 1, seen => do
      let events ← call (.listEvents jobId)
      let sent := (events.drop seen).map fun row => StreamMessage.runEvent (payload row)
      let current ← call (.loadJob jobId)
      match current.bind terminalMessage with
      | some last => return sent ++ [last]
      | none => do
          let rest ← generate jobId polls events.length
          return sent ++ rest

/-- Stream the events of a job, for at most 300 polls at intervals of one second. -/
def streamJobEvents (jobId : String) : Program platform (Except Response (List StreamMessage)) := do
  match ← call (.loadJob jobId) with
  | none => return .error (.refused 404 "job_not_found" (.text s!"no job with id '{jobId}'"))
  | some _ => do
      let sent ← generate jobId 300 0
      return .ok sent

/-! ## The parties of a job -/

/-- Who acts on a job. -/
inductive Party
  | submit (request : RunSubmission)
  | work
  | watch (jobId : String)

/-- What a party ends with. -/
inductive Outcome
  | response (response : Response)
  | worked
  | streamed (messages : Except Response (List StreamMessage))

/-- The program of a party. -/
def Party.program : Party → Program platform Outcome
  | .submit request => Outcome.response <$> submitRun request
  | .work => (fun _ => .worked) <$> Worker.onMessage
  | .watch jobId => Outcome.streamed <$> streamJobEvents jobId

abbrev JobPool : Type := Pool platform World Party Outcome

abbrev JobMove : Type := Move Party Input

/-- A submission, a worker and the event stream of a job before any of them has started. -/
def parties (world : World) (request : RunSubmission) (jobId : String) : JobPool where
  world
  threads := [⟨.submit request, [], Party.program (.submit request)⟩,
    ⟨.work, [], Party.program .work⟩, ⟨.watch jobId, [], Party.program (.watch jobId)⟩]
  log := []

end ZeroShield.Jobs
