import ZeroShield.Platform.Operations

/-!
# The worker

A worker receives the message of a job, looks the experiment up by its identifier, runs it and
records the outcome.  The events, audit entries and control validations written on the way never
affect the outcome.
-/

namespace ZeroShield.Worker

open Foundation Models Platform StringEnum

/-- Why a run did not complete. -/
inductive RunError
  | refused (decision : PolicyDecision)
  | failure (failure : RunFailure)

section Job

variable (message : RunJobMessage)

/-- Record the state of a job. -/
def record (submittedAt : DateTime) (status : JobStatus) (result : Option RunResultSummary := none)
    (error : Option String := none) : Program platform Unit := do
  let now ← call .utcNow
  call (.saveJob
    { jobId := message.jobId
      experimentId := message.experimentId
      executionContext := message.executionContext
      status
      submittedAt
      updatedAt := now
      result
      error })

/-- Record a lifecycle event of the run. -/
def emit (eventType : RunEventType) (detail : Option (List (String × Json)) := none) :
    Program platform Unit :=
  call (.recordEvent
    { runId := message.jobId
      experimentId := message.experimentId
      eventType
      executionContext := some message.executionContext
      detail })

/-- Record an audit event on behalf of whoever submitted the job. -/
def audit (action targetType targetId : String) (metadata : List (String × Json)) :
    Program platform Unit :=
  call (.recordAudit
    { actorUserId := message.submittedByUserId
      actorUsername := message.submittedByUsername
      actorRole := none
      action, targetType, targetId
      requestId := none
      metadata })

/-- Announce each stage and do its work, until one fails. -/
def runStages (experiment : ExperimentDefinition) :
    List RunEventType → Program platform (Except RunFailure Unit)
  | [] => return .ok ()
  | stage :: stages => do
      emit message stage
      match ← call (.runStage stage experiment) with
      | .error failure => return .error failure
      | .ok () => runStages experiment stages

/-- Run an experiment: the dataset and the strategies are resolved, the safety policy is asked, and
then both strategies are run, compared and their evidence is written. -/
def runExperiment (experiment : ExperimentDefinition) :
    Program platform (Except RunError RunResultSummary) := do
  match ← runStages message experiment [.preparing] with
  | .error failure => return .error (.failure failure)
  | .ok () =>
      emit message .safetyCheck
      let now ← call .utcNow
      let decision := SafetyPolicy.evaluate experiment message.executionContext now
      if decision.allowed = false then
        return .error (.refused decision)
      else
        match ← call (.runStage .safetyCheck experiment) with
        | .error failure => return .error (.failure failure)
        | .ok () =>
            match ← runStages message experiment
                [.runningBaseline, .runningMitigation, .analysing, .generatingEvidence] with
            | .error failure => return .error (.failure failure)
            | .ok () =>
                let summary ← call (.runSummary experiment)
                return .ok summary

/-- What a policy refusal records: the reasons, or a default text when there are none. -/
def deniedText (decision : PolicyDecision) : String :=
  match String.intercalate "; " decision.reasons with
  | "" => "denied by safety policy"
  | reasons => reasons

/-- Run the experiment which was found, if any, and record what came of it. -/
def finishJob (submittedAt : DateTime) : Option ExperimentDefinition → Program platform Unit
  | none => do
      record message submittedAt .failed none
        (some s!"experiment '{message.experimentId}' could not be found when the job started")
      emit message .failed (some [("reason", .str "experiment_not_found")])
  | some experiment => do
      match ← runExperiment message experiment with
      | .error (.refused decision) =>
          let reasons := Json.arr (decision.reasons.map .str)
          record message submittedAt .denied none (some (deniedText decision))
          emit message .denied (some [("reasons", reasons)])
          audit message "run.denied" "job" message.jobId
            [("experiment_id", .str message.experimentId), ("reasons", reasons)]
      | .error (.failure (.service _)) =>
          record message submittedAt .failed none
            (some ("the experiment's configured dataset or processing strategy could not be " ++
              "resolved on this server."))
          emit message .failed (some [("reason", .str "service_error")])
          audit message "run.failed" "job" message.jobId
            [("experiment_id", .str message.experimentId), ("reason", .str "service_error")]
      | .error (.failure (.internal _)) =>
          record message submittedAt .failed none (some "an internal error occurred")
          emit message .failed (some [("reason", .str "internal_error")])
          audit message "run.failed" "job" message.jobId
            [("experiment_id", .str message.experimentId), ("reason", .str "internal_error")]
      | .ok summary =>
          record message submittedAt .completed (some summary)
          emit message .completed (some [("total_cases", .int summary.totalCases)])
          audit message "evidence.created" "experiment" message.experimentId
            [("baseline_run_id", .str summary.baselineRunId),
              ("mitigation_run_id", .str summary.mitigationRunId),
              ("total_cases", .int summary.totalCases)]
          call (.recordControlValidation experiment summary)

/-- Mark the job as running and look its experiment up. -/
def processRunJob : Program platform Unit := do
  let existing ← call (.loadJob message.jobId)
  let submittedAt ← match existing with
    | some job => pure job.submittedAt
    | none => call .utcNow
  record message submittedAt .running
  let found ← call (.findExperiment message.experimentId)
  finishJob message submittedAt found

end Job

/-- Serve one delivery: the message is acknowledged after it was processed. -/
def onMessage : Program platform Unit := do
  match ← call .receive with
  | none => return ()
  | some (delivery, message) => do
      processRunJob message
      call (.acknowledge delivery)

end ZeroShield.Worker
