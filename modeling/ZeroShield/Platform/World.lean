import ZeroShield.Foundation.Interleaving
import ZeroShield.Foundation.Table
import ZeroShield.Models.Policies

/-!
# The platform's shared state

Versions, approvals and audit events live in the database, experiments and jobs in directories, and
run jobs travel through the message queue.  Routes and workers touch this state only through the
operations of `platform`, each of which is one transaction or one file operation.
-/

namespace ZeroShield.Platform

open Foundation Models

/-- An authenticated user. -/
structure User where
  userId : String
  username : String
  role : Role
  usernameNonempty : username ≠ "" := by decide

/-- An event of the audit trail; its identifier and time are assigned by the database. -/
structure AuditEvent where
  actorUserId : Option String
  actorUsername : Option String
  actorRole : Option Role
  action : String
  targetType : String
  targetId : Option String
  requestId : Option String
  metadata : List (String × Json)
  previousState : Option (List (String × Json)) := none
  newState : Option (List (String × Json)) := none

/-- The summary kept with a completed job. -/
structure RunResultSummary where
  baselineRunId : String
  mitigationRunId : String
  totalCases : ℕ
  baselineBlockRate : ℚ
  mitigationBlockRate : ℚ
  blockRateImprovement : ℚ
  evidenceLocation : String
  deriving DecidableEq

/-- The stored record of a job. -/
structure JobRecord where
  jobId : String
  experimentId : String
  executionContext : ExecutionContext
  status : JobStatus
  submittedAt : DateTime
  updatedAt : DateTime
  result : Option RunResultSummary := none
  error : Option String := none
  deriving DecidableEq

/-- The queued message of a job: it names the experiment, not its definition. -/
structure RunJobMessage where
  jobId : String
  experimentId : String
  executionContext : ExecutionContext
  submittedByUserId : Option String
  submittedByUsername : Option String
  deriving DecidableEq

/-- A lifecycle event of a run, to be recorded. -/
structure RunEvent where
  runId : String
  experimentId : String
  eventType : RunEventType
  executionContext : Option ExecutionContext := none
  detail : Option (List (String × Json))

/-- A recorded lifecycle event with the time at which it was recorded. -/
structure RunEventRow extends RunEvent where
  occurredAt : DateTime

/-- The present state of a run according to its last recorded event. -/
structure RunRow where
  jobId : String
  experimentId : String
  executionContext : Option ExecutionContext
  currentStatus : RunEventType
  createdAt : DateTime
  updatedAt : DateTime

/-- How the work between two lifecycle events of a run can fail. -/
inductive RunFailure
  | service (message : String)
  | internal (message : String)
  deriving DecidableEq

/-- A file of the experiments directory. -/
structure ExperimentFile where
  name : String
  definition : ExperimentDefinition

/-- A generated dataset file. -/
structure DatasetFile where
  path : String
  testSet : String

/-- The shared state. -/
structure World where
  /-- Version rows by version identifier. -/
  versions : Table ExperimentVersion.versionId := .empty
  /-- Approval rows in the order of their generated identifiers. -/
  approvals : List ApprovalDecision := []
  datasets : Table DatasetFile.path := .empty
  experiments : Table ExperimentFile.name := .empty
  jobs : Table JobRecord.jobId := .empty
  /-- Messages waiting for delivery. -/
  queue : List RunJobMessage := []
  /-- Messages delivered and not yet acknowledged, with the numbers of their deliveries. -/
  unacked : List (ℕ × RunJobMessage) := []
  /-- How many deliveries were made. -/
  deliveries : ℕ := 0
  runs : Table RunRow.jobId := .empty
  /-- Event rows in the order of their generated identifiers. -/
  runEvents : List RunEventRow := []
  audit : List AuditEvent := []
  /-- How many unique identifiers were issued. -/
  issued : ℕ := 0

namespace World

/-- Rows are validated again when they are read. -/
def getVersion (world : World) (versionId : String) :
    Except ValidationError (Option ExperimentVersion) :=
  match world.versions.lookup versionId with
  | none => .ok none
  | some row =>
      match row.validate with
      | .ok version => .ok (some version)
      | .error error => .error error

/-- The versions of an experiment by number; one unreadable row makes the listing fail. -/
def listVersions (world : World) (experimentId : String) :
    Except ValidationError (List ExperimentVersion) :=
  ((world.versions.rows.filter (·.experimentId = experimentId)).insertionSort
    fun left right => left.versionNumber ≤ right.versionNumber).mapM ExperimentVersion.validate

def latestVersionNumber (world : World) (experimentId : String) : Except ValidationError ℕ :=
  match world.listVersions experimentId with
  | .error error => .error error
  | .ok versions => .ok ((versions.map (·.versionNumber)).foldr max 0)

/-- Upsert a whole row under its version identifier. -/
def saveVersion (world : World) (version : ExperimentVersion) : World :=
  { world with versions := world.versions.upsert version }

def appendApprovalDecision (world : World) (decision : ApprovalDecision) : World :=
  { world with approvals := world.approvals ++ [decision] }

/-- The approval rows of a version ordered by decision time, then by row identifier. -/
def getApprovalHistory (world : World) (versionId : String) : List ApprovalDecision :=
  (world.approvals.filter (·.versionId = versionId)).insertionSort
    fun left right => left.decidedAt ≤ right.decidedAt

/-- A dataset file is only written when it does not exist. -/
def writeDataset (world : World) (path testSet : String) : World :=
  { world with
    datasets :=
      if (world.datasets.lookup path).isSome then world.datasets
      else world.datasets.upsert ⟨path, testSet⟩ }

/-- The name of an experiment's file. -/
def experimentFileName (experimentId : String) : String :=
  experimentId ++ ".json"

/-- Overwrite the experiment's file. -/
def writeExperiment (world : World) (experimentId : String) (definition : ExperimentDefinition) :
    World :=
  { world with
    experiments := world.experiments.upsert ⟨experimentFileName experimentId, definition⟩ }

/-- The definition in an experiment's file. -/
def experimentFile (world : World) (experimentId : String) : Option ExperimentDefinition :=
  (world.experiments.lookup (experimentFileName experimentId)).map (·.definition)

/-- Valid definitions of the experiments directory in the order of their file names. -/
def discoverExperiments (world : World) : List ExperimentDefinition :=
  ((world.experiments.rows.insertionSort fun left right => left.name ≤ right.name).map
    (·.definition)).filter fun definition => definition.errors = []

def findExperiment (world : World) (experimentId : String) : Option ExperimentDefinition :=
  world.discoverExperiments.find? (·.experimentId = experimentId)

/-- The run row after an event: its status is that of the event. -/
def runRowAfter (event : RunEvent) (now : DateTime) : Option RunRow → RunRow
  | none =>
      { jobId := event.runId
        experimentId := event.experimentId
        executionContext := event.executionContext
        currentStatus := event.eventType
        createdAt := now
        updatedAt := now }
  | some run =>
      { run with
        executionContext := event.executionContext.or run.executionContext
        currentStatus := event.eventType
        updatedAt := now }

/-- Record a lifecycle event and make it the status of its run. -/
def recordEvent (world : World) (event : RunEvent) (now : DateTime) : World :=
  { world with
    runs := world.runs.upsert (runRowAfter event now (world.runs.lookup event.runId))
    runEvents := world.runEvents ++ [{ toRunEvent := event, occurredAt := now }] }

/-- The recorded events of a run ordered by time, then by row identifier. -/
def listEvents (world : World) (runId : String) : List RunEventRow :=
  (world.runEvents.filter (·.runId = runId)).insertionSort
    fun left right => left.occurredAt ≤ right.occurredAt

/-! ## Reading back -/

/-- What is read under an identifier is a valid row with that identifier. -/
theorem getVersion_eq_some {world : World} {versionId : String} {version : ExperimentVersion} :
    world.getVersion versionId = .ok (some version) ↔
      world.versions.lookup versionId = some version ∧ version.Valid := by
  unfold getVersion
  split
  case h_1 absent => simp [absent]
  case h_2 row stored =>
    simp only [stored, Option.some.injEq]
    split
    case h_1 _ validated =>
      obtain ⟨valid, rfl⟩ := ExperimentVersion.validate_eq_ok.mp validated
      simp only [Except.ok.injEq, Option.some.injEq]
      exact ⟨fun equal => ⟨equal, equal ▸ valid⟩, And.left⟩
    case h_2 _ failed =>
      simp only [reduceCtorEq, false_iff, not_and]
      rintro rfl valid
      rw [ExperimentVersion.validate_eq_ok.mpr ⟨valid, rfl⟩] at failed
      cases failed

theorem versionId_of_getVersion {world : World} {versionId : String} {version : ExperimentVersion}
    (read : world.getVersion versionId = .ok (some version)) : version.versionId = versionId :=
  Table.key_of_lookup (getVersion_eq_some.mp read).1

private theorem le_foldr_max {numbers : List ℕ} {number : ℕ} (member : number ∈ numbers) :
    number ≤ numbers.foldr max 0 := by
  induction numbers with
  | nil => cases member
  | cons first numbers ih =>
      rcases List.mem_cons.mp member with rfl | later
      · exact le_max_left _ _
      · exact (ih later).trans (le_max_right _ _)

private theorem mapM_validate {rows versions : List ExperimentVersion}
    (validated : rows.mapM ExperimentVersion.validate = .ok versions) : versions = rows := by
  induction rows generalizing versions with
  | nil => simpa [pure, Except.pure] using validated.symm
  | cons row rows ih =>
      rw [List.mapM_cons] at validated
      cases first : row.validate with
      | error error => simp [first, bind, Except.bind] at validated
      | ok version =>
          cases others : rows.mapM ExperimentVersion.validate with
          | error error => simp [first, others, bind, Except.bind] at validated
          | ok rest =>
              obtain ⟨-, rfl⟩ := ExperimentVersion.validate_eq_ok.mp first
              simp only [first, others, bind, Except.bind, pure, Except.pure,
                Except.ok.injEq] at validated
              rw [← validated, ih others]

/-- The latest number bounds the number of every stored version of the experiment. -/
theorem versionNumber_le_latest {world : World} {experimentId : String} {latest : ℕ}
    {row : ExperimentVersion} (read : world.latestVersionNumber experimentId = .ok latest)
    (stored : row ∈ world.versions.rows) (same : row.experimentId = experimentId) :
    row.versionNumber ≤ latest := by
  unfold latestVersionNumber at read
  split at read
  case h_1 => cases read
  case h_2 versions listed =>
    obtain rfl := Except.ok.inj read
    rw [mapM_validate listed]
    refine le_foldr_max (List.mem_map_of_mem ?_)
    rw [List.mem_insertionSort, List.mem_filter]
    exact ⟨stored, by simpa using same⟩

/-- The file of an experiment after writing one. -/
theorem experimentFile_writeExperiment {world : World} {written experimentId : String}
    {definition : ExperimentDefinition} :
    (world.writeExperiment written definition).experimentFile experimentId =
      if written = experimentId then some definition else world.experimentFile experimentId := by
  unfold experimentFile writeExperiment
  by_cases same : written = experimentId
  · subst same
    have stored := Table.lookup_upsert world.experiments ⟨experimentFileName written, definition⟩
    simp only [stored, if_true, Option.map_some]
  · have other : experimentFileName written ≠ experimentFileName experimentId :=
      fun equal => same (append_suffix_inj.mp equal)
    have kept : (world.experiments.upsert ⟨experimentFileName written, definition⟩).lookup
        (experimentFileName experimentId) =
          world.experiments.lookup (experimentFileName experimentId) :=
      Table.lookup_upsert_ne other
    rw [if_neg same, kept]

end World

end ZeroShield.Platform
