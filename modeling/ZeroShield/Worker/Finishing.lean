import ZeroShield.Evidence.Builder
import ZeroShield.Experiments.Discovery
import ZeroShield.Foundation.Traces
import ZeroShield.Jobs.Script

/-!
# How a job ends

A worker looks its experiment up in a directory, outside of what guards the run itself.  The job is
finished when its record, its last lifecycle event and a single audit event tell the ending which
the outcome of the run calls for.  The recording of events, audit events and validations may raise;
these exceptions are caught.
-/

namespace ZeroShield.Worker

open Foundation Models Platform Experiments Jobs

/-- The worker catches the exceptions of recording events, audit events and validations. -/
def caught : (op : Op) → Option op.Result
  | .recordEvent _ | .recordAudit _ | .recordControlValidation _ _ => some ()
  | _ => none

/-- The other operations do not raise, above all the store of the jobs. -/
def OnlyRecordingRaises (tries : List (Try platform)) : Prop :=
  ∀ tried ∈ tries, tried.returned = none → caught tried.op ≠ none

section Job

variable (message : RunJobMessage)

/-- Load the job and mark it as running. -/
def startJob : Program platform DateTime := do
  let existing ← call (.loadJob message.jobId)
  let submittedAt ← match existing with
    | some job => pure job.submittedAt
    | none => call .utcNow
  record message submittedAt .running
  return submittedAt

/-- A job is started, its experiment is looked up and then it is finished. -/
theorem processRunJob_eq : processRunJob message = (do
    let submittedAt ← startJob message
    let found ← call (.findExperiment message.experimentId)
    finishJob message submittedAt found) := by
  refine congrArg (Program.perform _) (funext fun existing => ?_)
  cases existing <;> rfl

/-- Process a job whose experiment is looked up in a directory; the lookup may raise. -/
def processRunJobIn (parser : Parser) (directory : Option Listing) :
    Program platform (Except DiscoveryFailure Unit) := do
  let submittedAt ← startJob message
  match findExperiment parser directory message.experimentId with
  | .error failure => return .error failure
  | .ok found => do
      finishJob message submittedAt found
      return .ok ()

/-- A lookup in the directory takes the place of the operation which looks an experiment up. -/
theorem exists_tries_processRunJob {parser : Parser} {directory : Option Listing}
    {found : Option ExperimentDefinition} {tries : List (Try platform)}
    (looked : findExperiment parser directory message.experimentId = .ok found)
    (trace : Program.Tries caught (processRunJobIn message parser directory) tries
      (some (.ok ()))) :
    ∃ starting finishing, tries = starting ++ finishing ∧
      Program.Tries caught (processRunJob message)
        (starting ++ ⟨.findExperiment message.experimentId, some found⟩ :: finishing)
        (some ()) := by
  obtain ⟨starting, _, submittedAt, starts, looks, rfl⟩ := Program.tries_bind.mp trace
  rw [looked] at looks
  obtain ⟨finishing, _, _, finishes, returns, rfl⟩ := Program.tries_bind.mp looks
  obtain ⟨rfl, -⟩ := Program.tries_done.mp returns
  refine ⟨starting, finishing, by rw [List.append_nil], ?_⟩
  rw [processRunJob_eq]
  exact Program.tries_bind.mpr ⟨starting, _, submittedAt, starts, .perform rfl finishes, rfl⟩

/-! ## What is recorded -/

/-- The statuses with which the job is saved. -/
def statuses (tries : List (Try platform)) : List JobStatus :=
  tries.filterMap fun tried =>
    match tried.op with
    | .saveJob job => if job.jobId = message.jobId then some job.status else none
    | _ => none

/-- The lifecycle events of the run which are to be recorded. -/
def announced (tries : List (Try platform)) : List RunEventType :=
  tries.filterMap fun tried =>
    match tried.op with
    | .recordEvent event => if event.runId = message.jobId then some event.eventType else none
    | _ => none

/-- The audit events which are to be recorded. -/
def audited (tries : List (Try platform)) : List String :=
  tries.filterMap fun tried =>
    match tried.op with
    | .recordAudit event => some event.action
    | _ => none

end Job

/-- How a job ends. -/
inductive Ending
  | completed
  | denied
  | failed

namespace Ending

def status : Ending → JobStatus
  | completed => .completed
  | denied => .denied
  | failed => .failed

def eventType : Ending → RunEventType
  | completed => .completed
  | denied => .denied
  | failed => .failed

def action : Ending → String
  | completed => "evidence.created"
  | denied => "run.denied"
  | failed => "run.failed"

/-- The ending which the outcome of a run calls for. -/
def ofOutcome : Except RunError RunResultSummary → Ending
  | .ok _ => completed
  | .error (.refused _) => denied
  | .error (.failure _) => failed

theorem status_terminal (ending : Ending) : ending.status ∈ terminalStatuses := by
  cases ending <;> decide

theorem eventType_terminal (ending : Ending) : IsTerminal ending.eventType := by
  cases ending <;> decide

end Ending

/-- The job record, the lifecycle events and the audit events tell one ending. -/
structure Tells (message : RunJobMessage) (tries : List (Try platform)) (ending : Ending) :
    Prop where
  saved : (statuses message tries).getLast? = some ending.status
  terminal : ending.status ∈ terminalStatuses
  last : (announced message tries).getLast? = some ending.eventType
  once : (announced message tries).filter (fun eventType => IsTerminal eventType) =
    [ending.eventType]
  audits : audited tries = [ending.action]

section Finishes

variable (parser : Parser) (directory : Option Listing) (message : RunJobMessage)
  (tries : List (Try platform))

/-- The ending which a job calls for: the one for the outcome of its run, which begins after the job
was started, and a failure if there is no experiment to run. -/
inductive CallsFor : Ending → Prop
  | ran {experiment : ExperimentDefinition} {submittedAt : DateTime}
      {starting running later : List (Try platform)} {outcome : Except RunError RunResultSummary}
      (found : findExperiment parser directory message.experimentId = .ok (some experiment))
      (split : tries = starting ++ (running ++ later))
      (starts : Program.Tries caught (startJob message) starting (some submittedAt))
      (runs : Program.Tries caught (runExperiment message experiment) running (some outcome)) :
      CallsFor (.ofOutcome outcome)
  | missing (absent : ∀ experiment,
      findExperiment parser directory message.experimentId ≠ .ok (some experiment)) :
      CallsFor .failed

/-- The job is processed without raising and its records tell the ending which it calls for. -/
def Finishes (outcome : Option (Except DiscoveryFailure Unit)) : Prop :=
  outcome = some (.ok ()) ∧
    ∃ ending, CallsFor parser directory message tries ending ∧ Tells message tries ending

end Finishes

section Traces

variable {message : RunJobMessage} {tries first second : List (Try platform)}
  {submittedAt : DateTime} {experiment : ExperimentDefinition}

@[simp] theorem statuses_append :
    statuses message (first ++ second) = statuses message first ++ statuses message second :=
  List.filterMap_append

@[simp] theorem announced_append :
    announced message (first ++ second) = announced message first ++ announced message second :=
  List.filterMap_append

@[simp] theorem audited_append : audited (first ++ second) = audited first ++ audited second :=
  List.filterMap_append

/-- What is saved, announced and audited. -/
structure Leaves (message : RunJobMessage) (tries : List (Try platform))
    (saved : List JobStatus) (announces : List RunEventType) (audits : List String) : Prop where
  statuses_eq : statuses message tries = saved
  announced_eq : announced message tries = announces
  audited_eq : audited tries = audits

theorem Leaves.nil : Leaves message [] [] [] [] := ⟨rfl, rfl, rfl⟩

theorem Leaves.append {saved saved' : List JobStatus} {announces announces' : List RunEventType}
    {audits audits' : List String} (left : Leaves message first saved announces audits)
    (right : Leaves message second saved' announces' audits') :
    Leaves message (first ++ second) (saved ++ saved') (announces ++ announces')
      (audits ++ audits') where
  statuses_eq := by rw [statuses_append, left.statuses_eq, right.statuses_eq]
  announced_eq := by rw [announced_append, left.announced_eq, right.announced_eq]
  audited_eq := by rw [audited_append, left.audited_eq, right.audited_eq]

theorem leaves_record {status : JobStatus} {result : Option RunResultSummary}
    {error : Option String} {value : Unit}
    (trace : Program.Tries caught (record message submittedAt status result error) tries
      (some value)) : Leaves message tries [status] [] [] := by
  obtain ⟨_, now, later, -, rfl, saves⟩ := Program.tries_call_bind.mp trace
  obtain ⟨returned, -, rfl⟩ := Program.tries_call.mp saves
  exact ⟨by simp [statuses], rfl, rfl⟩

theorem leaves_emit {eventType : RunEventType} {detail : Option (List (String × Json))}
    {value : Unit}
    (trace : Program.Tries caught (emit message eventType detail) tries (some value)) :
    Leaves message tries [] [eventType] [] := by
  obtain ⟨returned, -, rfl⟩ := Program.tries_call.mp trace
  exact ⟨rfl, by simp [announced], rfl⟩

theorem leaves_audit {action targetType targetId : String} {metadata : List (String × Json)}
    {value : Unit}
    (trace : Program.Tries caught (audit message action targetType targetId metadata) tries
      (some value)) : Leaves message tries [] [] [action] := by
  obtain ⟨returned, -, rfl⟩ := Program.tries_call.mp trace
  exact ⟨rfl, rfl, rfl⟩

/-- An ending is saved and announced in turn. -/
theorem leaves_ending {status : JobStatus} {result : Option RunResultSummary}
    {error : Option String} {eventType : RunEventType} {detail : Option (List (String × Json))}
    {next : Program platform Unit} {value : Unit}
    (trace : Program.Tries caught (do
      record message submittedAt status result error
      emit message eventType detail
      next) tries (some value)) :
    ∃ front later, tries = front ++ later ∧ Program.Tries caught next later (some value) ∧
      Leaves message front [status] [eventType] [] := by
  obtain ⟨saving, _, _, saves, saved, rfl⟩ := Program.tries_bind.mp trace
  obtain ⟨emitting, later, _, emits, ends, rfl⟩ := Program.tries_bind.mp saved
  refine ⟨saving ++ emitting, later, by simp, ends, ?_⟩
  exact (leaves_record saves).append (leaves_emit emits)

theorem leaves_startJob
    (trace : Program.Tries caught (startJob message) tries (some submittedAt)) :
    Leaves message tries [.running] [] [] := by
  obtain ⟨loaded, existing, later, -, rfl, timed⟩ := Program.tries_call_bind.mp trace
  have loads : Leaves message [⟨.loadJob message.jobId, loaded⟩] [] [] [] := ⟨rfl, rfl, rfl⟩
  have marks {time : DateTime} {tries : List (Try platform)} (trace : Program.Tries caught (do
      record message time .running
      return time) tries (some submittedAt)) : Leaves message tries [.running] [] [] := by
    obtain ⟨saving, _, _, saves, returns, rfl⟩ := Program.tries_bind.mp trace
    obtain ⟨rfl, -⟩ := Program.tries_done.mp returns
    exact (leaves_record saves).append .nil
  refine (loads.append ?_ : Leaves message ([_] ++ later) _ _ _)
  cases existing with
  | some job => exact marks timed
  | none =>
      obtain ⟨clock, now, later, -, rfl, marked⟩ := Program.tries_call_bind.mp timed
      have clocked : Leaves message [⟨.utcNow, clock⟩] [] [] [] := ⟨rfl, rfl, rfl⟩
      exact clocked.append (marks marked)

/-! ## Running the experiment -/

/-- A run saves nothing, audits nothing and announces no ending. -/
def Working (message : RunJobMessage) (tries : List (Try platform)) : Prop :=
  ∃ announces, Leaves message tries [] announces [] ∧
    ∀ eventType ∈ announces, ¬ IsTerminal eventType

theorem Working.append (left : Working message first) (right : Working message second) :
    Working message (first ++ second) := by
  obtain ⟨announces, leaves, working⟩ := left
  obtain ⟨announces', leaves', working'⟩ := right
  exact ⟨announces ++ announces', leaves.append leaves',
    List.forall_mem_append.mpr ⟨working, working'⟩⟩

theorem Working.cons {tried : Try platform} (first : Working message [tried])
    (later : Working message tries) : Working message (tried :: tries) :=
  first.append later

theorem Working.nil : Working message [] := ⟨[], .nil, nofun⟩

theorem working_emit {eventType : RunEventType} {value : Unit} (working : ¬ IsTerminal eventType)
    (trace : Program.Tries caught (emit message eventType) tries (some value)) :
    Working message tries :=
  ⟨[eventType], leaves_emit trace, List.forall_mem_singleton.mpr working⟩

theorem working_runStage {stage : RunEventType} {returned : Option (Except RunFailure Unit)} :
    Working message [⟨.runStage stage experiment, returned⟩] :=
  ⟨[], ⟨rfl, rfl, rfl⟩, nofun⟩

theorem working_runStages {stages : List RunEventType} {value : Except RunFailure Unit}
    (working : ∀ stage ∈ stages, ¬ IsTerminal stage)
    (trace : Program.Tries caught (runStages message experiment stages) tries (some value)) :
    Working message tries := by
  induction stages generalizing tries with
  | nil =>
      obtain ⟨rfl, -⟩ := Program.tries_done.mp trace
      exact .nil
  | cons stage stages ih =>
      obtain ⟨emitting, _, _, emits, emitted, rfl⟩ := Program.tries_bind.mp trace
      obtain ⟨_, result, later, -, rfl, staged⟩ := Program.tries_call_bind.mp emitted
      refine (working_emit (working stage List.mem_cons_self) emits).append ?_
      refine working_runStage.cons ?_
      cases result with
      | error failure =>
          obtain ⟨rfl, -⟩ := Program.tries_done.mp staged
          exact .nil
      | ok _ => exact ih (fun stage later => working stage (List.mem_cons_of_mem _ later)) staged

/-- No outcome of a run is preceded by an ending. -/
theorem working_runExperiment {outcome : Except RunError RunResultSummary}
    (trace : Program.Tries caught (runExperiment message experiment) tries (some outcome)) :
    Working message tries := by
  obtain ⟨preparing, _, prepared, prepares, trace, rfl⟩ := Program.tries_bind.mp trace
  refine (working_runStages (by decide) prepares).append ?_
  cases prepared with
  | error failure =>
      obtain ⟨rfl, -⟩ := Program.tries_done.mp trace
      exact .nil
  | ok _ =>
      obtain ⟨emitting, _, _, emits, emitted, rfl⟩ := Program.tries_bind.mp trace
      obtain ⟨clock, now, later, -, rfl, judged⟩ := Program.tries_call_bind.mp emitted
      refine (working_emit (by decide) emits).append ?_
      have timed : Working message [⟨.utcNow, clock⟩] := ⟨[], ⟨rfl, rfl, rfl⟩, nofun⟩
      refine timed.cons ?_
      dsimp only at judged
      split at judged
      · obtain ⟨rfl, -⟩ := Program.tries_done.mp judged
        exact .nil
      obtain ⟨_, checked, later, -, rfl, staged⟩ := Program.tries_call_bind.mp judged
      refine working_runStage.cons ?_
      cases checked with
      | error failure =>
          obtain ⟨rfl, -⟩ := Program.tries_done.mp staged
          exact .nil
      | ok _ =>
          obtain ⟨running, _, ran, runs, finished, rfl⟩ := Program.tries_bind.mp staged
          refine (working_runStages (by decide) runs).append ?_
          cases ran with
          | error failure =>
              obtain ⟨rfl, -⟩ := Program.tries_done.mp finished
              exact .nil
          | ok _ =>
              obtain ⟨_, summary, later, -, rfl, returns⟩ := Program.tries_call_bind.mp finished
              obtain ⟨rfl, -⟩ := Program.tries_done.mp returns
              exact ⟨[], ⟨rfl, rfl, rfl⟩, nofun⟩

/-! ## The records of a job -/

/-- After a run the ending for its outcome is recorded. -/
theorem finishJob_found {value : Unit}
    (trace : Program.Tries caught (finishJob message submittedAt (some experiment)) tries
      (some value)) :
    ∃ running later outcome, tries = running ++ later ∧
      Program.Tries caught (runExperiment message experiment) running (some outcome) ∧
        Leaves message later [(Ending.ofOutcome outcome).status]
          [(Ending.ofOutcome outcome).eventType] [(Ending.ofOutcome outcome).action] := by
  obtain ⟨running, later, outcome, runs, ends, rfl⟩ := Program.tries_bind.mp trace
  refine ⟨running, later, outcome, rfl, runs, ?_⟩
  cases outcome with
  | error failure =>
      cases failure with
      | refused decision =>
          obtain ⟨front, later, rfl, audits, leaves⟩ := leaves_ending ends
          exact leaves.append (leaves_audit audits)
      | failure failure =>
          cases failure with
          | service text =>
              obtain ⟨front, later, rfl, audits, leaves⟩ := leaves_ending ends
              exact leaves.append (leaves_audit audits)
          | internal text =>
              obtain ⟨front, later, rfl, audits, leaves⟩ := leaves_ending ends
              exact leaves.append (leaves_audit audits)
  | ok summary =>
      obtain ⟨front, later, rfl, audited, leaves⟩ := leaves_ending ends
      obtain ⟨auditing, later, _, audits, validates, rfl⟩ := Program.tries_bind.mp audited
      obtain ⟨returned, -, rfl⟩ := Program.tries_call.mp validates
      have validated : Leaves message
          [⟨.recordControlValidation experiment summary, returned⟩] [] [] [] := ⟨rfl, rfl, rfl⟩
      exact leaves.append ((leaves_audit audits).append validated)

/-- Without an experiment the failure is not audited. -/
theorem finishJob_missing {value : Unit}
    (trace : Program.Tries caught (finishJob message submittedAt none) tries (some value)) :
    Leaves message tries [.failed] [.failed] [] := by
  obtain ⟨saving, emitting, _, saves, emits, rfl⟩ := Program.tries_bind.mp trace
  exact (leaves_record saves).append (leaves_emit emits)

variable {parser : Parser} {directory : Option Listing}
  {outcome : Option (Except DiscoveryFailure Unit)} {returned : Except DiscoveryFailure Unit}

/-- The records of a job whose experiment is found tell the ending for the outcome of its run. -/
theorem finishes_of_found (found : findExperiment parser directory message.experimentId =
      .ok (some experiment))
    (trace : Program.Tries caught (processRunJobIn message parser directory) tries
      (some returned)) : Finishes parser directory message tries (some returned) := by
  obtain ⟨starting, _, submittedAt, starts, looked, rfl⟩ := Program.tries_bind.mp trace
  rw [found] at looked
  obtain ⟨finishing, _, _, finishes, returns, rfl⟩ := Program.tries_bind.mp looked
  obtain ⟨rfl, rfl⟩ := Program.tries_done.mp returns
  obtain ⟨running, later, ran, rfl, runs, ends⟩ := finishJob_found finishes
  obtain ⟨announces, leaves, working⟩ := working_runExperiment runs
  have all := (leaves_startJob starts).append ((leaves.append ends).append .nil)
  have none : announces.filter (fun eventType => IsTerminal eventType) = [] :=
    List.filter_eq_nil_iff.mpr fun eventType member => by simpa using working eventType member
  refine ⟨rfl, .ofOutcome ran, .ran found (by rw [List.append_nil]) starts runs, ?_⟩
  exact
    { saved := by rw [all.statuses_eq]; rfl
      terminal := Ending.status_terminal _
      last := by rw [all.announced_eq]; simp
      once := by
        rw [all.announced_eq]
        simp [none, Ending.eventType_terminal]
      audits := by rw [all.audited_eq]; rfl }

/-- A job is finished only if its experiment is found. -/
theorem found_of_finishes
    (trace : Program.Tries caught (processRunJobIn message parser directory) tries outcome)
    (finishes : Finishes parser directory message tries outcome) : ∃ experiment,
      findExperiment parser directory message.experimentId = .ok (some experiment) := by
  obtain ⟨rfl, ending, -, tells⟩ := finishes
  obtain ⟨starting, _, submittedAt, starts, looked, rfl⟩ := Program.tries_bind.mp trace
  cases found : findExperiment parser directory message.experimentId with
  | error failure =>
      rw [found] at looked
      cases (Program.tries_done.mp looked).2
  | ok result =>
      cases result with
      | some experiment => exact ⟨experiment, rfl⟩
      | none =>
          rw [found] at looked
          obtain ⟨finishing, _, _, fails, returns, rfl⟩ := Program.tries_bind.mp looked
          obtain ⟨rfl, -⟩ := Program.tries_done.mp returns
          have all := (leaves_startJob starts).append ((finishJob_missing fails).append .nil)
          have audits := tells.audits
          rw [all.audited_eq] at audits
          cases audits

/-- A job is finished exactly if the lookup of its experiment returns one, whatever the recording of
events, audit events and validations does. -/
theorem finishes_iff (recording : OnlyRecordingRaises tries)
    (trace : Program.Tries caught (processRunJobIn message parser directory) tries outcome) :
    Finishes parser directory message tries outcome ↔ ∃ experiment,
      findExperiment parser directory message.experimentId = .ok (some experiment) := by
  refine ⟨found_of_finishes trace, ?_⟩
  rintro ⟨experiment, found⟩
  obtain ⟨returned, rfl⟩ := trace.isSome recording
  exact finishes_of_found found trace

end Traces

namespace FinishingSample

/-- A valid definition. -/
def definition : ExperimentDefinition where
  experimentId := "ZC-VPN-EXP-001"
  title := "Schema canonicalisation"
  domain := .vpn
  description := "Pre-authentication request validation"
  relatedCves :=
    [{ cveId := "CVE-2024-00001"
       domain := .vpn
       cvssScore := none
       cisaKev := true
       epssScore := none
       trustBoundary := "gateway"
       rootCause := .inputValidationFailure
       vendorMitigation := "upgrade"
       mitigationGap := "unpatched appliances"
       sourceUrls := [⟨"https://example.org/"⟩]
       retrievedDate := 20000 }]
  failurePattern := "pre_auth_request_schema_validation"
  rootCause := .inputValidationFailure
  vendorMitigation := "upgrade"
  mitigationGap := "unpatched appliances"
  researchQuestion := "Does canonicalisation block malformed requests?"
  hypothesis := "It does"
  safetyLevel := .syntheticOnly
  baselineStrategy := "weak_schema_length_baseline"
  mitigationStrategy := "strict_schema_canonicalisation_mitigation"
  datasetPath := ⟨"", ["datasets", "vpn.json"]⟩
  metricsToCollect := [.blockRate]

/-- The file of the definition is parsed. -/
def parser : Parser where
  loads _ := .ok (Evidence.experimentJson definition)
  readFields _ := .ok definition
  str error := error.title

/-- A directory with the file of the definition. -/
def directory : Listing where
  entries :=
    [("ZC-VPN-EXP-001.json",
      .file (encodeUtf8 ((Evidence.experimentJson definition).canonical fun _ => "0.0")))]
  distinct := by decide

def message : RunJobMessage where
  jobId := "JOB-001"
  experimentId := "ZC-VPN-EXP-001"
  executionContext := .experimentRun
  submittedByUserId := none
  submittedByUsername := none

theorem found : findExperiment parser (some directory) message.experimentId =
    .ok (some definition) := by
  have valid : definition.errors = [] := by decide +kernel
  have validated : modelValidate parser (Evidence.experimentJson definition) = .ok definition :=
    ExperimentDefinition.validate_eq_ok.mpr ⟨valid, rfl⟩
  have entries : jsonEntriesOf (some directory) = directory.entries :=
    Listing.jsonEntries_singleton rfl (by decide)
  obtain ⟨text, read⟩ : ∃ text, Entry.readText (.file (encodeUtf8
      ((Evidence.experimentJson definition).canonical fun _ => "0.0"))) = .ok text :=
    ⟨_, by rw [Entry.readText, readText, decodeUtf8_encodeUtf8]; rfl⟩
  have handled : ∀ entry ∈ jsonEntriesOf (some directory), entry.2.Handled parser := by
    rw [entries]
    exact List.forall_mem_singleton.mpr ⟨text, read, fun _ raised => by cases raised⟩
  have held : directory.entries.filterMap (·.2.definition parser) = [definition] := by
    refine (List.filterMap_cons_some (b := definition) ?_).trans rfl
    rw [Entry.definition, read]
    exact congrArg Except.toOption validated
  obtain ⟨result, discovered, experiments, -⟩ := (isolates_of_handled handled).discovers
  rw [entries, held] at experiments
  rw [findExperiment, discovered]
  change Except.ok (result.experiments.find? _) = _
  rw [experiments]
  rfl

/-- Some processing of the message in which every recording raises. -/
theorem exists_tries (directory : Option Listing) : ∃ tries outcome,
    Program.Tries caught (processRunJobIn message parser directory) tries (some outcome) ∧
      ∀ tried ∈ tries, tried.returned = none ↔ caught tried.op ≠ none :=
  Program.exists_tries exec (fun _ => {}) (fun _ raises => raises)
    (processRunJobIn message parser directory) 0 {}

end FinishingSample

/-- A job whose experiment is in the directory is finished although every recording raises. -/
theorem finishes_iff_of_sample : ∃ tries outcome,
    (∀ tried ∈ tries, tried.returned = none ↔ caught tried.op ≠ none) ∧
    (Finishes FinishingSample.parser (some FinishingSample.directory) FinishingSample.message tries
        outcome ↔ ∃ experiment,
      findExperiment FinishingSample.parser (some FinishingSample.directory)
        FinishingSample.message.experimentId = .ok (some experiment)) ∧
    findExperiment FinishingSample.parser (some FinishingSample.directory)
      FinishingSample.message.experimentId = .ok (some FinishingSample.definition) := by
  obtain ⟨tries, outcome, trace, raises⟩ :=
    FinishingSample.exists_tries (some FinishingSample.directory)
  refine ⟨tries, some outcome, raises, ?_, FinishingSample.found⟩
  exact finishes_iff (fun tried member raised => (raises tried member).mp raised) trace

/-- A job is not finished if a file is not UTF-8, nor if its experiment is not there. -/
theorem not_finishes_of_missing :
    (∃ tries outcome, OnlyRecordingRaises tries ∧
      Program.Tries caught
        (processRunJobIn FinishingSample.message FinishingSample.parser (some undecodable)) tries
        outcome ∧
      ¬Finishes FinishingSample.parser (some undecodable) FinishingSample.message tries outcome) ∧
    ∃ tries outcome, OnlyRecordingRaises tries ∧
      Program.Tries caught (processRunJobIn FinishingSample.message FinishingSample.parser none)
        tries outcome ∧
      ¬Finishes FinishingSample.parser none FinishingSample.message tries outcome := by
  constructor
  · obtain ⟨tries, outcome, trace, raises⟩ := FinishingSample.exists_tries (some undecodable)
    refine ⟨tries, some outcome, fun tried member raised => (raises tried member).mp raised, trace,
      fun finishes => ?_⟩
    obtain ⟨experiment, found⟩ := found_of_finishes trace finishes
    obtain ⟨result, discovered, -⟩ := bind_eq_ok.mp found
    exact discoverExperiments_undecodable discovered
  · obtain ⟨tries, outcome, trace, raises⟩ := FinishingSample.exists_tries none
    refine ⟨tries, some outcome, fun tried member raised => (raises tried member).mp raised, trace,
      fun finishes => ?_⟩
    obtain ⟨experiment, found⟩ := found_of_finishes trace finishes
    cases found

end ZeroShield.Worker
