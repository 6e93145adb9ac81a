import ZeroShield.Foundation.Attempt
import ZeroShield.Intelligence.Routes
import ZeroShield.Jobs.Lifecycle

/-!
# Submissions are all or nothing

A submission saves a queued record, publishes its message and writes an audit event, without
undoing anything.  It is all or nothing exactly when it is refused, when it fails before the record
is saved, or when nothing fails; only a failure to record the lifecycle event is caught.
-/

namespace ZeroShield.Jobs

open Foundation Models Platform Studio StringEnum

/-- What is stored and published for a job. -/
def jobLedger (jobId : String) : Ledger World where
  stored world := (world.jobs.lookup jobId).isSome
  queued world := ∃ job ∈ world.jobs.lookup jobId, job.status = .queued
  messages world := world.queue.countP (·.jobId = jobId)

/-- What is stored and published for a synchronisation. -/
def syncLedger (syncId : String) : Ledger Intelligence.Store where
  stored store := (store.syncs.lookup syncId).isSome
  queued store := ∃ sync ∈ store.syncs.lookup syncId, sync.status = .queued
  messages store := store.queue.countP (·.syncId = syncId)

/-- The job which a response names. -/
def submittedJob : Response → Option String
  | .jobSubmitted jobId _ _ => some jobId
  | _ => none

/-- The synchronisation which a response names. -/
def submittedSync : Intelligence.SyncResponse → Option String
  | .submitted syncId _ _ => some syncId
  | .refused _ _ _ => none

/-- The routes only catch exceptions of recording a lifecycle event. -/
def caught : (op : Op) → Option op.Result
  | .recordEvent _ => some ()
  | _ => none

/-- The identifier of the job which is submitted next. -/
def nextJobId (world : World) : String :=
  "JOB-" ++ hexText world.issued

/-- The identifier of the synchronisation which is submitted next. -/
def nextSyncId (store : Intelligence.Store) : String :=
  "SYNC-" ++ hexText store.issued

/-- Some operation before saving the record fails, or saving fails before it took effect, or saving,
publishing and the audit event all complete. -/
def Settles (fate : ℕ → Fate) (save audit : ℕ) : Prop :=
  (∃ earlier < save, fate earlier ≠ .completes) ∨ fate save = .failsBefore ∨
    fate save = .completes ∧ fate (save + 1) = .completes ∧ fate audit = .completes

section Effects

variable {world : World} {input : Input} {jobId : String} {op : Op}

/-- The operations of the routes which do not concern a submission. -/
def bystands : Op → Bool
  | .saveJob _ | .publish _ | .receive | .requeue _ => false
  | _ => true

theorem same_of_bystands (aside : bystands op = true) :
    (jobLedger jobId).Same world (exec input op world).2 := by
  cases op with
  | saveJob | publish | receive | requeue => cases aside
  | _ => exact ⟨Iff.rfl, Iff.rfl, rfl⟩

theorem written_saveJob {job : JobRecord} (named : job.jobId = jobId) (waits : job.status = .queued)
    (blank : (jobLedger jobId).Blank world) :
    (jobLedger jobId).Written 0 (exec input (.saveJob job) world).2 := by
  have stored : (exec input (.saveJob job) world).2.jobs.lookup jobId = some job := by
    rw [← named]
    exact Table.lookup_upsert _ _
  exact ⟨by simp [jobLedger, stored], ⟨job, stored, waits⟩, blank.2⟩

theorem written_publish {message : RunJobMessage} {count : ℕ} (named : message.jobId = jobId)
    (written : (jobLedger jobId).Written count world) :
    (jobLedger jobId).Written (count + 1) (exec input (.publish message) world).2 := by
  refine ⟨written.stored, written.queued, ?_⟩
  have before := written.messages
  simp only [jobLedger] at before
  simp [jobLedger, exec, before, named]

end Effects

/-! ## Running an experiment -/

section Run

variable {world : World} {input : ℕ → Input} {fate : ℕ → Fate}

/-- Submissions from a world in which nothing bears the identifier drawn next. -/
abbrev JobAllOrNothing (program : Program platform Response) (input : ℕ → Input)
    (fate : ℕ → Fate) (world : World) : Prop :=
  Ledger.AllOrNothing jobLedger submittedJob (nextJobId world)
    (program.attempt exec caught input fate 0 world)

theorem bystanding_allOrNothing {jobId : String} {op : Op} {position : ℕ} {remains : Prop}
    {next : op.Result → Program platform Response} (aside : bystands op = true)
    (uncaught : caught op = none) (blank : (jobLedger jobId).Blank world)
    (continues : (jobLedger jobId).Blank (exec (input position) op world).2 →
      (Ledger.AllOrNothing jobLedger submittedJob jobId
        ((next (exec (input position) op world).1).attempt exec caught input fate (position + 1)
          (exec (input position) op world).2) ↔ remains)) :
    Ledger.AllOrNothing jobLedger submittedJob jobId
        ((call op >>= next).attempt exec caught input fate position world) ↔
      fate position ≠ .completes ∨ remains := by
  have same : (jobLedger jobId).Same world (exec (input position) op world).2 :=
    same_of_bystands aside
  rw [Program.call_bind, Ledger.allOrNothing_quiet uncaught blank same]
  exact or_congr_right (continues (same.blank blank))

theorem queueRun_allOrNothing (request : RunSubmission) (experiment : ExperimentDefinition)
    {position : ℕ} (blank : (jobLedger (nextJobId world)).Blank world) :
    Ledger.AllOrNothing jobLedger submittedJob (nextJobId world)
        ((queueRun request experiment).attempt exec caught input fate position world) ↔
      fate position ≠ .completes ∨ fate (position + 1) ≠ .completes ∨
        fate (position + 2) = .failsBefore ∨ fate (position + 2) = .completes ∧
          fate (position + 3) = .completes ∧ fate (position + 5) = .completes := by
  refine bystanding_allOrNothing rfl rfl blank fun drawn => ?_
  refine bystanding_allOrNothing rfl rfl drawn fun timed => ?_
  refine Ledger.allOrNothing_core rfl rfl timed (written_saveJob rfl rfl timed)
    (fun _ written => written_publish rfl written) fun _ _ later written => ?_
  have handled (event : RunEvent) : caught (.recordEvent event) = some () := rfl
  refine Ledger.allOrNothing_caught (handled _) written (same_of_bystands rfl) ?_
  intro _ later written
  exact Ledger.allOrNothing_last rfl rfl written (same_of_bystands rfl)

theorem requireRole_allOrNothing {roles : List Role} {user : User}
    {route : Program platform Response} {position : ℕ} {jobId : String} {settles : Prop}
    (blank : (jobLedger jobId).Blank world)
    (permitted : user.role ∈ roles → (Ledger.AllOrNothing jobLedger submittedJob jobId
      (route.attempt exec caught input fate position world) ↔ settles)) :
    Ledger.AllOrNothing jobLedger submittedJob jobId
        ((requireRole roles user route).attempt exec caught input fate position world) ↔
      user.role ∉ roles ∨ settles := by
  unfold requireRole
  split
  next member => simpa [member] using permitted member
  next absent => exact iff_of_true (Ledger.allOrNothing_done rfl blank) (.inl absent)

theorem submitRun_allOrNothing (request : RunSubmission)
    (blank : (jobLedger (nextJobId world)).Blank world) :
    JobAllOrNothing (submitRun request) input fate world ↔
      world.findExperiment request.experimentId = none ∨
        request.user.role ∉ [Role.researcher, .reviewer, .admin] ∨ Settles fate 3 6 := by
  unfold JobAllOrNothing
  rw [submitRun, Program.call_bind, Ledger.allOrNothing_quiet rfl blank (same_of_bystands rfl)]
  cases found : world.findExperiment request.experimentId with
  | none =>
      have read : (exec (input 0) (.findExperiment request.experimentId) world).1 = none := found
      rw [read]
      exact iff_of_true (.inr (Ledger.allOrNothing_done rfl blank)) (.inl rfl)
  | some experiment =>
      have read : (exec (input 0) (.findExperiment request.experimentId) world).1 =
          some experiment := found
      rw [read]
      refine (or_congr_right (requireRole_allOrNothing blank fun _ =>
        queueRun_allOrNothing request experiment blank)).trans ?_
      simp only [Settles, Nat.exists_lt_succ_right, Nat.not_lt_zero, false_and, exists_false,
        reduceCtorEq, false_or, or_assoc, Nat.reduceAdd]
      exact or_left_comm

/-- The version which is read may be run. -/
def Runnable (world : World) (versionId : String) : Prop :=
  ∃ version, world.getVersion versionId = .ok (some version) ∧ version.status = .approved

theorem submitExperimentVersionRun_allOrNothing (versionId : String) (requestId : Option String)
    (user : User) (blank : (jobLedger (nextJobId world)).Blank world) :
    JobAllOrNothing (submitExperimentVersionRun versionId requestId user) input fate world ↔
      user.role ∉ [Role.researcher, .reviewer, .admin] ∨ ¬ Runnable world versionId ∨
        Settles fate 4 6 := by
  refine requireRole_allOrNothing blank fun _ => ?_
  rw [Program.call_bind, Ledger.allOrNothing_quiet rfl blank (same_of_bystands rfl)]
  cases read : (exec (input 0) (.getVersion versionId) world).1 with
  | error =>
      have unread : ¬ Runnable world versionId := by
        rintro ⟨_, found, _⟩
        cases read.symm.trans found
      exact iff_of_true (.inr (Ledger.allOrNothing_done rfl blank)) (.inl unread)
  | ok found =>
      cases found with
      | none =>
          have missing : ¬ Runnable world versionId := by
            rintro ⟨_, found, _⟩
            cases read.symm.trans found
          exact iff_of_true (.inr (Ledger.allOrNothing_done rfl blank)) (.inl missing)
      | some version =>
          by_cases approved : version.status = .approved
          · have runnable : Runnable world versionId := ⟨version, read, approved⟩
            simp only [if_neg (not_not.mpr approved), materialiseToExperimentsDir]
            simp only [Settles, Nat.exists_lt_succ_right, Nat.not_lt_zero, false_and, exists_false,
              false_or, or_assoc, Nat.reduceAdd, runnable, not_true]
            refine or_congr_right ?_
            refine bystanding_allOrNothing rfl rfl blank fun placed => ?_
            refine bystanding_allOrNothing rfl rfl placed fun drawn => ?_
            refine bystanding_allOrNothing rfl rfl drawn fun timed => ?_
            refine Ledger.allOrNothing_core rfl rfl timed (written_saveJob rfl rfl timed)
              (fun _ written => written_publish rfl written) fun _ _ later written => ?_
            exact Ledger.allOrNothing_last rfl rfl written (same_of_bystands rfl)
          · have refused : ¬ Runnable world versionId := by
              rintro ⟨_, found, status⟩
              cases read.symm.trans found
              exact approved status
            simp only [if_pos approved]
            exact iff_of_true (.inr (Ledger.allOrNothing_done rfl blank)) (.inl refused)

end Run

/-! ## Synchronising -/

section Sync

variable {store : Intelligence.Store} {input : ℕ → DateTime} {fate : ℕ → Fate}
  {fromisoformat : String → Option Timestamp} {request : Intelligence.SyncRequest}

/-- The request names a registered source, and its time can be read. -/
def Accepted (fromisoformat : String → Option Timestamp) (request : Intelligence.SyncRequest) :
    Prop :=
  (∃ source ∈ Intelligence.knownSources, parse request.source = some source) ∧
    (Intelligence.readSince fromisoformat request.since).isSome

/-- Submissions from a store in which nothing bears the identifier drawn next. -/
abbrev SyncAllOrNothing (fromisoformat : String → Option Timestamp)
    (request : Intelligence.SyncRequest) (input : ℕ → DateTime) (fate : ℕ → Fate)
    (store : Intelligence.Store) : Prop :=
  Ledger.AllOrNothing syncLedger submittedSync (nextSyncId store)
    ((Intelligence.submitSync fromisoformat request).attempt Intelligence.exec (fun _ => none)
      input fate 0 store)

theorem written_saveSync {syncId : String} {sync : IntelligenceSync} {now : DateTime}
    (named : sync.syncId = syncId) (waits : sync.status = .queued)
    (blank : (syncLedger syncId).Blank store) :
    (syncLedger syncId).Written 0 (Intelligence.exec now (.saveSync sync) store).2 := by
  have stored : (Intelligence.exec now (.saveSync sync) store).2.syncs.lookup syncId =
      some sync := by
    rw [← named]
    exact Table.lookup_upsert _ _
  exact ⟨by simp [syncLedger, stored], ⟨sync, stored, waits⟩, blank.2⟩

theorem written_publishSync {syncId : String} {message : IntelligenceSyncJobMessage} {count : ℕ}
    {now : DateTime} (named : message.syncId = syncId)
    (written : (syncLedger syncId).Written count store) :
    (syncLedger syncId).Written (count + 1) (Intelligence.exec now (.publish message) store).2 := by
  refine ⟨written.stored, written.queued, ?_⟩
  have before := written.messages
  simp only [syncLedger] at before
  simp [syncLedger, Intelligence.exec, before, named]

theorem queueSync_allOrNothing (source : VulnerabilitySourceName) (since : Option Timestamp)
    (blank : (syncLedger (nextSyncId store)).Blank store) :
    Ledger.AllOrNothing syncLedger submittedSync (nextSyncId store)
      ((Intelligence.queueSync request source since).attempt Intelligence.exec (fun _ => none)
        input fate 0 store) ↔ Settles fate 2 4 := by
  have same : (syncLedger (nextSyncId store)).Same store
      (Intelligence.exec (input 0) .uuid4 store).2 := ⟨Iff.rfl, Iff.rfl, rfl⟩
  rw [Intelligence.queueSync, Program.call_bind, Ledger.allOrNothing_quiet rfl blank same,
    Program.call_bind, Ledger.allOrNothing_quiet rfl (same.blank blank) ⟨Iff.rfl, Iff.rfl, rfl⟩]
  simp only [Settles, Nat.exists_lt_succ_right, Nat.not_lt_zero, false_and, exists_false, false_or,
    or_assoc]
  refine or_congr_right (or_congr_right ?_)
  refine Ledger.allOrNothing_core rfl rfl (same.blank blank)
    (written_saveSync rfl rfl (same.blank blank)) (fun _ written => written_publishSync rfl written)
    fun _ _ later written => ?_
  exact Ledger.allOrNothing_last rfl rfl written ⟨Iff.rfl, Iff.rfl, rfl⟩

theorem submitSync_allOrNothing (blank : (syncLedger (nextSyncId store)).Blank store) :
    SyncAllOrNothing fromisoformat request input fate store ↔
      request.user.role ∉ [Role.researcher, .admin] ∨ ¬ Accepted fromisoformat request ∨
        Settles fate 2 4 := by
  unfold SyncAllOrNothing Intelligence.submitSync
  split
  next permitted =>
    simp only [permitted, not_true, false_or]
    split
    next unknown =>
      have refused : ¬ Accepted fromisoformat request := by
        rintro ⟨⟨source, -, named⟩, -⟩
        cases unknown.symm.trans named
      exact iff_of_true (Ledger.allOrNothing_done rfl blank) (.inl refused)
    next source named =>
      split
      next known =>
        split
        next unread =>
          have refused : ¬ Accepted fromisoformat request := by
            rintro ⟨-, read⟩
            simp [unread] at read
          exact iff_of_true (Ledger.allOrNothing_done rfl blank) (.inl refused)
        next since read =>
          have accepted : Accepted fromisoformat request := ⟨⟨source, known, named⟩, by simp [read]⟩
          simp only [accepted, not_true, false_or]
          exact queueSync_allOrNothing source since blank
      next unregistered =>
        have refused : ¬ Accepted fromisoformat request := by
          rintro ⟨⟨source, known, named'⟩, -⟩
          cases named.symm.trans named'
          exact unregistered known
        exact iff_of_true (Ledger.allOrNothing_done rfl blank) (.inl refused)
  next forbidden => exact iff_of_true (Ledger.allOrNothing_done rfl blank) (.inl forbidden)

end Sync

/-- A submission is all or nothing exactly when it is refused or settles. -/
theorem submissions_allOrNothing (fate : ℕ → Fate) :
    (∀ request world input, (jobLedger (nextJobId world)).Blank world →
      (JobAllOrNothing (submitRun request) input fate world ↔
        world.findExperiment request.experimentId = none ∨
          request.user.role ∉ [Role.researcher, .reviewer, .admin] ∨ Settles fate 3 6)) ∧
    (∀ versionId requestId user world input, (jobLedger (nextJobId world)).Blank world →
      (JobAllOrNothing (submitExperimentVersionRun versionId requestId user) input fate world ↔
        user.role ∉ [Role.researcher, .reviewer, .admin] ∨ ¬ Runnable world versionId ∨
          Settles fate 4 6)) ∧
    ∀ fromisoformat request store input, (syncLedger (nextSyncId store)).Blank store →
      (SyncAllOrNothing fromisoformat request input fate store ↔
        request.user.role ∉ [Role.researcher, .admin] ∨ ¬ Accepted fromisoformat request ∨
          Settles fate 2 4) :=
  ⟨fun request _ _ blank => submitRun_allOrNothing request blank,
    fun versionId requestId user _ _ blank =>
      submitExperimentVersionRun_allOrNothing versionId requestId user blank,
    fun _ _ _ _ blank => submitSync_allOrNothing blank⟩

instance {jobId : String} {world : World} : Decidable ((jobLedger jobId).Blank world) :=
  inferInstanceAs (Decidable (¬ (∃ job ∈ world.jobs.lookup jobId, job.status = .queued) ∧
    world.queue.countP (·.jobId = jobId) = 0))

namespace Sample

open Studio.Sample

/-- A request to synchronise without a time. -/
def syncRequest : Intelligence.SyncRequest where
  source := "epss"
  since := none
  requestId := none
  user := researcher

theorem blank_empty (syncId : String) : (syncLedger syncId).Blank {} :=
  ⟨fun ⟨_, found, _⟩ => Option.not_mem_none _ found, rfl⟩

/-- One operation fails before it takes effect. -/
def failsAt (failing position : ℕ) : Fate :=
  if position = failing then .failsBefore else .completes

end Sample

/-- Submissions in which nothing fails, and submissions whose records cannot be saved. -/
theorem submissions_allOrNothing_of_sample :
    (JobAllOrNothing (submitRun Sample.submission) (fun _ => {}) (fun _ => .completes)
        Sample.prepared ∧
      JobAllOrNothing
        (submitExperimentVersionRun (Studio.Sample.versionId 1) none Studio.Sample.researcher)
        (fun _ => {}) (fun _ => .completes) Sample.prepared ∧
      SyncAllOrNothing (fun _ => none) Sample.syncRequest (fun _ => 0) (fun _ => .completes) {}) ∧
    JobAllOrNothing (submitRun Sample.submission) (fun _ => {}) (Sample.failsAt 3)
        Sample.prepared ∧
      JobAllOrNothing
        (submitExperimentVersionRun (Studio.Sample.versionId 1) none Studio.Sample.researcher)
        (fun _ => {}) (Sample.failsAt 4) Sample.prepared ∧
      SyncAllOrNothing (fun _ => none) Sample.syncRequest (fun _ => 0) (Sample.failsAt 2) {} :=
  ⟨⟨((submissions_allOrNothing _).1 _ _ _ (by decide)).mpr
      (.inr (.inr (.inr (.inr ⟨rfl, rfl, rfl⟩)))),
    ((submissions_allOrNothing _).2.1 _ _ _ _ _ (by decide)).mpr
      (.inr (.inr (.inr (.inr ⟨rfl, rfl, rfl⟩)))),
    ((submissions_allOrNothing _).2.2 _ _ _ _ (Sample.blank_empty _)).mpr
      (.inr (.inr (.inr (.inr ⟨rfl, rfl, rfl⟩))))⟩,
    ((submissions_allOrNothing _).1 _ _ _ (by decide)).mpr (.inr (.inr (.inr (.inl rfl)))),
    ((submissions_allOrNothing _).2.1 _ _ _ _ _ (by decide)).mpr (.inr (.inr (.inr (.inl rfl)))),
    ((submissions_allOrNothing _).2.2 _ _ _ _ (Sample.blank_empty _)).mpr
      (.inr (.inr (.inr (.inl rfl))))⟩

/-- A record which was saved stays queued when its message cannot be published. -/
theorem not_allOrNothing_of_unpublished :
    ¬ ((∀ request world input fate, (jobLedger (nextJobId world)).Blank world →
          JobAllOrNothing (submitRun request) input fate world) ∧
        (∀ versionId requestId user world input fate, (jobLedger (nextJobId world)).Blank world →
          JobAllOrNothing (submitExperimentVersionRun versionId requestId user) input fate
            world) ∧
        ∀ fromisoformat request store input fate, (syncLedger (nextSyncId store)).Blank store →
          SyncAllOrNothing fromisoformat request input fate store) := by
  rintro ⟨-, -, sync⟩
  have claimed := sync (fun _ => none) Sample.syncRequest {} (fun _ => 0) (Sample.failsAt 3)
    (Sample.blank_empty _)
  rw [submitSync_allOrNothing (Sample.blank_empty _)] at claimed
  rcases claimed with forbidden | refused | settles
  · exact forbidden (by decide)
  · exact refused ⟨⟨.epss, by decide, by decide⟩, rfl⟩
  · rcases settles with ⟨earlier, before, fails⟩ | unsaved | ⟨-, published, -⟩
    · simp [Sample.failsAt] at fails
      omega
    · cases unsaved
    · cases published

end ZeroShield.Jobs
