import ZeroShield.Jobs.Routes

/-!
# What the parties of a job do

The submission records that the job is queued, once; the worker records events of increasing rank;
the event stream lists the events and loads the job in turn.
-/

namespace ZeroShield.Jobs

open Foundation Models Platform Studio

/-- What a party has seen so far. -/
abbrev Past : Type :=
  List (Event platform)

/-- The place of an event in the lifecycle of a run; all terminal events share the last place. -/
def rank : RunEventType → ℕ
  | .queued => 0
  | .preparing => 1
  | .safetyCheck => 2
  | .runningBaseline => 3
  | .runningMitigation => 4
  | .analysing => 5
  | .generatingEvidence => 6
  | .completed | .denied | .failed => 7

/-- The events with which a run ends. -/
def IsTerminal (eventType : RunEventType) : Prop :=
  rank eventType = 7

instance {eventType : RunEventType} : Decidable (IsTerminal eventType) :=
  inferInstanceAs (Decidable (_ = _))

theorem rank_le (eventType : RunEventType) : rank eventType ≤ 7 := by
  cases eventType <;> decide

theorem rank_eq_zero {eventType : RunEventType} : rank eventType = 0 ↔ eventType = .queued := by
  cases eventType <;> decide

/-- The events which a party has recorded, newest first. -/
def recorded (past : Past) : List RunEvent :=
  past.filterMap fun event =>
    match event with
    | ⟨.recordEvent recorded, _⟩ => some recorded
    | _ => none

theorem recorded_cons {op : Op} {result : op.Result} {past : Past}
    (other : ∀ event, op ≠ .recordEvent event) :
    recorded (⟨op, result⟩ :: past) = recorded past := by
  cases op <;> first | rfl | exact absurd rfl (other _)

theorem mem_recorded {event : RunEvent} {past : Past} :
    event ∈ recorded past ↔ (⟨.recordEvent event, ()⟩ : Event platform) ∈ past := by
  unfold recorded
  rw [List.mem_filterMap]
  constructor
  · rintro ⟨⟨op, result⟩, member, same⟩
    cases op with
    | recordEvent other =>
        obtain rfl := Option.some.inj same
        exact member
    | _ => cases same
  · exact fun member => ⟨_, member, rfl⟩

/-- The events which the stream has sent, in the order of sending. -/
def sent : Past → List RunEventRow
  | [] => []
  | ⟨.listEvents _, events⟩ :: past => sent past ++ events.drop (listed past).length
  | _ :: past => sent past
where
  /-- The last listing. -/
  listed : Past → List RunEventRow
    | [] => []
    | ⟨.listEvents _, events⟩ :: _ => events
    | _ :: past => listed past

/-- A poll which has listed the events and not yet loaded the job. -/
def PollOpen : Past → Prop
  | ⟨.listEvents _, _⟩ :: _ => True
  | _ => False

instance {past : Past} : Decidable (PollOpen past) := by
  unfold PollOpen
  split <;> infer_instance

/-- What a stream returns. -/
def StreamEnds (jobId : String) (past : Past) (messages : List StreamMessage) : Prop :=
  ∃ last, messages = (sent past).map (fun row => .runEvent (payload row)) ++ [last] ∧
    ∀ status error, last = .jobTerminal status error →
      ∃ job earlier, past = ⟨.loadJob jobId, some job⟩ :: earlier ∧ PollOpen earlier ∧
        job.status ∈ terminalStatuses

/-- The script of the parties. -/
def partyScript : Protocol platform Party Outcome where
  allowed
    | .submit _, past, .recordEvent event => event.eventType = .queued ∧ recorded past = []
    | .submit _, _, _ => True
    | .work, past, .recordEvent event =>
        event.eventType ≠ .queued ∧
          ∀ earlier ∈ recorded past, earlier.runId = event.runId ∧
            rank earlier.eventType < rank event.eventType
    | .work, _, _ => True
    | .watch jobId, _, .listEvents other => other = jobId
    | .watch jobId, _, .loadJob other => other = jobId
    | .watch _, _, _ => False
  promised _ _ := True
  finished
    | .watch jobId, past, .streamed (.ok messages) => StreamEnds jobId past messages
    | _, _, _ => True

/-! ## The submission -/

theorem submit_obeys (request : RunSubmission) :
    partyScript.Obeys (.submit request) (Party.program (.submit request)) [] := by
  refine @Protocol.Ensures.bind _ _ _ _ _ _ _ _ _ (fun _ _ => True) _ _ ?_ fun _ _ _ => trivial
  refine ⟨trivial, fun found _ => ?_⟩
  cases found with
  | none => trivial
  | some experiment =>
      dsimp only [requireRole]
      split
      case isFalse => trivial
      case isTrue =>
        refine ⟨trivial, fun hex _ => ⟨trivial, fun now _ => ⟨trivial, fun _ _ => ?_⟩⟩⟩
        refine ⟨trivial, fun _ _ => ⟨⟨rfl, rfl⟩, fun _ _ => ⟨trivial, fun _ _ => trivial⟩⟩⟩

/-! ## The worker -/

section Work

variable {α : Type} {runId : String} {lower upper : ℕ} {past : Past}

/-- All events recorded so far belong to a run and to places of its lifecycle below a bound. -/
def Bounded (runId : String) (upper : ℕ) (past : Past) : Prop :=
  ∀ earlier ∈ recorded past, earlier.runId = runId ∧ rank earlier.eventType < upper

theorem Bounded.mono (bounded : Bounded runId lower past) (le : lower ≤ upper) :
    Bounded runId upper past :=
  fun earlier member => ⟨(bounded earlier member).1, (bounded earlier member).2.trans_le le⟩

theorem Bounded.cons {op : Op} {result : op.Result} (bounded : Bounded runId upper past)
    (other : ∀ event, op ≠ .recordEvent event) : Bounded runId upper (⟨op, result⟩ :: past) := by
  unfold Bounded
  rwa [recorded_cons other]

/-- A program which raises the bound on the recorded events. -/
abbrev Climbs (runId : String) (lower upper : ℕ) (program : Program platform α) : Prop :=
  partyScript.Leads .work (Bounded runId lower) (Bounded runId upper) program

theorem climbs_done (value : α) (le : lower ≤ upper) : Climbs runId lower upper (.done value) :=
  fun _ bounded => bounded.mono le

theorem climbs_call {op : Op} (other : ∀ event, op ≠ .recordEvent event) :
    Climbs runId lower lower (call op) := by
  refine Protocol.leads_call (fun past _ => ?_) fun past result bounded => bounded.cons other
  cases op with
  | recordEvent event => exact absurd rfl (other event)
  | _ => trivial

variable {message : RunJobMessage}

/-- An event of a later place is recorded. -/
theorem climbs_emit {eventType : RunEventType} {detail : Option (List (String × Json))}
    (positive : 0 < lower) (later : lower ≤ rank eventType) :
    Climbs message.jobId lower (rank eventType + 1) (Worker.emit message eventType detail) := by
  intro past bounded
  have notQueued : eventType ≠ .queued := by
    rintro rfl
    exact absurd (positive.trans_le later) (lt_irrefl 0)
  refine ⟨⟨notQueued, bounded.mono later⟩, fun result _ => ?_⟩
  intro earlier member
  rcases List.mem_cons.mp member with rfl | old
  · exact ⟨rfl, Nat.lt_succ_self _⟩
  · exact bounded.mono (later.trans (Nat.le_succ _)) earlier old

theorem climbs_record {submittedAt : DateTime} {status : JobStatus}
    {result : Option RunResultSummary} {error : Option String} :
    Climbs runId lower lower (Worker.record message submittedAt status result error) :=
  (climbs_call (by rintro _ ⟨⟩)).bind fun _ => climbs_call (by rintro _ ⟨⟩)

/-- Stages whose places increase, from one bound to another. -/
def Ascends (upper : ℕ) : ℕ → List RunEventType → Prop
  | lower, [] => lower ≤ upper
  | lower, stage :: stages => lower ≤ rank stage ∧ Ascends upper (rank stage + 1) stages

theorem climbs_runStages {experiment : ExperimentDefinition} {stages : List RunEventType}
    (positive : 0 < lower) (ascends : Ascends upper lower stages) :
    Climbs message.jobId lower upper (Worker.runStages message experiment stages) := by
  induction stages generalizing lower with
  | nil => exact climbs_done _ ascends
  | cons stage stages ih =>
      obtain ⟨later, ascends⟩ := ascends
      refine (climbs_emit positive later).bind fun _ => ?_
      refine (climbs_call (by rintro _ ⟨⟩)).bind fun outcome => ?_
      have rest := ih (Nat.succ_pos _) ascends
      cases outcome with
      | error failure => exact climbs_done _ (le_of_ascends ascends)
      | ok => exact rest
where
  le_of_ascends {lower : ℕ} {stages : List RunEventType} (ascends : Ascends upper lower stages) :
      lower ≤ upper := by
    induction stages generalizing lower with
    | nil => exact ascends
    | cons stage stages ih => exact ascends.1.trans ((Nat.le_succ _).trans (ih ascends.2))

theorem climbs_runExperiment {experiment : ExperimentDefinition} :
    Climbs message.jobId 1 7 (Worker.runExperiment message experiment) := by
  have preparing : Ascends 2 1 [.preparing] := ⟨le_rfl, le_rfl⟩
  have running : Ascends 7 3 [.runningBaseline, .runningMitigation, .analysing,
      .generatingEvidence] := ⟨le_rfl, le_rfl, le_rfl, le_rfl, le_rfl⟩
  refine (climbs_runStages Nat.one_pos preparing).bind fun outcome => ?_
  cases outcome with
  | error failure => exact climbs_done _ (by decide)
  | ok =>
      refine (climbs_emit Nat.two_pos le_rfl).bind fun _ => ?_
      refine (climbs_call (by rintro _ ⟨⟩)).bind fun now => ?_
      dsimp only
      split
      case isTrue => exact climbs_done _ (by decide)
      case isFalse =>
        refine (climbs_call (by rintro _ ⟨⟩)).bind fun outcome => ?_
        cases outcome with
        | error failure => exact climbs_done _ (by decide)
        | ok =>
            refine (climbs_runStages (Nat.succ_pos _) running).bind fun outcome => ?_
            cases outcome with
            | error failure => exact climbs_done _ le_rfl
            | ok => exact (climbs_call (by rintro _ ⟨⟩)).bind fun summary => climbs_done _ le_rfl

/-- The last event of a run. -/
theorem climbs_end {eventType : RunEventType} {detail : Option (List (String × Json))}
    (terminal : IsTerminal eventType) :
    Climbs message.jobId 7 8 (Worker.emit message eventType detail) :=
  (climbs_emit (by decide) terminal.ge).mono (fun _ => id) fun _ bounded => by
    rwa [terminal] at bounded

theorem climbs_finishJob {submittedAt : DateTime} {found : Option ExperimentDefinition} :
    Climbs message.jobId 1 8 (Worker.finishJob message submittedAt found) := by
  cases found with
  | none =>
      refine climbs_record.bind fun _ => ?_
      exact fun past bounded => climbs_end (by decide) past (bounded.mono (by decide))
  | some experiment =>
      refine climbs_runExperiment.bind fun outcome => ?_
      have audited {action targetType targetId : String} {metadata : List (String × Json)} :
          Climbs message.jobId 8 8 (Worker.audit message action targetType targetId metadata) :=
        climbs_call (by rintro _ ⟨⟩)
      cases outcome with
      | ok summary =>
          refine climbs_record.bind fun _ => (climbs_end (by decide)).bind fun _ => ?_
          exact audited.bind fun _ => climbs_call (by rintro _ ⟨⟩)
      | error error =>
          cases error with
          | refused decision =>
              exact climbs_record.bind fun _ => (climbs_end (by decide)).bind fun _ => audited
          | failure failure =>
              cases failure with
              | service =>
                  exact climbs_record.bind fun _ => (climbs_end (by decide)).bind fun _ => audited
              | internal =>
                  exact climbs_record.bind fun _ => (climbs_end (by decide)).bind fun _ => audited

theorem climbs_processRunJob : Climbs message.jobId 1 8 (Worker.processRunJob message) := by
  refine (climbs_call (by rintro _ ⟨⟩)).bind fun existing => ?_
  have continues (submittedAt : DateTime) : Climbs message.jobId 1 8 (do
      Worker.record message submittedAt .running
      let found ← call (.findExperiment message.experimentId)
      Worker.finishJob message submittedAt found) :=
    climbs_record.bind fun _ => (climbs_call (by rintro _ ⟨⟩)).bind fun _ => climbs_finishJob
  cases existing with
  | some job => exact continues job.submittedAt
  | none => exact (climbs_call (by rintro _ ⟨⟩)).bind fun submittedAt => continues submittedAt

end Work

theorem work_obeys : partyScript.Obeys .work (Party.program .work) [] := by
  refine @Protocol.Ensures.bind _ _ _ _ _ _ _ _ _ (fun _ _ => True) _ _ ?_ fun _ _ _ => trivial
  refine ⟨trivial, fun delivered _ => ?_⟩
  cases delivered with
  | none => trivial
  | some delivery =>
      have processed : Climbs delivery.2.jobId 1 8 (do
          Worker.processRunJob delivery.2
          call (.acknowledge delivery.1)) :=
        climbs_processRunJob.bind fun _ => climbs_call (by rintro _ ⟨⟩)
      refine (processed _ ?_).mono fun _ _ _ => trivial
      rintro _ ⟨⟩

/-! ## The event stream -/

theorem sent_cons {op : Op} {result : op.Result} {past : Past}
    (other : ∀ jobId, op ≠ .listEvents jobId) : sent (⟨op, result⟩ :: past) = sent past := by
  cases op <;> first | rfl | exact absurd rfl (other _)

/-- What a stream sends from some moment on. -/
def Streams (jobId : String) (before past : Past) (messages : List StreamMessage) : Prop :=
  ∃ new last, sent past = sent before ++ new ∧
    messages = new.map (fun row => .runEvent (payload row)) ++ [last] ∧
      ∀ status error, last = .jobTerminal status error →
        ∃ job earlier, past = ⟨.loadJob jobId, some job⟩ :: earlier ∧ PollOpen earlier ∧
          job.status ∈ terminalStatuses

/-- Every poll sends what was not listed by the poll before. -/
theorem generate_ensures {jobId : String} {polls : ℕ} {past : Past} :
    partyScript.Ensures (.watch jobId) (Streams jobId past)
      (generate jobId polls (sent.listed past).length) past := by
  induction polls generalizing past with
  | zero => exact ⟨[], _, by simp, rfl, by rintro _ _ ⟨⟩⟩
  | succ polls ih =>
      refine ⟨rfl, fun (events : List RunEventRow) _ => ?_⟩
      refine ⟨rfl, fun (current : Option JobRecord) _ => ?_⟩
      have listing : sent (⟨.loadJob jobId, current⟩ :: ⟨.listEvents jobId, events⟩ :: past) =
          sent past ++ events.drop (sent.listed past).length := rfl
      have rest := @ih (⟨.loadJob jobId, current⟩ :: ⟨.listEvents jobId, events⟩ :: past)
      dsimp only [Program.bind]
      split
      case h_1 last done =>
        obtain ⟨job, rfl, message⟩ := Option.bind_eq_some_iff.mp done
        simp only [terminalMessage, Option.ite_none_right_eq_some] at message
        refine ⟨events.drop (sent.listed past).length, last, listing, rfl, ?_⟩
        exact fun _ _ _ => ⟨job, _, rfl, trivial, message.1⟩
      case h_2 =>
        refine rest.bind ?_
        rintro later _ ⟨new, last, more, rfl, ends⟩
        refine ⟨events.drop (sent.listed past).length ++ new, last, ?_, ?_, ends⟩
        · rw [more, listing, List.append_assoc]
        · rw [List.map_append, List.append_assoc]

theorem watch_obeys (jobId : String) :
    partyScript.Obeys (.watch jobId) (Party.program (.watch jobId)) [] := by
  refine ⟨rfl, fun (found : Option JobRecord) _ => ?_⟩
  cases found with
  | none => trivial
  | some job =>
      have ends : partyScript.Ensures (.watch jobId) (StreamEnds jobId) (generate jobId 300 0)
          [⟨.loadJob jobId, some job⟩] := by
        refine (@generate_ensures jobId 300 [⟨.loadJob jobId, some job⟩]).mono ?_
        rintro past _ ⟨new, last, more, rfl, ends⟩
        exact ⟨last, by rw [more]; rfl, ends⟩
      have returned : partyScript.Ensures (.watch jobId)
          (fun past (result : Except Response (List StreamMessage)) =>
            ∃ messages, result = .ok messages ∧ StreamEnds jobId past messages)
          (generate jobId 300 0 >>= fun sent => return .ok sent) [⟨.loadJob jobId, some job⟩] :=
        ends.bind fun past messages ends => ⟨messages, rfl, ends⟩
      refine returned.bind ?_
      rintro past _ ⟨messages, rfl, ends⟩
      exact ends

theorem parties_obey (tag : Party) : partyScript.Obeys tag tag.program [] := by
  cases tag with
  | submit request => exact submit_obeys request
  | work => exact work_obeys
  | watch jobId => exact watch_obeys jobId

/-- The threads of the parties keep to the script. -/
theorem sound_of_parties {guard : JobPool → JobMove → Prop} {world : World}
    {request : RunSubmission} {jobId : String} {pool : JobPool}
    (reach : Pool.Reaches Party.program exec guard (parties world request jobId) pool) :
    ∀ thread ∈ pool.threads, partyScript.Sound thread := by
  refine Protocol.sound_of_sound parties_obey (fun _ _ _ => trivial) ?_ reach
  intro thread member
  simp only [parties, List.mem_cons, List.not_mem_nil, or_false] at member
  rcases member with rfl | rfl | rfl
  · exact ⟨trivial, submit_obeys request⟩
  · exact ⟨trivial, work_obeys⟩
  · exact ⟨trivial, watch_obeys jobId⟩

/-- When no party joins, the parties remain as they are. -/
theorem tags_of_parties {guard : JobPool → JobMove → Prop} {world : World}
    {request : RunSubmission} {jobId : String} {pool : JobPool}
    (closed : ∀ pool tag, ¬ guard pool (.spawn tag))
    (reach : Pool.Reaches Party.program exec guard (parties world request jobId) pool) :
    pool.threads.map (·.tag) = [.submit request, .work, .watch jobId] := by
  refine Pool.invariant_of_reaches rfl ?_ ?_ reach
  · intro pool tag _ _ joined
    exact absurd joined (closed pool tag)
  · intro pool index thread op rest input _ tags _ selected _
    rw [Pool.map_tag_performed selected, tags]

/-- The parties in the order in which they were started. -/
theorem party_of_index {request : RunSubmission} {jobId : String} {pool : JobPool} {index : ℕ}
    {thread : Thread platform Party Outcome}
    (tags : pool.threads.map (·.tag) = [.submit request, .work, .watch jobId])
    (selected : pool.threads[index]? = some thread) :
    index = 0 ∧ thread.tag = .submit request ∨ index = 1 ∧ thread.tag = .work ∨
      index = 2 ∧ thread.tag = .watch jobId := by
  have tag : (pool.threads.map (·.tag))[index]? = some thread.tag := by
    rw [List.getElem?_map, selected, Option.map_some]
  rw [tags] at tag
  match index with
  | 0 => exact Or.inl ⟨rfl, (Option.some.inj tag).symm⟩
  | 1 => exact Or.inr (Or.inl ⟨rfl, (Option.some.inj tag).symm⟩)
  | 2 => exact Or.inr (Or.inr ⟨rfl, (Option.some.inj tag).symm⟩)
  | _ + 3 => simp at tag

end ZeroShield.Jobs
