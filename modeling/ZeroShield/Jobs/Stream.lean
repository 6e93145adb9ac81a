import ZeroShield.Jobs.Lifecycle
import ZeroShield.Foundation.StableSort

/-!
# The event stream of a job is complete

The stream skips events by their position in a list which is sorted by time, and it lists the events
before it loads the job.  It sends every event of the worker exactly once as long as no event is
recorded with a time before one that was listed, the last event is not recorded in the middle of a
poll, and no poll loads the job between the moments in which it is done and in which this is
recorded.
-/

namespace ZeroShield.Jobs

open Foundation Models Platform

/-- What the worker of a pool has seen. -/
def workPast (pool : JobPool) : Past :=
  (pool.threads[1]?.map (·.past)).getD []

/-- What the stream of a pool has seen. -/
def streamPast (pool : JobPool) : Past :=
  (pool.threads[2]?.map (·.past)).getD []

/-- The events of a job which the worker has recorded, in this order. -/
def workerEvents (jobId : String) (pool : JobPool) : List RunEvent :=
  (recorded (workPast pool)).reverse.filter (·.runId = jobId)

/-- The messages of a stream which has returned. -/
def streamed (pool : JobPool) : Option (List StreamMessage) :=
  match (pool.threads[2]? : Option (Thread platform Party Outcome)) with
  | some ⟨_, _, .done (.streamed (.ok messages))⟩ => some messages
  | _ => none

/-- A stream sends its last message after every event of the worker, up to a terminal one, was sent
exactly once; the event of the submission may be among the others. -/
def Complete (jobId : String) (pool : JobPool) : Prop :=
  ∀ messages status error, streamed pool = some messages →
    .jobTerminal status error ∈ messages →
      ∃ rows : List RunEventRow,
        messages = rows.map (fun row => .runEvent (payload row)) ++ [.jobTerminal status error] ∧
          ((rows.filter (·.eventType ≠ .queued)).map (·.toRunEvent)).Perm
            (workerEvents jobId pool) ∧
          ∃ event ∈ workerEvents jobId pool, IsTerminal event.eventType

/-- Polls are apart from the steps which end a job, and no time before a listed one is recorded. -/
def PollsApart (jobId : String) (pool : JobPool) : JobMove → Prop
  | .spawn _ => False
  | .advance index input =>
      match pool.threads[index]?.bind Thread.next with
      | some (.recordEvent event) =>
          event.runId = jobId →
            (∀ row ∈ sent.listed (streamPast pool), row.occurredAt ≤ input.now) ∧
              (IsTerminal event.eventType → ¬ PollOpen (streamPast pool))
      | some (.loadJob _) =>
          index = 2 → PollOpen (streamPast pool) →
            ∀ job ∈ pool.world.jobs.lookup jobId, job.status ∈ terminalStatuses →
              ∃ row ∈ pool.world.runEvents, row.runId = jobId ∧ IsTerminal row.eventType
      | _ => True

instance {jobId : String} {pool : JobPool} {move : JobMove} :
    Decidable (PollsApart jobId pool move) :=
  match move with
  | .spawn _ => inferInstanceAs (Decidable False)
  | .advance index input => by
      unfold PollsApart
      dsimp only
      generalize pool.threads[index]?.bind Thread.next = next
      split <;> infer_instance

/-! ## The recorded events -/

/-- The events of a run in the order of recording. -/
def rowsOf (world : World) (runId : String) : List RunEventRow :=
  world.runEvents.filter (·.runId = runId)

/-- The events of a run which are not of the submission. -/
def progress (rows : List RunEventRow) : List RunEventRow :=
  rows.filter (·.eventType ≠ .queued)

section Rows

variable {world : World} {input : Input} {op : Op} {runId : String}

theorem rowsOf_recordEvent (event : RunEvent) (now : DateTime) :
    rowsOf (world.recordEvent event now) runId =
      rowsOf world runId ++ if event.runId = runId then [⟨event, now⟩] else [] := by
  unfold rowsOf World.recordEvent
  by_cases same : event.runId = runId <;> simp [same]

theorem rowsOf_exec (other : ∀ event, op = .recordEvent event → event.runId ≠ runId) :
    rowsOf (exec input op world).2 runId = rowsOf world runId := by
  cases op with
  | recordEvent event =>
      rw [exec, rowsOf_recordEvent, if_neg (other event rfl), List.append_nil]
  | _ => rfl

theorem listEvents_perm : (world.listEvents runId).Perm (rowsOf world runId) :=
  List.perm_insertionSort _ _

/-- A listing remains a prefix when later events have later times. -/
theorem prefix_recordEvent {front : List RunEventRow} {event : RunEvent} {now : DateTime}
    (isPrefix : front <+: world.listEvents runId)
    (later : event.runId = runId → ∀ row ∈ front, row.occurredAt ≤ now) :
    front <+: (world.recordEvent event now).listEvents runId := by
  have rows := @rowsOf_recordEvent world runId event now
  unfold World.listEvents at isPrefix ⊢
  unfold rowsOf at rows
  rw [rows]
  by_cases same : event.runId = runId
  · rw [if_pos same]
    exact prefix_insertionSort_concat _ isPrefix (later same)
  · rwa [if_neg same, List.append_nil]

theorem mem_listEvents {row : RunEventRow} :
    row ∈ world.listEvents runId ↔ row ∈ rowsOf world runId :=
  listEvents_perm.mem_iff

end Rows

/-! ## Whole runs -/

section Reachable

variable {world : World} {request : RunSubmission} {jobId : String} {pool : JobPool}
  {index : ℕ} {thread : Thread platform Party Outcome} {op : Op}
  {rest : op.Result → Program platform Outcome} {outcome : op.Result × World}

theorem workPast_performed (selected : pool.threads[index]? = some thread) :
    workPast (pool.performed index thread op rest outcome) =
      if index = 1 then ⟨op, outcome.1⟩ :: workPast pool else workPast pool := by
  unfold workPast
  by_cases same : index = 1
  · subst same
    rw [Pool.getElem?_performed_self selected, selected]
    rfl
  · rw [Pool.getElem?_performed_of_ne (Ne.symm same), if_neg same]

theorem streamPast_performed (selected : pool.threads[index]? = some thread) :
    streamPast (pool.performed index thread op rest outcome) =
      if index = 2 then ⟨op, outcome.1⟩ :: streamPast pool else streamPast pool := by
  unfold streamPast
  by_cases same : index = 2
  · subst same
    rw [Pool.getElem?_performed_self selected, selected]
    rfl
  · rw [Pool.getElem?_performed_of_ne (Ne.symm same), if_neg same]

/-- What was listed and sent, compared with what the worker has recorded. -/
structure Streaming (jobId : String) (pool : JobPool) : Prop where
  /-- The recorded events, other than that of the submission, are those of the worker. -/
  worked : (progress (rowsOf pool.world jobId)).map (·.toRunEvent) = workerEvents jobId pool
  /-- Later events are listed after those which were listed before. -/
  isPrefix : sent.listed (streamPast pool) <+: pool.world.listEvents jobId
  /-- What was listed was sent. -/
  sent_eq : sent (streamPast pool) = sent.listed (streamPast pool)
  /-- The terminal event is not recorded in the middle of a poll. -/
  apart : PollOpen (streamPast pool) → ∀ row ∈ rowsOf pool.world jobId,
    IsTerminal row.eventType → row ∈ sent.listed (streamPast pool)
  /-- Nothing follows the terminal event. -/
  last : (∃ row ∈ sent.listed (streamPast pool), IsTerminal row.eventType) →
    (progress (sent.listed (streamPast pool))).Perm (progress (rowsOf pool.world jobId))
  /-- A stream ends after the terminal event was sent. -/
  ended : ∀ job earlier, streamPast pool = ⟨.loadJob jobId, some job⟩ :: earlier →
    PollOpen earlier → job.status ∈ terminalStatuses →
      ∃ row ∈ sent.listed (streamPast pool), IsTerminal row.eventType

/-- Steps which neither record an event of the job nor belong to the stream. -/
theorem Streaming.of_rows {next : JobPool} (streaming : Streaming jobId pool)
    (rows : rowsOf next.world jobId = rowsOf pool.world jobId)
    (worked : workerEvents jobId next = workerEvents jobId pool)
    (past : streamPast next = streamPast pool) : Streaming jobId next := by
  have listing : next.world.listEvents jobId = pool.world.listEvents jobId := by
    unfold rowsOf at rows
    unfold World.listEvents
    rw [rows]
  constructor
  case worked => rw [rows, worked, streaming.worked]
  case isPrefix => rw [past, listing]; exact streaming.isPrefix
  case sent_eq => rw [past, streaming.sent_eq]
  case apart => rw [past, rows]; exact streaming.apart
  case last => rw [past, rows]; exact streaming.last
  case ended => rw [past]; exact streaming.ended

/-- An event of the job is recorded. -/
theorem Streaming.of_record {event : RunEvent} {now : DateTime} {next : JobPool}
    (streaming : Streaming jobId pool) (same : event.runId = jobId)
    (stored : next.world = pool.world.recordEvent event now)
    (worked : workerEvents jobId next =
      workerEvents jobId pool ++ (progress [⟨event, now⟩]).map (·.toRunEvent))
    (past : streamPast next = streamPast pool)
    (later : ∀ row ∈ sent.listed (streamPast pool), row.occurredAt ≤ now)
    (apart : IsTerminal event.eventType → ¬ PollOpen (streamPast pool))
    (first : event.eventType ≠ .queued →
      ∀ row ∈ rowsOf pool.world jobId, ¬ IsTerminal row.eventType) :
    Streaming jobId next := by
  have rows : rowsOf next.world jobId = rowsOf pool.world jobId ++ [⟨event, now⟩] := by
    rw [stored, rowsOf_recordEvent, if_pos same]
  constructor
  case worked =>
    rw [rows, worked, ← streaming.worked, progress, List.filter_append, List.map_append]
    rfl
  case isPrefix =>
    rw [past, stored]
    exact prefix_recordEvent streaming.isPrefix fun _ => later
  case sent_eq => rw [past, streaming.sent_eq]
  case apart =>
    rw [past, rows]
    intro pollOpen row member terminal
    rcases List.mem_append.mp member with old | new
    · exact streaming.apart pollOpen row old terminal
    · obtain rfl := List.mem_singleton.mp new
      exact absurd pollOpen (apart terminal)
  case last =>
    rw [past, rows]
    rintro ⟨row, listed, terminal⟩
    have before := streaming.last ⟨row, listed, terminal⟩
    have recorded : row ∈ rowsOf pool.world jobId :=
      mem_listEvents.mp (streaming.isPrefix.subset listed)
    have queued : event.eventType = .queued := by
      by_contra working
      exact first working row recorded terminal
    unfold progress at before ⊢
    simpa [queued] using before
  case ended => rw [past]; exact streaming.ended

/-- The stream lists the events. -/
theorem Streaming.of_listing {next : JobPool} (streaming : Streaming jobId pool)
    (world : next.world = pool.world) (worked : workerEvents jobId next = workerEvents jobId pool)
    (past : streamPast next =
      ⟨.listEvents jobId, pool.world.listEvents jobId⟩ :: streamPast pool) :
    Streaming jobId next := by
  have listed : sent.listed (streamPast next) = pool.world.listEvents jobId := by
    rw [past]
    rfl
  constructor
  case worked => rw [world, worked, streaming.worked]
  case isPrefix => exact listed ▸ world ▸ List.prefix_rfl
  case sent_eq =>
    obtain ⟨back, split⟩ := streaming.isPrefix
    rw [listed, past, sent, streaming.sent_eq, ← split, List.drop_left]
  case apart =>
    intro _ row member _
    rw [world] at member
    rw [listed]
    exact mem_listEvents.mpr member
  case last =>
    rw [listed, world]
    exact fun _ => listEvents_perm.filter _
  case ended =>
    rw [past]
    rintro job earlier ⟨⟩

/-- The stream loads the job. -/
theorem Streaming.of_loading {next : JobPool} (streaming : Streaming jobId pool)
    (world : next.world = pool.world) (worked : workerEvents jobId next = workerEvents jobId pool)
    (past : streamPast next =
      ⟨.loadJob jobId, pool.world.jobs.lookup jobId⟩ :: streamPast pool)
    (recorded : PollOpen (streamPast pool) →
      ∀ job ∈ pool.world.jobs.lookup jobId, job.status ∈ terminalStatuses →
        ∃ row ∈ pool.world.runEvents, row.runId = jobId ∧ IsTerminal row.eventType) :
    Streaming jobId next := by
  have listed : sent.listed (streamPast next) = sent.listed (streamPast pool) := by
    rw [past]
    rfl
  constructor
  case worked => rw [world, worked, streaming.worked]
  case isPrefix => rw [listed, world]; exact streaming.isPrefix
  case sent_eq =>
    rw [listed, past, ← streaming.sent_eq]
    exact sent_cons (by rintro _ ⟨⟩)
  case apart =>
    rw [past]
    exact False.elim
  case last => rw [listed, world]; exact streaming.last
  case ended =>
    rw [listed, past]
    rintro job earlier same pollOpen terminal
    obtain ⟨head, rfl⟩ := List.cons.inj same
    have found : pool.world.jobs.lookup jobId = some job := by simpa using head
    obtain ⟨row, member, ofJob, terminal⟩ := recorded pollOpen job found terminal
    refine ⟨row, streaming.apart pollOpen row ?_ terminal, terminal⟩
    exact List.mem_filter.mpr ⟨member, by simpa using ofJob⟩

variable {input : Input}

/-- The submission keeps what the stream relies on. -/
theorem Streaming.submit (streaming : Streaming jobId pool)
    (selected : pool.threads[0]? = some thread)
    (permitted : ∀ event, op = .recordEvent event → event.runId = jobId →
      (∀ row ∈ sent.listed (streamPast pool), row.occurredAt ≤ input.now) ∧
        (IsTerminal event.eventType → ¬ PollOpen (streamPast pool)))
    (queued : ∀ event, op = .recordEvent event → event.eventType = .queued) :
    Streaming jobId (pool.performed 0 thread op rest (exec input op pool.world)) := by
  have streamPast' : streamPast (pool.performed 0 thread op rest (exec input op pool.world)) =
      streamPast pool := streamPast_performed selected
  have workPast' : workPast (pool.performed 0 thread op rest (exec input op pool.world)) =
      workPast pool := workPast_performed selected
  have worked : workerEvents jobId
      (pool.performed 0 thread op rest (exec input op pool.world)) = workerEvents jobId pool := by
    rw [workerEvents, workPast', workerEvents]
  by_cases records : ∃ event, op = .recordEvent event ∧ event.runId = jobId
  · obtain ⟨event, rfl, same⟩ := records
    obtain ⟨later, apart⟩ := permitted event rfl same
    have first := queued event rfl
    refine streaming.of_record same rfl ?_ streamPast' later apart (absurd first)
    rw [worked, progress]
    simp [first]
  · have other : ∀ event, op = .recordEvent event → event.runId ≠ jobId :=
      fun event recording same => records ⟨event, recording, same⟩
    exact streaming.of_rows (rowsOf_exec other) worked streamPast'

/-- The worker keeps what the stream relies on. -/
theorem Streaming.work (streaming : Streaming jobId pool)
    (selected : pool.threads[1]? = some thread)
    (permitted : ∀ event, op = .recordEvent event → event.runId = jobId →
      (∀ row ∈ sent.listed (streamPast pool), row.occurredAt ≤ input.now) ∧
        (IsTerminal event.eventType → ¬ PollOpen (streamPast pool)))
    (ascends : ∀ event, op = .recordEvent event → event.eventType ≠ .queued ∧
      ∀ earlier ∈ recorded thread.past, earlier.runId = event.runId ∧
        rank earlier.eventType < rank event.eventType) :
    Streaming jobId (pool.performed 1 thread op rest (exec input op pool.world)) := by
  have streamPast' : streamPast (pool.performed 1 thread op rest (exec input op pool.world)) =
      streamPast pool := streamPast_performed selected
  have workPast' : workPast (pool.performed 1 thread op rest (exec input op pool.world)) =
      ⟨op, (exec input op pool.world).1⟩ :: workPast pool := workPast_performed selected
  have past : workPast pool = thread.past := by
    rw [workPast, selected]
    rfl
  by_cases records : ∃ event, op = .recordEvent event
  · obtain ⟨event, rfl⟩ := records
    obtain ⟨working, below⟩ := ascends event rfl
    have worked : workerEvents jobId
        (pool.performed 1 thread (.recordEvent event) rest (exec input _ pool.world)) =
          workerEvents jobId pool ++ [event].filter (·.runId = jobId) := by
      rw [workerEvents, workerEvents, workPast', ← List.filter_append, ← List.reverse_cons]
      rfl
    by_cases same : event.runId = jobId
    · obtain ⟨later, apart⟩ := permitted event rfl same
      refine streaming.of_record same rfl ?_ streamPast' later apart fun _ row member terminal => ?_
      · rw [worked, progress]
        simp [same, working]
      · have progressed : row ∈ progress (rowsOf pool.world jobId) := by
          refine List.mem_filter.mpr ⟨member, ?_⟩
          rw [decide_eq_true_eq]
          rintro queued
          rw [queued] at terminal
          cases terminal
        have seen := List.mem_map_of_mem (f := (·.toRunEvent)) progressed
        rw [streaming.worked] at seen
        have before := (List.mem_filter.mp seen).1
        rw [List.mem_reverse, past] at before
        have lower := (below row.toRunEvent before).2
        have upper := rank_le event.eventType
        unfold IsTerminal at terminal
        omega
    · refine streaming.of_rows (rowsOf_exec ?_) ?_ streamPast'
      · rintro other ⟨⟩
        exact same
      · rw [worked]
        simp [same]
  · refine streaming.of_rows (rowsOf_exec fun event recording => ?_) ?_ streamPast'
    · exact absurd ⟨event, recording⟩ records
    · rw [workerEvents, workPast', recorded_cons (not_exists.mp records), workerEvents]

/-- The stream keeps what it relies on. -/
theorem Streaming.watch (streaming : Streaming jobId pool)
    (selected : pool.threads[2]? = some thread)
    (allowed : partyScript.allowed (.watch jobId) thread.past op)
    (permitted : op = .loadJob jobId → PollOpen (streamPast pool) →
      ∀ job ∈ pool.world.jobs.lookup jobId, job.status ∈ terminalStatuses →
        ∃ row ∈ pool.world.runEvents, row.runId = jobId ∧ IsTerminal row.eventType) :
    Streaming jobId (pool.performed 2 thread op rest (exec input op pool.world)) := by
  have streamPast' : streamPast (pool.performed 2 thread op rest (exec input op pool.world)) =
      ⟨op, (exec input op pool.world).1⟩ :: streamPast pool := streamPast_performed selected
  have worked : workerEvents jobId
      (pool.performed 2 thread op rest (exec input op pool.world)) = workerEvents jobId pool := by
    have workPast' : workPast (pool.performed 2 thread op rest (exec input op pool.world)) =
        workPast pool := workPast_performed selected
    rw [workerEvents, workPast', workerEvents]
  cases op with
  | listEvents other =>
      obtain rfl : other = jobId := allowed
      exact streaming.of_listing rfl worked streamPast'
  | loadJob other =>
      obtain rfl : other = jobId := allowed
      exact streaming.of_loading rfl worked streamPast' (permitted rfl)
  | _ => exact allowed.elim

/-- In runs with polls apart, what was sent is what the worker has recorded. -/
theorem streaming_of_reaches (fresh : ∀ row ∈ world.runEvents, row.runId ≠ jobId)
    (reach : Pool.Reaches Party.program exec (PollsApart jobId) (parties world request jobId)
      pool) :
    Streaming jobId pool := by
  have none_at_start : rowsOf world jobId = [] := by
    simpa [rowsOf, List.filter_eq_nil_iff] using fresh
  refine Pool.invariant_of_reaches ?_ ?_ ?_ reach
  · constructor
    case worked => simp [parties, none_at_start, progress, workerEvents, workPast, recorded]
    case isPrefix => exact List.nil_prefix
    case sent_eq => rfl
    case apart => exact False.elim
    case last => rintro ⟨_, ⟨⟩, _⟩
    case ended => rintro _ _ ⟨⟩
  · exact fun _ _ _ _ joined => joined.elim
  · intro pool index thread op rest input reach streaming permitted selected head
    have sound := sound_of_parties reach thread (List.mem_of_getElem? selected)
    have allowed := sound.allowed head
    have next : thread.next = some op := Thread.next_eq_some.mpr ⟨rest, head⟩
    simp only [PollsApart, selected, Option.bind_some, next] at permitted
    have recording : ∀ event, op = .recordEvent event → event.runId = jobId →
        (∀ row ∈ sent.listed (streamPast pool), row.occurredAt ≤ input.now) ∧
          (IsTerminal event.eventType → ¬ PollOpen (streamPast pool)) := by
      rintro event rfl
      exact permitted
    rcases party_of_index (tags_of_parties (fun _ _ => id) reach) selected with
      ⟨rfl, tag⟩ | ⟨rfl, tag⟩ | ⟨rfl, tag⟩ <;> rw [tag] at allowed
    · refine streaming.submit selected recording ?_
      rintro event rfl
      exact allowed.1
    · refine streaming.work selected recording ?_
      rintro event rfl
      exact allowed
    · refine streaming.watch selected allowed ?_
      rintro rfl
      exact permitted rfl

/-- In runs with polls apart, the event stream of a job is complete. -/
theorem complete_of_pollsApart (fresh : ∀ row ∈ world.runEvents, row.runId ≠ jobId)
    (reach : Pool.Reaches Party.program exec (PollsApart jobId) (parties world request jobId)
      pool) :
    Complete jobId pool := by
  intro messages status error returned terminal
  have streaming := streaming_of_reaches fresh reach
  unfold streamed at returned
  split at returned
  case h_2 => cases returned
  case h_1 tag past sending selected =>
    obtain rfl : sending = messages := Option.some.inj returned
    have sound := sound_of_parties reach _ (List.mem_of_getElem? selected)
    have party := party_of_index (tags_of_parties (fun _ _ => id) reach) selected
    obtain rfl : tag = .watch jobId := by simpa using party
    obtain ⟨last, split, ends⟩ := sound.finished rfl
    dsimp only at split ends
    obtain rfl : .jobTerminal status error = last := by simpa [split] using terminal
    obtain ⟨job, earlier, rfl, pollOpen, done⟩ := ends status error rfl
    have here : streamPast pool = ⟨.loadJob jobId, some job⟩ :: earlier := by
      rw [streamPast, selected]
      rfl
    obtain ⟨row, listed, terminal⟩ := streaming.ended job earlier here pollOpen done
    refine ⟨sent (streamPast pool), by rw [here, split], ?_, row.toRunEvent, ?_, terminal⟩
    · rw [streaming.sent_eq, ← streaming.worked]
      exact (streaming.last ⟨row, listed, terminal⟩).map _
    · rw [← streaming.worked]
      refine List.mem_map_of_mem (List.mem_filter.mpr ⟨?_, ?_⟩)
      · exact mem_listEvents.mp (streaming.isPrefix.subset listed)
      · rw [decide_eq_true_eq]
        intro queued
        rw [queued] at terminal
        cases terminal

end Reachable

/-! ## Sample runs -/

/-- A message which ends a stream because the job is done. -/
def Sample.endsDone : StreamMessage → Bool
  | .jobTerminal _ _ => true
  | _ => false

theorem Sample.exists_jobTerminal {messages : List StreamMessage}
    (ends : messages.any endsDone = true) : ∃ status error,
      .jobTerminal status error ∈ messages := by
  obtain ⟨message, member, ends⟩ := List.any_eq_true.mp ends
  cases message with
  | jobTerminal status error => exact ⟨status, error, member⟩
  | _ => cases ends

/-- The stream of a job which was done before sends its eight events and the last message. -/
theorem complete_of_sample : ∃ pool, Complete "JOB-0" pool ∧
    (streamed pool).map (·.map Sample.endsDone) =
      some [false, false, false, false, false, false, false, false, true] := by
  obtain ⟨pool, reach, checked⟩ :
      ∃ pool, Pool.Reaches Party.program exec (PollsApart "JOB-0") Sample.start pool ∧
        decide ((streamed pool).map (·.map Sample.endsDone) =
          some [false, false, false, false, false, false, false, false, true]) = true :=
    Pool.exists_reaches (Studio.Sample.steps 0 7 5 ++ Studio.Sample.steps 1 25 6 ++
      Studio.Sample.steps 2 3 7) (by decide +kernel)
  exact ⟨pool, complete_of_pollsApart (by decide +kernel) reach, of_decide_eq_true checked⟩

/-- The stream loads the job when it is completed and this was not recorded yet. -/
theorem not_complete_of_early_load :
    ¬ ∀ world request jobId pool, (∀ row ∈ world.runEvents, row.runId ≠ jobId) →
      Pool.Reaches Party.program exec Closed (parties world request jobId) pool →
        Complete jobId pool := by
  intro claim
  obtain ⟨pool, reach, checked⟩ :
      ∃ pool, Pool.Reaches Party.program exec Closed Sample.start pool ∧
        decide ((∃ messages ∈ streamed pool, messages.any Sample.endsDone = true) ∧
          ∀ event ∈ workerEvents "JOB-0" pool, ¬ IsTerminal event.eventType) = true :=
    Pool.exists_reaches (Studio.Sample.steps 0 7 5 ++ Studio.Sample.steps 1 21 6 ++
      Studio.Sample.steps 2 3 7) (by decide +kernel)
  obtain ⟨⟨messages, returned, ends⟩, unrecorded⟩ := of_decide_eq_true checked
  obtain ⟨status, error, member⟩ := Sample.exists_jobTerminal ends
  obtain ⟨-, -, -, event, present, terminal⟩ :=
    claim Sample.prepared Sample.submission "JOB-0" pool (by decide +kernel) reach messages status
      error returned member
  exact unrecorded event present terminal

end ZeroShield.Jobs
