import ZeroShield.Assurance.Revalidation
import ZeroShield.Foundation.Interleaving

/-!
# Decisions on candidates

A decision looks a candidate up, writes to it and records an audit event, each in a transaction of
its own, so that requests on one candidate overlap in any way.  Written only while the candidate is
still pending, a decision is the only one, and it is audited once.
-/

namespace ZeroShield.Assurance.Decisions

open Foundation Models Platform StringEnum

/-! ## Steps and programs -/

/-- The two ways to decide. -/
inductive Decision
  | approve
  | dismiss

/-- The status which a decision gives to a candidate. -/
def Decision.status : Decision → CandidateStatus
  | approve => .approved
  | dismiss => .dismissed

/-- A request to approve or to dismiss a candidate. -/
structure DecisionRequest where
  candidateId : String
  decision : Decision
  note : Option String := none
  requestId : Option String := none
  user : User

/-- The steps of a decision, each of which is one transaction. -/
inductive DecisionOp
  | getCandidate (candidateId : String)
  | updateCandidateStatus (candidateId : String) (status : CandidateStatus) (reviewedBy : String)
      (reviewNote : Option String)
  | recordAudit (event : AuditEvent)

/-- What the steps of a decision return. -/
def decisions : Interface where
  Op := DecisionOp
  Result
    | .getCandidate _ => Option RevalidationCandidate
    | .updateCandidateStatus .. => Option RevalidationCandidate
    | .recordAudit _ => Unit

/-- The row of a candidate. -/
def candidateRow (store : AssuranceStore) (candidateId : String) : Option RevalidationCandidate :=
  store.candidates.find? (·.candidateId = candidateId)

/-- What the steps of a decision do to the store; the input is the clock. -/
def exec : Semantics decisions DateTime AssuranceStore
  | _, .getCandidate candidateId, store => (candidateRow store candidateId, store)
  | now, .updateCandidateStatus candidateId status reviewedBy reviewNote, store =>
      let later := (updateCandidateStatus candidateId status reviewedBy reviewNote now store).2
      (candidateRow later candidateId, later)
  | _, .recordAudit event, store => ((), { store with audit := store.audit ++ [event] })

/-- How a request is answered. -/
inductive Answer
  | decided (candidate : RevalidationCandidate)
  | refused (error : AssuranceError)
  | assertionFailed

/-- The audit event of a decision. -/
def decisionEvent (request : DecisionRequest) (existing : RevalidationCandidate) : AuditEvent where
  actorUserId := some request.user.userId
  actorUsername := some request.user.username
  actorRole := some request.user.role
  action := decisionAuditAction request.decision.status
  targetType := "revalidation_candidate"
  targetId := some request.candidateId
  requestId := request.requestId
  metadata :=
    [("control_id", .str existing.controlId), ("trigger_type", .str existing.triggerType)]

/-- What a request does after its update. -/
def announce (request : DecisionRequest) (existing : RevalidationCandidate) :
    Option RevalidationCandidate → Program decisions Answer
  | none => return .assertionFailed
  | some updated => do
      Program.call (I := decisions) (.recordAudit (decisionEvent request existing))
      return .decided updated

/-- What a request does on a pending candidate. -/
def settle (request : DecisionRequest) (existing : RevalidationCandidate) :
    Program decisions Answer := do
  let updated ← Program.call (I := decisions) (.updateCandidateStatus request.candidateId
    request.decision.status request.user.username request.note)
  announce request existing updated

/-- What a request does with the candidate it has looked up. -/
def consider (request : DecisionRequest) : Option RevalidationCandidate → Program decisions Answer
  | none =>
      return .refused (.http 404 "candidate_not_found" s!"no candidate '{request.candidateId}'")
  | some existing =>
      if existing.status ≠ .pending then
        return .refused (.http 409 "candidate_not_pending"
          s!"candidate '{request.candidateId}' is '{value existing.status}', not 'pending'")
      else settle request existing

/-- Serve a request. -/
def serveDecision (request : DecisionRequest) : Program decisions Answer :=
  if request.user.role ∈ decidingRoles then do
    let existing ← Program.call (I := decisions) (.getCandidate request.candidateId)
    consider request existing
  else return .refused (.http 403 "forbidden" (roleRefusal decidingRoles request.user.role))

abbrev DecisionThread := Thread decisions DecisionRequest Answer
abbrev DecisionPool := Pool decisions AssuranceStore DecisionRequest Answer
abbrev DecisionMove := Move DecisionRequest DateTime

/-! ## What the steps do to a row -/

/-- A candidate on which a decision was written. -/
def reviewed (status : CandidateStatus) (reviewedBy : String) (reviewNote : Option String)
    (now : DateTime) (candidate : RevalidationCandidate) : RevalidationCandidate :=
  { candidate with
    status
    reviewedBy := some reviewedBy
    reviewedAt := some now
    reviewNote }

section Rows

variable {store : AssuranceStore} {candidateId : String}

theorem candidateId_of_row {candidate : RevalidationCandidate}
    (found : candidateRow store candidateId = some candidate) :
    candidate.candidateId = candidateId := by
  have holds := List.find?_some found
  simpa using holds

variable (store) (status : CandidateStatus) (reviewedBy : String) (reviewNote : Option String)
  (now : DateTime)

/-- An update changes the row of its candidate and no other. -/
theorem candidateRow_update (changed : String) :
    candidateRow (updateCandidateStatus changed status reviewedBy reviewNote now store).2
        candidateId =
      (candidateRow store candidateId).map fun candidate =>
        if candidate.candidateId = changed then
          reviewed status reviewedBy reviewNote now candidate
        else candidate := by
  have keeps : ((fun candidate : RevalidationCandidate =>
      decide (candidate.candidateId = candidateId)) ∘ fun candidate =>
        if candidate.candidateId = changed then
          reviewed status reviewedBy reviewNote now candidate
        else candidate) = fun candidate => decide (candidate.candidateId = candidateId) := by
    funext candidate
    by_cases own : candidate.candidateId = changed <;> simp [own, reviewed]
  exact List.find?_map.trans
    (congrArg (fun reads => (List.find? reads store.candidates).map _) keeps)

theorem candidateRow_update_self (candidateId : String) :
    candidateRow (updateCandidateStatus candidateId status reviewedBy reviewNote now store).2
        candidateId =
      (candidateRow store candidateId).map (reviewed status reviewedBy reviewNote now) := by
  rw [candidateRow_update]
  exact Option.map_congr fun candidate found => if_pos (candidateId_of_row found)

theorem candidateRow_update_of_ne {changed : String} (other : changed ≠ candidateId) :
    candidateRow (updateCandidateStatus changed status reviewedBy reviewNote now store).2
        candidateId = candidateRow store candidateId := by
  rw [candidateRow_update]
  refine (Option.map_congr fun candidate found => if_neg ?_).trans Option.map_id'
  rw [candidateId_of_row found]
  exact Ne.symm other

end Rows

/-- Undisturbed steps on a pending candidate leave the store as the rest of the route does. -/
theorem run_settle (request : DecisionRequest) {existing : RevalidationCandidate} (now : DateTime)
    {store : AssuranceStore} (found : candidateRow store request.candidateId = some existing)
    (position : ℕ) :
    ((settle request existing).run exec (fun _ => now) position store).2.2 =
      { (updateCandidateStatus request.candidateId request.decision.status request.user.username
          request.note now store).2 with
        audit := store.audit ++ [decisionEvent request existing] } := by
  have stored := candidateRow_update_self store request.decision.status request.user.username
    request.note now request.candidateId
  rw [found] at stored
  change ((announce request existing (candidateRow _ request.candidateId)).run exec
    (fun _ => now) _ _).2.2 = _
  rw [stored]
  rfl

/-- A request which nobody disturbs leaves the store as the route does. -/
theorem run_serveDecision (request : DecisionRequest) (now : DateTime) (store : AssuranceStore) :
    ((serveDecision request).run exec (fun _ => now) 0 store).2.2 =
      match request.decision with
      | .approve => (approveRevalidationCandidate request.candidateId request.note
          request.requestId request.user now store).2
      | .dismiss => (dismissRevalidationCandidate request.candidateId request.note
          request.requestId request.user now store).2 := by
  have same : ((serveDecision request).run exec (fun _ => now) 0 store).2.2 =
      (requireRole decidingRoles request.user (transition request.candidateId
        request.decision.status request.note request.requestId request.user now) store).2 := by
    unfold serveDecision requireRole
    split
    case isFalse => rfl
    case isTrue permitted =>
      have looked : getCandidate request.candidateId store =
          (.ok (candidateRow store request.candidateId), store) := rfl
      change ((consider request (candidateRow store request.candidateId)).run exec
        (fun _ => now) 1 store).2.2 = _
      rw [transition, Transaction.bind_apply, looked]
      cases found : candidateRow store request.candidateId with
      | none => rfl
      | some existing =>
          by_cases pending : existing.status = .pending
          · simp only [consider, pending, ne_eq, not_true_eq_false, if_false]
            exact run_settle request now found 1
          · simp only [consider, pending, ne_eq, not_false_eq_true, if_true]
            rfl
  rw [same]
  cases request.decision <;> rfl

/-! ## The next step of a request -/

/-- What a request performs next and how it goes on. -/
inductive Performs (request : DecisionRequest) :
    (op : decisions.Op) → (decisions.Result op → Program decisions Answer) → Prop
  | look : Performs request (.getCandidate request.candidateId) (consider request)
  | update (existing : RevalidationCandidate) :
      Performs request (.updateCandidateStatus request.candidateId request.decision.status
        request.user.username request.note) (announce request existing)
  | record (existing updated : RevalidationCandidate) :
      Performs request (.recordAudit (decisionEvent request existing))
        fun _ => .done (.decided updated)

/-- A program is what remains of a request. -/
def Serves (request : DecisionRequest) (program : Program decisions Answer) : Prop :=
  ∀ op next, program = .perform op next → Performs request op next

theorem serves_done (request : DecisionRequest) (answer : Answer) :
    Serves request (.done answer) :=
  nofun

theorem serves_serveDecision (request : DecisionRequest) :
    Serves request (serveDecision request) := by
  intro op next head
  unfold serveDecision at head
  split at head
  case isTrue =>
    cases head
    exact .look
  case isFalse => cases head

/-- The request goes on as a request does, whatever the step returns. -/
theorem Performs.serves {request : DecisionRequest} {op : decisions.Op}
    {next : decisions.Result op → Program decisions Answer} (performs : Performs request op next)
    (result : decisions.Result op) : Serves request (next result) := by
  cases performs with
  | look =>
      cases result with
      | none => exact serves_done request _
      | some existing =>
          intro op next head
          by_cases pending : existing.status = .pending
          · rw [consider, if_neg (not_not_intro pending)] at head
            cases head
            exact .update existing
          · rw [consider, if_pos pending] at head
            cases head
  | update existing =>
      cases result with
      | none => exact serves_done request _
      | some updated =>
          intro op next head
          cases head
          exact .record existing updated
  | record existing updated => exact serves_done request _

/-! ## What is audited -/

/-- An event which records a decision on a candidate. -/
def Concerns (candidateId : String) (event : AuditEvent) : Prop :=
  event.targetType = "revalidation_candidate" ∧ event.targetId = some candidateId ∧
    (event.action = decisionAuditAction .approved ∨ event.action = decisionAuditAction .dismissed)

instance {candidateId : String} {event : AuditEvent} : Decidable (Concerns candidateId event) :=
  inferInstanceAs (Decidable (_ ∧ _ ∧ (_ ∨ _)))

/-- The decisions on a candidate among events. -/
def decisionsOn (candidateId : String) (events : List AuditEvent) : List AuditEvent :=
  events.filter fun event => Concerns candidateId event

/-- The event which a program records next. -/
def announced : Program decisions Answer → Option AuditEvent
  | .perform (.recordAudit event) _ => some event
  | _ => none

/-- The event which a thread records next. -/
def owed (thread : DecisionThread) : Option AuditEvent :=
  announced thread.rest

/-- The decisions on a candidate which are recorded or recorded next. -/
def due (candidateId : String) (pool : DecisionPool) : List AuditEvent :=
  decisionsOn candidateId (pool.threads.filterMap owed ++ pool.world.audit)

/-- An event names the decision which a candidate shows. -/
def Names (event : AuditEvent) (candidate : RevalidationCandidate) : Prop :=
  event.action = decisionAuditAction candidate.status ∧ event.actorUsername = candidate.reviewedBy

theorem concerns_decisionEvent {request : DecisionRequest} {existing : RevalidationCandidate}
    {candidateId : String} :
    Concerns candidateId (decisionEvent request existing) ↔ request.candidateId = candidateId := by
  cases decision : request.decision <;>
    simp [Concerns, decisionEvent, decision, Decision.status]

theorem announced_consider (request : DecisionRequest) (found : Option RevalidationCandidate) :
    announced (consider request found) = none := by
  cases found with
  | none => rfl
  | some existing =>
      by_cases pending : existing.status = .pending
      · rw [consider, if_neg (not_not_intro pending)]
        rfl
      · rw [consider, if_pos pending]
        rfl

theorem announced_serveDecision (request : DecisionRequest) :
    announced (serveDecision request) = none := by
  unfold serveDecision
  split <;> rfl

theorem decisionsOn_append (candidateId : String) (left right : List AuditEvent) :
    decisionsOn candidateId (left ++ right) =
      decisionsOn candidateId left ++ decisionsOn candidateId right :=
  List.filter_append ..

/-- The event of a decision on another candidate does not count. -/
theorem decisionsOn_announce_of_ne {request : DecisionRequest} {existing : RevalidationCandidate}
    {candidateId : String} (other : request.candidateId ≠ candidateId)
    {found : Option RevalidationCandidate} :
    decisionsOn candidateId (announced (announce request existing found)).toList = [] := by
  cases found with
  | none => rfl
  | some updated =>
      have elsewhere : ¬ Concerns candidateId (decisionEvent request existing) :=
        mt concerns_decisionEvent.mp other
      exact (List.filter_cons_of_neg (by simpa using elsewhere)).trans List.filter_nil

section Step

variable {pool : DecisionPool} {index : ℕ} {thread : DecisionThread} {op : decisions.Op}
  {next : decisions.Result op → Program decisions Answer} {candidateId : String}
  {outcome : decisions.Result op × AssuranceStore}

/-- What one step adds to the decisions due and takes from them. -/
theorem due_performed (candidateId : String) (op : decisions.Op)
    (next : decisions.Result op → Program decisions Answer)
    (outcome : decisions.Result op × AssuranceStore)
    (selected : pool.threads[index]? = some thread) :
    ∃ others, (due candidateId pool).Perm (decisionsOn candidateId (owed thread).toList ++ others) ∧
      ∀ written, outcome.2.audit = pool.world.audit ++ written →
        (due candidateId (pool.performed index thread op next outcome)).Perm
          (decisionsOn candidateId ((owed (thread.after op next outcome.1)).toList ++ written) ++
            others) := by
  obtain ⟨before, after, split, later⟩ := Pool.exists_around_performed op next outcome selected
  have inserted (middle : DecisionThread) :
      (before ++ middle :: after).filterMap owed =
        before.filterMap owed ++ ((owed middle).toList ++ after.filterMap owed) := by
    cases own : owed middle <;> simp [own]
  refine ⟨decisionsOn candidateId (before.filterMap owed) ++
    (decisionsOn candidateId (after.filterMap owed) ++ decisionsOn candidateId pool.world.audit),
    ?_, fun written recorded => ?_⟩
  · simp only [due, split, inserted, decisionsOn_append, List.append_assoc]
    exact List.perm_append_comm_assoc ..
  · simp only [due, later, inserted, Pool.performed_world, recorded, decisionsOn_append,
      List.append_assoc]
    refine (List.perm_append_comm_assoc ..).trans (List.Perm.append_left _ ?_)
    simpa only [List.append_assoc] using @List.perm_append_comm _
      (decisionsOn candidateId (before.filterMap owed) ++
        (decisionsOn candidateId (after.filterMap owed) ++
          decisionsOn candidateId pool.world.audit))
      (decisionsOn candidateId written)

/-- The decisions due stay the same when the step neither owes nor records one. -/
theorem due_performed_of_none (selected : pool.threads[index]? = some thread)
    (before : decisionsOn candidateId (owed thread).toList = [])
    (after : decisionsOn candidateId (owed (thread.after op next outcome.1)).toList = [])
    (same : outcome.2.audit = pool.world.audit) :
    (due candidateId (pool.performed index thread op next outcome)).Perm
      (due candidateId pool) := by
  obtain ⟨others, now, later⟩ := due_performed candidateId op next outcome selected
  have added := later [] (by rw [same, List.append_nil])
  rw [List.append_nil, after] at added
  rw [before] at now
  exact added.trans now.symm

end Step

/-! ## Decisions written while the candidate is pending -/

/-- An operation writes a decision to a candidate. -/
def Decides (candidateId : String) : decisions.Op → Prop
  | .updateCandidateStatus changed .. => changed = candidateId
  | _ => False

instance {candidateId : String} : DecidablePred (Decides candidateId)
  | .getCandidate _ => inferInstanceAs (Decidable False)
  | .updateCandidateStatus changed .. => inferInstanceAs (Decidable (changed = candidateId))
  | .recordAudit _ => inferInstanceAs (Decidable False)

/-- A candidate waits for a decision. -/
def IsPending (candidateId : String) (store : AssuranceStore) : Prop :=
  (candidateRow store candidateId).map (·.status) = some .pending

instance {candidateId : String} : DecidablePred (IsPending candidateId) :=
  fun _ => inferInstanceAs (Decidable (_ = _))

/-- A decision on the candidate is only written while the candidate is pending. -/
def StillPending (candidateId : String) (pool : DecisionPool) : DecisionMove → Prop
  | .spawn _ => True
  | .advance index _ =>
      ∀ op ∈ (pool.threads[index]?).bind Thread.next, Decides candidateId op →
        IsPending candidateId pool.world

instance {candidateId : String} {pool : DecisionPool} {move : DecisionMove} :
    Decidable (StillPending candidateId pool move) := by
  cases move with
  | spawn request => exact inferInstanceAs (Decidable True)
  | advance index input =>
      exact inferInstanceAs (Decidable (∀ op ∈ (pool.threads[index]?).bind Thread.next,
        Decides candidateId op → IsPending candidateId pool.world))

/-- A candidate and its audit trail agree. -/
inductive Accounted (candidateId : String) (pool : DecisionPool) : Prop
  | undecided {candidate : RevalidationCandidate}
      (row : candidateRow pool.world candidateId = some candidate)
      (pending : candidate.status = .pending) (nothing : due candidateId pool = [])
  | decided {candidate : RevalidationCandidate} {event : AuditEvent}
      (row : candidateRow pool.world candidateId = some candidate)
      (settled : candidate.status ≠ .pending) (once : due candidateId pool = [event])
      (names : Names event candidate)

namespace Accounted

variable {pool : DecisionPool} {candidateId : String}

/-- Nothing changes for a candidate whose row and whose decisions stay the same. -/
theorem of_perm {later : DecisionPool} (accounted : Accounted candidateId pool)
    (row : candidateRow later.world candidateId = candidateRow pool.world candidateId)
    (same : (due candidateId later).Perm (due candidateId pool)) : Accounted candidateId later := by
  cases accounted with
  | undecided found pending nothing =>
      rw [nothing] at same
      exact .undecided (row.trans found) pending same.eq_nil
  | decided found settled once names =>
      rw [once] at same
      exact .decided (row.trans found) settled (List.perm_singleton.mp same) names

theorem spawned {request : DecisionRequest} (accounted : Accounted candidateId pool) :
    Accounted candidateId (pool.spawned serveDecision request) := by
  refine accounted.of_perm rfl (List.Perm.of_eq ?_)
  simp [due, Pool.spawned, owed, announced_serveDecision]

variable {index : ℕ} {thread : DecisionThread} {op : decisions.Op}
  {next : decisions.Result op → Program decisions Answer}

/-- A decision is written while the candidate is pending. -/
theorem updated {existing : RevalidationCandidate} (now : DateTime)
    (accounted : Accounted thread.tag.candidateId pool)
    (selected : pool.threads[index]? = some thread)
    (idle : decisionsOn thread.tag.candidateId (owed thread).toList = [])
    (pending : IsPending thread.tag.candidateId pool.world) :
    Accounted thread.tag.candidateId
      (pool.performed index thread (.updateCandidateStatus thread.tag.candidateId
        thread.tag.decision.status thread.tag.user.username thread.tag.note)
        (announce thread.tag existing) (exec now (.updateCandidateStatus thread.tag.candidateId
          thread.tag.decision.status thread.tag.user.username thread.tag.note) pool.world)) := by
  obtain ⟨candidate, found, waits⟩ := Option.map_eq_some_iff.mp pending
  have row := candidateRow_update_self pool.world thread.tag.decision.status
    thread.tag.user.username thread.tag.note now thread.tag.candidateId
  rw [found, Option.map_some] at row
  cases accounted with
  | decided other settled =>
      rw [Option.some.inj (other.symm.trans found)] at settled
      exact absurd waits settled
  | undecided _ _ nothing =>
      obtain ⟨others, before, later⟩ := due_performed thread.tag.candidateId
        (.updateCandidateStatus thread.tag.candidateId thread.tag.decision.status
          thread.tag.user.username thread.tag.note) (announce thread.tag existing)
        (exec now (.updateCandidateStatus thread.tag.candidateId thread.tag.decision.status
          thread.tag.user.username thread.tag.note) pool.world) selected
      rw [idle, nothing] at before
      obtain rfl : others = [] := before.symm.eq_nil
      have owes := later [] (List.append_nil _).symm
      change List.Perm _ (decisionsOn thread.tag.candidateId ((announced (announce thread.tag
        existing (candidateRow _ thread.tag.candidateId))).toList ++ []) ++ []) at owes
      rw [row, List.append_nil, List.append_nil] at owes
      have counted : decisionsOn thread.tag.candidateId [decisionEvent thread.tag existing] =
          [decisionEvent thread.tag existing] :=
        List.filter_cons_of_pos (by simpa using concerns_decisionEvent.mpr rfl)
      have once := List.perm_singleton.mp (owes.trans (List.Perm.of_eq counted))
      refine .decided row ?_ once ⟨rfl, rfl⟩
      cases thread.tag.decision <;> simp [reviewed, Decision.status]

/-- A step of a request, which writes its decision while the candidate is pending. -/
theorem performed (accounted : Accounted candidateId pool)
    (selected : pool.threads[index]? = some thread) (head : thread.rest = .perform op next)
    (performs : Performs thread.tag op next) (now : DateTime)
    (still : Decides candidateId op → IsPending candidateId pool.world) :
    Accounted candidateId (pool.performed index thread op next (exec now op pool.world)) := by
  cases performs with
  | look =>
      refine accounted.of_perm rfl (due_performed_of_none selected ?_ ?_ rfl)
      · rw [owed, head]
        rfl
      · change decisionsOn candidateId (announced (consider thread.tag
          (candidateRow pool.world thread.tag.candidateId))).toList = []
        rw [announced_consider]
        rfl
  | update existing =>
      have idle : decisionsOn candidateId (owed thread).toList = [] := by
        rw [owed, head]
        rfl
      by_cases same : thread.tag.candidateId = candidateId
      · subst same
        exact accounted.updated now selected idle (still rfl)
      · have row := candidateRow_update_of_ne pool.world thread.tag.decision.status
          thread.tag.user.username thread.tag.note now same
        refine accounted.of_perm row (due_performed_of_none selected idle ?_ rfl)
        exact decisionsOn_announce_of_ne same
  | record existing updated =>
      refine accounted.of_perm rfl ?_
      obtain ⟨others, before, later⟩ := due_performed candidateId
        (.recordAudit (decisionEvent thread.tag existing)) (fun _ => .done (.decided updated))
        (exec now (.recordAudit (decisionEvent thread.tag existing)) pool.world) selected
      have recorded := later [decisionEvent thread.tag existing] rfl
      rw [owed, head] at before
      exact recorded.trans before.symm

end Accounted

/-! ## Runs -/

section Runs

variable {guard : DecisionPool → DecisionMove → Prop} {start pool : DecisionPool}
  {candidateId : String}

/-- Every thread goes on as its request does. -/
theorem serves_of_reaches (base : ∀ thread ∈ start.threads, Serves thread.tag thread.rest)
    (reach : Pool.Reaches serveDecision exec guard start pool) :
    ∀ thread ∈ pool.threads, Serves thread.tag thread.rest := by
  refine Pool.invariant_of_reaches base ?_ ?_ reach
  · intro pool request _ sound _ thread member
    rcases Pool.mem_spawned member with old | rfl
    · exact sound thread old
    · exact serves_serveDecision request
  · intro pool index thread op rest now _ sound _ selected head other member
    rcases Pool.mem_performed member with old | rfl
    · exact sound other old
    · have performs := sound thread (List.mem_of_getElem? selected) op rest head
      exact performs.serves (exec now op pool.world).1

/-- A step which is guarded writes only while the candidate is pending. -/
theorem StillPending.isPending {index : ℕ} {thread : DecisionThread} {op : decisions.Op}
    {rest : decisions.Result op → Program decisions Answer} {now : DateTime}
    (still : StillPending candidateId pool (.advance index now))
    (selected : pool.threads[index]? = some thread) (head : thread.rest = .perform op rest)
    (decides : Decides candidateId op) : IsPending candidateId pool.world := by
  refine still op ?_ decides
  rw [selected]
  exact Thread.next_eq_some.mpr ⟨rest, head⟩

variable (fresh : ∀ thread ∈ start.threads, Serves thread.tag thread.rest)
  (reach : Pool.Reaches serveDecision exec (StillPending candidateId) start pool)
include fresh reach

/-- The candidate and its audit trail agree throughout. -/
theorem accounted_of_reaches (base : Accounted candidateId start) :
    Accounted candidateId pool := by
  refine Pool.invariant_of_reaches base ?_ ?_ reach
  · intro pool request _ accounted _
    exact accounted.spawned
  · intro pool index thread op rest now before accounted still selected head
    have performs :=
      serves_of_reaches fresh before thread (List.mem_of_getElem? selected) op rest head
    exact accounted.performed selected head performs now (still.isPending selected head)

/-- A decided candidate stays as it is. -/
theorem row_of_reaches {candidate : RevalidationCandidate}
    (row : candidateRow start.world candidateId = some candidate)
    (settled : candidate.status ≠ .pending) :
    candidateRow pool.world candidateId = some candidate := by
  refine Pool.invariant_of_reaches row ?_ ?_ reach
  · intro pool request _ found _
    exact found
  · intro pool index thread op rest now before found still selected head
    have performs :=
      serves_of_reaches fresh before thread (List.mem_of_getElem? selected) op rest head
    have kept : ¬ Decides candidateId op := by
      intro decides
      obtain ⟨other, same, waits⟩ :=
        Option.map_eq_some_iff.mp (still.isPending selected head decides)
      obtain rfl := Option.some.inj (found.symm.trans same)
      exact settled waits
    cases performs with
    | look => exact found
    | update existing => exact (candidateRow_update_of_ne _ _ _ _ _ kept).trans found
    | record existing updated => exact found

end Runs

/-! ## A candidate is decided once -/

/-- What holds of a candidate at two moments of a run. -/
structure DecidedOnce (candidateId : String) (earlier later : DecisionPool) : Prop where
  /-- A candidate which has left the pending state stays as it was decided. -/
  settled : ∀ candidate, candidateRow earlier.world candidateId = some candidate →
    candidate.status ≠ .pending → candidateRow later.world candidateId = some candidate
  /-- At most one decision is recorded. -/
  recorded : (decisionsOn candidateId later.world.audit).length ≤ 1
  /-- No decision is recorded of a pending candidate. -/
  unrecorded : IsPending candidateId later.world → decisionsOn candidateId later.world.audit = []
  /-- Once all requests are answered, the decision which a candidate shows is recorded. -/
  audited : later.Quiescent → ∀ candidate, candidateRow later.world candidateId = some candidate →
    candidate.status ≠ .pending →
      ∃ event, decisionsOn candidateId later.world.audit = [event] ∧ Names event candidate

section Due

variable {pool : DecisionPool} {candidateId : String}

theorem due_eq (candidateId : String) (pool : DecisionPool) :
    due candidateId pool = decisionsOn candidateId (pool.threads.filterMap owed) ++
      decisionsOn candidateId pool.world.audit :=
  decisionsOn_append ..

theorem due_eq_of_quiescent (quiescent : pool.Quiescent) :
    due candidateId pool = decisionsOn candidateId pool.world.audit := by
  have silent : pool.threads.filterMap owed = [] := by
    refine List.filterMap_eq_nil_iff.mpr fun thread member => ?_
    obtain ⟨answer, answered⟩ := quiescent thread member
    rw [owed, answered]
    rfl
  rw [due_eq, silent]
  rfl

theorem Accounted.length_le (accounted : Accounted candidateId pool) :
    (decisionsOn candidateId pool.world.audit).length ≤ 1 := by
  have bound : (due candidateId pool).length ≤ 1 := by
    cases accounted with
    | undecided _ _ nothing => simp [nothing]
    | decided _ _ once _ => simp [once]
  rw [due_eq, List.length_append] at bound
  omega

end Due

/-- In every run in which decisions are written while the candidate is pending, the candidate is
decided once. -/
theorem decidedOnce_of_reaches {store : AssuranceStore} {candidateId : String}
    (pending : IsPending candidateId store) (fresh : decisionsOn candidateId store.audit = [])
    {earlier later : DecisionPool}
    (first : Pool.Reaches serveDecision exec (StillPending candidateId)
      (Pool.initial store) earlier)
    (second : Pool.Reaches serveDecision exec (StillPending candidateId) earlier later) :
    DecidedOnce candidateId earlier later := by
  have unstarted : ∀ thread ∈ (Pool.initial store : DecisionPool).threads,
      Serves thread.tag thread.rest := nofun
  have serves := serves_of_reaches unstarted first
  obtain ⟨candidate, row, waits⟩ := Option.map_eq_some_iff.mp pending
  have accounted : Accounted candidateId later :=
    accounted_of_reaches unstarted (first.trans second) (.undecided row waits fresh)
  constructor
  case settled =>
    intro decided found left
    exact row_of_reaches serves second found left
  case recorded => exact accounted.length_le
  case unrecorded =>
    intro still
    obtain ⟨present, found, waits⟩ := Option.map_eq_some_iff.mp still
    cases accounted with
    | undecided _ _ nothing => exact (List.append_eq_nil_iff.mp ((due_eq ..).symm.trans nothing)).2
    | decided other settled =>
        obtain rfl := Option.some.inj (found.symm.trans other)
        exact absurd waits settled
  case audited =>
    intro quiescent decided found left
    cases accounted with
    | undecided other waits =>
        obtain rfl := Option.some.inj (found.symm.trans other)
        exact absurd waits left
    | decided other _ once names =>
        obtain rfl := Option.some.inj (found.symm.trans other)
        exact ⟨_, (due_eq_of_quiescent quiescent).symm.trans once, names⟩

namespace Sample

def candidateId : String := "REVAL-1"

/-- A store with one pending candidate. -/
def store : AssuranceStore where
  candidates :=
    [{ candidateId
       controlId := "VPN:schema"
       experimentId := some "EXP-1"
       triggerType := "scheduled"
       triggerDetail := "Last validated 91 days ago (window: 90 days)."
       createdAt := 1 }]

def reviewer : User := { userId := "USER-1", username := "alice", role := .reviewer }
def admin : User := { userId := "USER-2", username := "bob", role := .admin }

def approval : DecisionRequest := { candidateId, decision := .approve, user := reviewer }
def dismissal : DecisionRequest := { candidateId, decision := .dismiss, user := admin }

/-- The row of the candidate and the recorded decisions on it. -/
def outcome (pool : DecisionPool) :
    Option (CandidateStatus × Option String) × List (String × Option String) :=
  ((candidateRow pool.world candidateId).map fun candidate =>
      (candidate.status, candidate.reviewedBy),
    (decisionsOn candidateId pool.world.audit).map fun event =>
      (event.action, event.actorUsername))

end Sample

/-- A dismissal which is looked up after the approval was written is refused. -/
theorem decidedOnce_of_sample : ∃ earlier later, DecidedOnce Sample.candidateId earlier later ∧
    Sample.outcome earlier = (some (.approved, some "alice"), []) ∧
      Sample.outcome later = (some (.approved, some "alice"),
        [("revalidation_candidate.approved", some "alice")]) := by
  let moves : List DecisionMove := [.advance 1 4, .advance 0 5]
  obtain ⟨earlier, first, checked⟩ :
      ∃ earlier, Pool.Reaches serveDecision exec (StillPending Sample.candidateId)
          (Pool.initial Sample.store) earlier ∧
        (decide (Sample.outcome earlier = (some (.approved, some "alice"), [])) &&
          (earlier.runGuarded serveDecision exec (StillPending Sample.candidateId) moves).any
            fun later => decide (Sample.outcome later = (some (.approved, some "alice"),
              [("revalidation_candidate.approved", some "alice")]))) = true :=
    Pool.exists_reaches
      [.spawn Sample.approval, .spawn Sample.dismissal, .advance 0 2, .advance 0 3]
      (by decide)
  obtain ⟨before, runs⟩ := Bool.and_eq_true_iff.mp checked
  obtain ⟨later, second, after⟩ := Pool.exists_reaches moves runs
  exact ⟨earlier, later, decidedOnce_of_reaches (by decide) (by decide) first second,
    of_decide_eq_true before, of_decide_eq_true after⟩

/-- An approval and a dismissal which both found the candidate pending are both written, the second
over the first, and both are recorded. -/
theorem not_decidedOnce_of_overlap :
    ∃ earlier later : DecisionPool,
      Pool.Reaches serveDecision exec (fun _ _ => True) (Pool.initial Sample.store) earlier ∧
      Pool.Reaches serveDecision exec (fun _ _ => True) earlier later ∧
      Sample.outcome earlier = (some (.approved, some "alice"), []) ∧
      Sample.outcome later = (some (.dismissed, some "bob"),
        [("revalidation_candidate.approved", some "alice"),
          ("revalidation_candidate.dismissed", some "bob")]) ∧
      ¬ DecidedOnce Sample.candidateId earlier later := by
  let moves : List DecisionMove := [.advance 1 5, .advance 0 6, .advance 1 7]
  obtain ⟨earlier, first, checked⟩ :
      ∃ earlier, Pool.Reaches serveDecision exec (fun _ _ => True) (Pool.initial Sample.store)
          earlier ∧
        (decide (Sample.outcome earlier = (some (.approved, some "alice"), [])) &&
          (earlier.runGuarded serveDecision exec (fun _ _ => True) moves).any
            fun later => decide (Sample.outcome later = (some (.dismissed, some "bob"),
              [("revalidation_candidate.approved", some "alice"),
                ("revalidation_candidate.dismissed", some "bob")]))) = true :=
    Pool.exists_reaches
      [.spawn Sample.approval, .spawn Sample.dismissal, .advance 0 2, .advance 1 3, .advance 0 4]
      (by decide)
  obtain ⟨before, runs⟩ := Bool.and_eq_true_iff.mp checked
  obtain ⟨later, second, after⟩ := Pool.exists_reaches moves runs
  have twice := of_decide_eq_true after
  refine ⟨earlier, later, first, second, of_decide_eq_true before, twice, fun claim => ?_⟩
  have recorded := congrArg (fun outcome => outcome.2.length) twice
  simp only [Sample.outcome, List.length_map, List.length_cons, List.length_nil] at recorded
  exact absurd claim.recorded (by omega)

end ZeroShield.Assurance.Decisions
