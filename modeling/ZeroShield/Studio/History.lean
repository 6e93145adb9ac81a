import ZeroShield.Foundation.Journal
import ZeroShield.Studio.Sequential

/-!
# The history of one version

Edits and reviews check the copy they read and then replace the whole row.  The history of a version
is linear as long as a version is saved only in the workflow state in which it was read, and
decisions are timed in the order in which they are saved.
-/

namespace ZeroShield.Studio

open Foundation Models Platform

/-- The stored workflow state of a version. -/
def statusOf (world : World) (versionId : String) : Option ExperimentVersionStatus :=
  (world.versions.lookup versionId).map (·.status)

/-- The stored content of a version. -/
def contentOf (world : World) (versionId : String) : Option ExperimentVersion :=
  (world.versions.lookup versionId).map content

/-- Decisions which lead from one workflow state to another without a gap. -/
def IsChain : ExperimentVersionStatus → List ApprovalDecision → ExperimentVersionStatus → Prop
  | first, [], last => first = last
  | first, decision :: decisions, last =>
      decision.fromStatus = first ∧ IsChain decision.toStatus decisions last

instance decidableIsChain : ∀ first decisions last, Decidable (IsChain first decisions last)
  | first, [], last => inferInstanceAs (Decidable (first = last))
  | _, decision :: decisions, last =>
      have := decidableIsChain decision.toStatus decisions last
      inferInstanceAs (Decidable (_ ∧ _))

theorem isChain_concat {first last : ExperimentVersionStatus} {decisions : List ApprovalDecision}
    {decision : ApprovalDecision} (chain : IsChain first decisions last)
    (next : decision.fromStatus = last) :
    IsChain first (decisions ++ [decision]) decision.toStatus := by
  induction decisions generalizing first with
  | nil => exact ⟨next.trans (Eq.symm chain), rfl⟩
  | cons earlier decisions ih => exact ⟨chain.1, ih chain.2⟩

/-- The version which a request has read. -/
def readVersion (past : Past) : Option ExperimentVersion :=
  past.findSome? fun event =>
    match event with
    | ⟨.getVersion _, .ok found⟩ => found
    | _ => none

/-- The decisions which are about to be recorded. -/
def decisionsInFlight (pool : StudioPool) : List ApprovalDecision :=
  pool.threads.filterMap fun thread =>
    match thread.next with
    | some (.appendApprovalDecision decision) => some decision
    | _ => none

/-- An edit or a review of a version. -/
def Concerns (versionId : String) : StudioRequest → Prop
  | .edit target _ _ _ | .review _ target _ _ _ => target = versionId
  | _ => False

instance {versionId : String} {request : StudioRequest} :
    Decidable (Concerns versionId request) := by
  unfold Concerns
  split <;> infer_instance

/-- Only edits and reviews of one version are started. -/
def OnVersion (versionId : String) (_ : StudioPool) : StudioMove → Prop
  | .spawn request => Concerns versionId request
  | .advance _ _ => True

instance {versionId : String} {pool : StudioPool} {move : StudioMove} :
    Decidable (OnVersion versionId pool move) := by
  unfold OnVersion
  split <;> infer_instance

/-- A version is saved in the workflow state in which it was read, and a transition is not timed
before a recorded decision, nor at or before one which is about to be recorded. -/
def SavedAsRead (versionId : String) (pool : StudioPool) (move : StudioMove) : Prop :=
  match saving pool move with
  | some (thread, version) =>
      (readVersion thread.past).map (·.status) = statusOf pool.world versionId ∧
        (version.status ≠ .draft →
          (∀ decision ∈ pool.world.getApprovalHistory versionId,
            decision.decidedAt ≤ version.updatedAt) ∧
          ∀ decision ∈ decisionsInFlight pool, decision.decidedAt < version.updatedAt)
  | none => True

instance {versionId : String} {pool : StudioPool} {move : StudioMove} :
    Decidable (SavedAsRead versionId pool move) := by
  unfold SavedAsRead
  exact match saving pool move with
    | some (_, _) => by infer_instance
    | none => by infer_instance

/-- Requests on one version which save what they read in order. -/
def InTurn (versionId : String) (pool : StudioPool) (move : StudioMove) : Prop :=
  OnVersion versionId pool move ∧ SavedAsRead versionId pool move

instance {versionId : String} {pool : StudioPool} {move : StudioMove} :
    Decidable (InTurn versionId pool move) :=
  inferInstanceAs (Decidable (_ ∧ _))

/-- A linear history: the stored row, and the journal of the decisions saved so far. -/
structure Linear (versionId : String) (pool : StudioPool) (row : ExperimentVersion)
    (entries : List (Entry ApprovalDecision)) : Prop where
  concerning : ∀ thread ∈ pool.threads, Concerns versionId thread.tag
  stored : pool.world.versions.lookup versionId = some row
  journal : Journal ApprovalDecision.decidedAt entries
    (pool.world.approvals.filter (·.versionId = versionId))
  chain : IsChain .draft (entries.map (·.item)) row.status
  held : ∀ entry ∈ entries, ∀ index, entry.holder = some index →
    ∃ thread, pool.threads[index]? = some thread ∧
      thread.next = some (.appendApprovalDecision entry.item)
  holding : ∀ index (thread : Thread platform StudioRequest Response) decision,
    pool.threads[index]? = some thread → thread.next = some (.appendApprovalDecision decision) →
      ⟨decision, some index⟩ ∈ entries
  frozen : ∀ tag version, pool.Saw tag ⟨.getVersion versionId, .ok (some version)⟩ →
    version.status ≠ .draft → row.status ≠ .draft ∧ content version = content row

/-! ## What a request does before it records a decision -/

section Script

variable {thread : Thread platform StudioRequest Response} {decision : ApprovalDecision}

/-- A decision is recorded right after the advanced version was saved. -/
theorem recording_of_next (sound : script.Sound thread)
    (next : thread.next = some (.appendApprovalDecision decision)) :
    ∃ versionId version target now earlier,
      thread.past = ⟨.saveVersion (advanced version target now), ()⟩ :: ⟨.utcNow, now⟩ ::
        ⟨.getVersion versionId, .ok (some version)⟩ :: earlier ∧
      (∃ action reason requestId user,
        thread.tag = .review action versionId reason requestId user) ∧
      decision.versionId = version.versionId := by
  obtain ⟨rest, head⟩ := Thread.next_eq_some.mp next
  have allowed := sound.allowed head
  obtain ⟨tag, past, _⟩ := thread
  cases allowed with
  | @recordDecision action versionId reason requestId user version now =>
      exact ⟨versionId, version, action.target, now, [], rfl,
        ⟨action, reason, requestId, user, rfl⟩,
        rfl⟩

/-- After another operation than a save, no decision is recorded. -/
theorem next_ne_record_of_head (sound : script.Sound thread) {event : Event platform}
    {earlier : Past} (past : thread.past = event :: earlier)
    (other : ∀ version, event.op ≠ .saveVersion version) :
    thread.next ≠ some (.appendApprovalDecision decision) := by
  intro next
  obtain ⟨_, version, target, now, _, same, -, -⟩ := recording_of_next sound next
  rw [past] at same
  obtain ⟨rfl, -⟩ := List.cons.inj same
  exact other _ rfl

/-- An edit records no decision. -/
theorem next_ne_record_of_edit (sound : script.Sound thread) {versionId : String}
    {body : EditExperimentVersionRequest} {requestId : Option String} {user : User}
    (tag : thread.tag = .edit versionId body requestId user) :
    thread.next ≠ some (.appendApprovalDecision decision) := by
  intro next
  obtain ⟨_, _, _, _, _, -, ⟨_, _, _, _, review⟩, -⟩ := recording_of_next sound next
  rw [tag] at review
  cases review

/-- After a review has saved a version, it records the decision. -/
theorem next_of_saved_review (sound : script.Sound thread) {action : ReviewAction}
    {versionId : String} {reason requestId : Option String} {user : User}
    (tag : thread.tag = .review action versionId reason requestId user)
    {version saved : ExperimentVersion} {now : DateTime} {earlier : Past}
    (past : thread.past = ⟨.saveVersion saved, ()⟩ :: ⟨.utcNow, now⟩ ::
      ⟨.getVersion versionId, .ok (some version)⟩ :: earlier) :
    thread.next = some (.appendApprovalDecision
      (decisionOf version action.target user.username reason now)) := by
  cases rest : thread.rest with
  | done value =>
      have settled := (sound.finished rest).settled saved
      rw [past] at settled
      exact absurd rfl settled
  | perform op next =>
      have allowed := sound.allowed rest
      rw [tag, past] at allowed
      cases allowed with
      | recordDecision => exact Thread.next_eq_some.mpr ⟨next, rest⟩
      | auditReview other => exact absurd rfl (other saved)

end Script

/-! ## One operation -/

section Steps

variable {services : Services} {versionId : String} {start : World} {pool : StudioPool}
  {row : ExperimentVersion} {entries : List (Entry ApprovalDecision)} {index : ℕ}
  {thread : Thread platform StudioRequest Response} {input : Input}

theorem Linear.spawned (linear : Linear versionId pool row entries) {tag : StudioRequest}
    (concerns : Concerns versionId tag) :
    Linear versionId (pool.spawned (serve services) tag) row entries := by
  have new : ∀ decision, Thread.next (⟨tag, [], serve services tag⟩ :
      Thread platform StudioRequest Response) ≠ some (.appendApprovalDecision decision) := by
    intro decision next
    have sound : script.Sound ⟨tag, [], serve services tag⟩ := ⟨trivial, serve_obeys services tag⟩
    obtain ⟨_, _, _, _, _, past, -⟩ := recording_of_next sound next
    cases past
  constructor
  case concerning =>
    intro thread member
    rcases Pool.mem_spawned member with old | rfl
    · exact linear.concerning thread old
    · exact concerns
  case stored => exact linear.stored
  case journal => exact linear.journal
  case chain => exact linear.chain
  case held =>
    intro entry member position holder
    obtain ⟨thread, found, next⟩ := linear.held entry member position holder
    obtain ⟨bound, -⟩ := List.getElem?_eq_some_iff.mp found
    exact ⟨thread, (List.getElem?_append_left bound).trans found, next⟩
  case holding =>
    intro position thread decision found next
    rcases Nat.lt_or_ge position pool.threads.length with old | late
    · have before : pool.threads[position]? = some thread :=
        (List.getElem?_append_left old).symm.trans found
      exact linear.holding position thread decision before next
    · have present : thread ∈ [(⟨tag, [], serve services tag⟩ :
          Thread platform StudioRequest Response)] :=
        List.mem_of_getElem? ((List.getElem?_append_right late).symm.trans found)
      obtain rfl := List.mem_singleton.mp present
      exact absurd next (new decision)
  case frozen =>
    simp only [Pool.saw_spawned]
    exact linear.frozen

theorem concerning_performed {op : Op} {rest : op.Result → Program platform Response}
    {outcome : op.Result × World} (linear : Linear versionId pool row entries)
    (selected : pool.threads[index]? = some thread) :
    ∀ other ∈ (pool.performed index thread op rest outcome).threads,
      Concerns versionId other.tag := by
  intro other member
  rcases Pool.mem_performed member with old | rfl
  · exact linear.concerning other old
  · exact linear.concerning thread (List.mem_of_getElem? selected)

/-- Decisions are held as before when the performing thread neither did nor will record one. -/
theorem held_performed {op : Op} {rest : op.Result → Program platform Response}
    {outcome : op.Result × World} (linear : Linear versionId pool row entries)
    (selected : pool.threads[index]? = some thread) (head : thread.rest = .perform op rest)
    (other : ∀ decision, op ≠ .appendApprovalDecision decision) :
    ∀ entry ∈ entries, ∀ position, entry.holder = some position →
      ∃ later, (pool.performed index thread op rest outcome).threads[position]? = some later ∧
        later.next = some (.appendApprovalDecision entry.item) := by
  intro entry member position holder
  obtain ⟨found, present, next⟩ := linear.held entry member position holder
  by_cases same : position = index
  · subst same
    obtain rfl := Option.some.inj (selected.symm.trans present)
    have performs : thread.next = some op := Thread.next_eq_some.mpr ⟨rest, head⟩
    exact absurd (Option.some.inj (performs.symm.trans next)) (other entry.item)
  · exact ⟨found, (Pool.getElem?_performed_of_ne same).trans present, next⟩

theorem holding_performed {op : Op} {rest : op.Result → Program platform Response}
    {outcome : op.Result × World} (linear : Linear versionId pool row entries)
    (selected : pool.threads[index]? = some thread)
    (quiet : ∀ decision, (Thread.after thread op rest outcome.1).next ≠
      some (.appendApprovalDecision decision)) :
    ∀ position (later : Thread platform StudioRequest Response) decision,
      (pool.performed index thread op rest outcome).threads[position]? = some later →
        later.next = some (.appendApprovalDecision decision) →
          ⟨decision, some position⟩ ∈ entries := by
  intro position later decision found next
  by_cases same : position = index
  · subst same
    rw [Pool.getElem?_performed_self selected] at found
    obtain rfl := Option.some.inj found
    exact absurd next (quiet decision)
  · rw [Pool.getElem?_performed_of_ne same] at found
    exact linear.holding position later decision found next

/-- Operations which neither save a version nor record a decision. -/
theorem Linear.other {op : Op} {rest : op.Result → Program platform Response}
    (linear : Linear versionId pool row entries) (sound : script.Sound thread)
    (selected : pool.threads[index]? = some thread) (head : thread.rest = .perform op rest)
    (noSave : ∀ version, op ≠ .saveVersion version)
    (noRecord : ∀ decision, op ≠ .appendApprovalDecision decision) :
    Linear versionId (pool.performed index thread op rest (exec input op pool.world)) row
      entries := by
  have after := sound.after head (promised_exec input op pool.world)
  constructor
  case concerning => exact concerning_performed linear selected
  case stored =>
    rw [Pool.performed_world, exec_versions noSave]
    exact linear.stored
  case journal =>
    rw [Pool.performed_world, exec_approvals noRecord]
    exact linear.journal
  case chain => exact linear.chain
  case held => exact held_performed linear selected head noRecord
  case holding =>
    exact holding_performed linear selected fun decision =>
      next_ne_record_of_head after rfl noSave
  case frozen =>
    intro tag version seen moved
    rcases (Pool.saw_performed selected).mp seen with old | ⟨-, same⟩
    · exact linear.frozen tag version old moved
    · obtain ⟨-, found⟩ := getVersion_of_event same
      obtain rfl := Option.some.inj
        (linear.stored.symm.trans (World.getVersion_eq_some.mp found).1)
      exact ⟨moved, rfl⟩

variable (input) in
/-- Recording a decision settles it in the journal. -/
theorem Linear.record {decision : ApprovalDecision}
    {rest : Op.Result (.appendApprovalDecision decision) → Program platform Response}
    (linear : Linear versionId pool row entries) (sound : script.Sound thread)
    (selected : pool.threads[index]? = some thread)
    (head : thread.rest = .perform (.appendApprovalDecision decision) rest)
    (same : decision.versionId = versionId) :
    ∃ settled, Linear versionId (pool.performed index thread (.appendApprovalDecision decision) rest
      (exec input (.appendApprovalDecision decision) pool.world)) row settled := by
  have next : thread.next = some (.appendApprovalDecision decision) :=
    Thread.next_eq_some.mpr ⟨rest, head⟩
  have member := linear.holding index thread decision selected next
  obtain ⟨before, later, rfl⟩ := List.append_of_mem member
  have after : script.Sound (Thread.after thread (.appendApprovalDecision decision) rest ()) :=
    sound.after head trivial
  have quiet : ∀ decision', (Thread.after thread (.appendApprovalDecision decision) rest ()).next ≠
      some (.appendApprovalDecision decision') := fun decision' =>
    next_ne_record_of_head after rfl (by simp)
  refine ⟨before ++ ⟨decision, none⟩ :: later, ?_⟩
  constructor
  case concerning => exact concerning_performed linear selected
  case stored => exact linear.stored
  case journal =>
    have record : (pool.world.approvals ++ [decision]).filter (·.versionId = versionId) =
        pool.world.approvals.filter (·.versionId = versionId) ++ [decision] := by
      simp [same]
    change Journal _ _ ((pool.world.approvals ++ [decision]).filter (·.versionId = versionId))
    rw [record]
    exact linear.journal.settle
  case chain =>
    simpa using linear.chain
  case held =>
    intro entry present position holder
    have beside : entry ∈ before ++ later := by
      rcases List.mem_append.mp present with earlier | rest
      · exact List.mem_append_left _ earlier
      · rcases List.mem_cons.mp rest with rfl | after
        · cases holder
        · exact List.mem_append_right _ after
    have different : position ≠ index := by
      rintro rfl
      exact linear.journal.holder_ne beside holder
    obtain ⟨found, old, records⟩ := linear.held entry (List.mem_append.mpr
      ((List.mem_append.mp beside).imp_right (List.mem_cons_of_mem _))) position holder
    exact ⟨found, (Pool.getElem?_performed_of_ne different).trans old, records⟩
  case holding =>
    intro position found other present records
    by_cases here : position = index
    · subst here
      rw [Pool.getElem?_performed_self selected] at present
      obtain rfl := Option.some.inj present
      exact absurd records (quiet other)
    · rw [Pool.getElem?_performed_of_ne here] at present
      rcases List.mem_append.mp (linear.holding position found other present records) with
        earlier | rest
      · exact List.mem_append_left _ earlier
      · rcases List.mem_cons.mp rest with this | after
        · exact absurd (Option.some.inj (Entry.mk.inj this).2) here
        · exact List.mem_append_right _ (List.mem_cons_of_mem _ after)
  case frozen =>
    intro tag version seen moved
    rw [Pool.saw_performed_of_ne selected (by simp)] at seen
    exact linear.frozen tag version seen moved

/-- Saving an edit of a draft changes its content only. -/
theorem Linear.edit {version : ExperimentVersion}
    {rest : Op.Result (.saveVersion version) → Program platform Response}
    (linear : Linear versionId pool row entries) (sound : script.Sound thread)
    (selected : pool.threads[index]? = some thread)
    (head : thread.rest = .perform (.saveVersion version) rest)
    {body : EditExperimentVersionRequest} {requestId : Option String} {user : User}
    (tag : thread.tag = .edit versionId body requestId user)
    (same : version.versionId = versionId) (saved : version.status = .draft)
    (draft : row.status = .draft) :
    Linear versionId (pool.performed index thread (.saveVersion version) rest
      (exec input (.saveVersion version) pool.world)) version entries := by
  have after : script.Sound (Thread.after thread (.saveVersion version) rest ()) :=
    sound.after head trivial
  constructor
  case concerning => exact concerning_performed linear selected
  case stored =>
    subst same
    exact Table.lookup_upsert _ _
  case journal => exact linear.journal
  case chain =>
    rw [saved.trans draft.symm]
    exact linear.chain
  case held => exact held_performed linear selected head (by simp)
  case holding =>
    exact holding_performed linear selected fun decision => next_ne_record_of_edit after tag
  case frozen =>
    intro tag found seen moved
    rw [Pool.saw_performed_of_ne selected (by simp)] at seen
    exact absurd draft (linear.frozen tag found seen moved).1

/-- Saving a transition from the stored state hands out its decision. -/
theorem Linear.review {action : ReviewAction} {reason requestId : Option String} {user : User}
    {version : ExperimentVersion} {now : DateTime}
    {rest : Op.Result (.saveVersion (advanced version action.target now)) →
      Program platform Response}
    (linear : Linear versionId pool row entries) (sound : script.Sound thread)
    (selected : pool.threads[index]? = some thread)
    (head : thread.rest = .perform (.saveVersion (advanced version action.target now)) rest)
    (tag : thread.tag = .review action versionId reason requestId user)
    (past : thread.past =
      [⟨.utcNow, now⟩, ⟨.getVersion versionId, .ok (some version)⟩])
    (same : version.versionId = versionId) (stored : version.status = row.status)
    (afterRecord : ∀ old ∈ pool.world.getApprovalHistory versionId, old.decidedAt ≤ now)
    (afterHeld : ∀ old ∈ decisionsInFlight pool, old.decidedAt < now) :
    ∃ handed, Linear versionId
      (pool.performed index thread (.saveVersion (advanced version action.target now)) rest
        (exec input (.saveVersion (advanced version action.target now)) pool.world))
      (advanced version action.target now) handed := by
  let decision := decisionOf version action.target user.username reason now
  have member := List.mem_of_getElem? selected
  have after : script.Sound
      (Thread.after thread (.saveVersion (advanced version action.target now)) rest ()) :=
    sound.after head trivial
  have records : (Thread.after thread (.saveVersion (advanced version action.target now)) rest
      ()).next = some (.appendApprovalDecision decision) :=
    next_of_saved_review after tag (by rw [Thread.after, past])
  have inFlight : ∀ entry ∈ entries, ∀ other, entry.holder = some other →
      entry.item.decidedAt < now ∧ other ≠ index := by
    intro entry present other holder
    obtain ⟨found, here, next⟩ := linear.held entry present other holder
    refine ⟨afterHeld _ (List.mem_filterMap.mpr ⟨found, List.mem_of_getElem? here, ?_⟩), ?_⟩
    · rw [next]
    · rintro rfl
      obtain rfl := Option.some.inj (selected.symm.trans here)
      have saves : thread.next = some (.saveVersion (advanced version action.target now)) :=
        Thread.next_eq_some.mpr ⟨rest, head⟩
      rw [saves] at next
      cases next
  refine ⟨entries ++ [⟨decision, some index⟩], ?_⟩
  constructor
  case concerning => exact concerning_performed linear selected
  case stored =>
    subst same
    exact Table.lookup_upsert _ (advanced version action.target now)
  case journal =>
    refine linear.journal.hold (fun old present => afterRecord old ?_) inFlight
    exact (List.mem_insertionSort _).mpr present
  case chain =>
    rw [List.map_append]
    exact isChain_concat linear.chain stored
  case held =>
    intro entry present position holder
    rcases List.mem_append.mp present with old | new
    · exact held_performed linear selected head (by simp) entry old position holder
    · obtain rfl := List.mem_singleton.mp new
      obtain rfl := Option.some.inj holder
      exact ⟨_, Pool.getElem?_performed_self selected, records⟩
  case holding =>
    intro position found other present next
    by_cases here : position = index
    · subst here
      rw [Pool.getElem?_performed_self selected] at present
      obtain rfl := Option.some.inj present
      obtain rfl := Op.appendApprovalDecision.inj (Option.some.inj (records.symm.trans next))
      exact List.mem_append_right _ List.mem_cons_self
    · rw [Pool.getElem?_performed_of_ne here] at present
      exact List.mem_append_left _ (linear.holding position found other present next)
  case frozen =>
    intro tag found seen moved
    rw [Pool.saw_performed_of_ne selected (by simp)] at seen
    have read : pool.Saw thread.tag ⟨.getVersion versionId, .ok (some version)⟩ :=
      ⟨thread, member, rfl, by simp [past]⟩
    obtain ⟨left, same⟩ := linear.frozen tag found seen moved
    have current := (linear.frozen _ version read (stored ▸ left)).2
    refine ⟨by cases action <;> simp [ReviewAction.target], ?_⟩
    rw [content_advanced, current, same]

end Steps

/-! ## Whole runs -/

/-- A version which starts its life: a stored draft without decisions. -/
structure FreshDraft (versionId : String) (world : World) : Prop where
  draft : statusOf world versionId = some .draft
  undecided : world.approvals.filter (·.versionId = versionId) = []

/-- What a save of a version in its turn does to the stored row. -/
inductive SavedInTurn (row : ExperimentVersion) : ExperimentVersion → Prop
  | edit {version} : row.status = .draft → version.status = .draft → SavedInTurn row version
  | review {version} : version.status ∈ allowedTransitions row.status →
      (row.status ≠ .draft → content version = content row) → SavedInTurn row version

section Reachable

variable {services : Services} {versionId : String} {start : World} {pool : StudioPool}

/-- One guarded operation keeps the history linear. -/
theorem linear_performed {row : ExperimentVersion} {entries : List (Entry ApprovalDecision)}
    {index : ℕ} {thread : Thread platform StudioRequest Response} {op : Op}
    {rest : op.Result → Program platform Response} {input : Input}
    (reach : Reaches services (InTurn versionId) start pool)
    (linear : Linear versionId pool row entries)
    (inTurn : SavedAsRead versionId pool (.advance index input))
    (selected : pool.threads[index]? = some thread) (head : thread.rest = .perform op rest) :
    ∃ next settled, Linear versionId
      (pool.performed index thread op rest (exec input op pool.world)) next settled ∧
        (next = row ∨ SavedInTurn row next) := by
  have member := List.mem_of_getElem? selected
  have sound := sound_of_reaches reach thread member
  have concerns := linear.concerning thread member
  by_cases saves : ∃ version, op = .saveVersion version
  · obtain ⟨version, rfl⟩ := saves
    have cause := saveCause_of_next reach member (Thread.next_eq_some.mpr ⟨rest, head⟩)
    have saving := saving_advance input selected head
    simp only [SavedAsRead, saving] at inTurn
    obtain ⟨asRead, timed⟩ := inTurn
    rw [statusOf, linear.stored, Option.map_some] at asRead
    obtain ⟨tag, past, _⟩ := thread
    cases cause with
    | draft => cases concerns
    | @edit target body requestId user version now draft _ same =>
        obtain rfl : target = versionId := concerns
        have stored : version.status = row.status := Option.some.inj asRead
        have rowDraft : row.status = .draft := stored.symm.trans draft
        exact ⟨edited version body now, entries,
          linear.edit sound selected head rfl same draft rowDraft, Or.inr (.edit rowDraft draft)⟩
    | @review action target reason requestId user version now _ allowed _ same =>
        obtain rfl : target = versionId := concerns
        have stored : version.status = row.status := Option.some.inj asRead
        obtain ⟨afterRecord, afterHeld⟩ :=
          timed (by cases action <;> simp [ReviewAction.target])
        obtain ⟨handed, advances⟩ := linear.review sound selected head rfl rfl same stored
          afterRecord afterHeld
        have read : pool.Saw (.review action target reason requestId user)
            ⟨.getVersion target, .ok (some version)⟩ := ⟨_, member, rfl, by simp⟩
        refine ⟨_, handed, advances, Or.inr (.review (stored ▸ allowed) fun moved => ?_)⟩
        exact (linear.frozen _ version read (stored ▸ moved)).2
  · by_cases records : ∃ decision, op = .appendApprovalDecision decision
    · obtain ⟨decision, rfl⟩ := records
      obtain ⟨target, version, _, _, _, past, ⟨_, _, _, _, tag⟩, same⟩ :=
        recording_of_next sound (Thread.next_eq_some.mpr ⟨rest, head⟩)
      have seen : (⟨.getVersion target, .ok (some version)⟩ : Event platform) ∈ thread.past := by
        rw [past]
        simp
      have identified := (read_of_mem reach member seen).2
      rw [tag] at concerns
      obtain ⟨settled, records⟩ := linear.record input sound selected head
        (same.trans (identified.trans concerns))
      exact ⟨row, settled, records, Or.inl rfl⟩
    · exact ⟨row, entries, linear.other sound selected head (not_exists.mp saves)
        (not_exists.mp records), Or.inl rfl⟩

theorem linear_of_reaches (fresh : FreshDraft versionId start)
    (reach : Reaches services (InTurn versionId) start pool) :
    ∃ row entries, Linear versionId pool row entries := by
  have base : ∃ row entries, Linear versionId (Pool.initial start) row entries := by
    obtain ⟨row, stored, draft⟩ := Option.map_eq_some_iff.mp fresh.draft
    refine ⟨row, [], ⟨by rintro _ ⟨⟩, stored, ?_, draft.symm, by rintro _ ⟨⟩, ?_, ?_⟩⟩
    · change Journal _ [] (start.approvals.filter _)
      rw [fresh.undecided]
      exact Journal.empty
    · rintro index thread decision ⟨⟩
    · rintro tag version ⟨_, ⟨⟩, -⟩
  refine Pool.invariant_of_reaches base ?_ ?_ reach
  · rintro pool tag _ ⟨row, entries, linear⟩ ⟨concerns, -⟩
    exact ⟨row, entries, linear.spawned concerns⟩
  · rintro pool index thread op rest input reach ⟨row, entries, linear⟩ ⟨-, inTurn⟩ selected head
    obtain ⟨next, settled, linear, -⟩ := linear_performed reach linear inTurn selected head
    exact ⟨next, settled, linear⟩

end Reachable

/-- What linear means for whoever looks at the store: the stored state follows the table, content
changes only in drafts, and at rest the recorded decisions lead to the stored state. -/
structure LinearHistory (services : Services) (guard : StudioPool → StudioMove → Prop)
    (versionId : String) (pool : StudioPool) : Prop where
  path : ∀ move next, guard pool move → pool.step (serve services) exec move = some next →
    ∃ before after, statusOf pool.world versionId = some before ∧
      statusOf next.world versionId = some after ∧
        (after = before ∨ after ∈ allowedTransitions before)
  frozen : ∀ move next, guard pool move → pool.step (serve services) exec move = some next →
    contentOf next.world versionId ≠ contentOf pool.world versionId →
      statusOf pool.world versionId = some .draft
  chain : pool.Quiescent → ∃ status, statusOf pool.world versionId = some status ∧
    IsChain .draft (pool.world.getApprovalHistory versionId) status

/-- The history of a version is linear in every run of edits and reviews which save in turn. -/
theorem linearHistory_of_reaches (services : Services) {versionId : String} {start : World}
    (fresh : FreshDraft versionId start) {pool : StudioPool}
    (reach : Reaches services (InTurn versionId) start pool) :
    LinearHistory services (InTurn versionId) versionId pool := by
  obtain ⟨row, entries, linear⟩ := linear_of_reaches fresh reach
  have stored : statusOf pool.world versionId = some row.status := by
    rw [statusOf, linear.stored, Option.map_some]
  have stepped : ∀ move next, InTurn versionId pool move →
      pool.step (serve services) exec move = some next →
        ∃ after, next.world.versions.lookup versionId = some after ∧
          (after = row ∨ SavedInTurn row after) := by
    intro move next inTurn step
    cases move with
    | spawn tag =>
        rw [Pool.step_spawn step]
        exact ⟨row, linear.stored, Or.inl rfl⟩
    | advance index input =>
        obtain ⟨thread, op, rest, selected, head, rfl⟩ := Pool.step_advance step
        obtain ⟨after, _, linear, cause⟩ := linear_performed reach linear inTurn.2 selected head
        exact ⟨after, linear.stored, cause⟩
  constructor
  case path =>
    intro move next inTurn step
    obtain ⟨after, found, cause⟩ := stepped move next inTurn step
    refine ⟨row.status, after.status, stored, by rw [statusOf, found, Option.map_some], ?_⟩
    rcases cause with rfl | cause
    · exact Or.inl rfl
    · cases cause with
      | edit before now => exact Or.inl (now.trans before.symm)
      | review allowed => exact Or.inr allowed
  case frozen =>
    intro move next inTurn step changed
    obtain ⟨after, found, cause⟩ := stepped move next inTurn step
    rw [contentOf, contentOf, found, linear.stored, Option.map_some, Option.map_some] at changed
    rw [stored]
    rcases cause with rfl | cause
    · exact absurd rfl changed
    · cases cause with
      | edit before => rw [before]
      | review _ kept =>
          by_contra moved
          exact changed (congrArg some (kept fun draft => moved (congrArg some draft)))
  case chain =>
    intro quiescent
    have free : ∀ entry ∈ entries, entry.holder = none := by
      intro entry member
      cases holder : entry.holder with
      | none => rfl
      | some index =>
          obtain ⟨thread, selected, next⟩ := linear.held entry member index holder
          obtain ⟨value, returned⟩ := quiescent thread (List.mem_of_getElem? selected)
          simp [Thread.next, returned] at next
    refine ⟨row.status, stored, ?_⟩
    rw [World.getApprovalHistory, linear.journal.insertionSort_record free]
    exact linear.chain

/-- A store in which the sample experiment has just been created. -/
def Sample.created : World :=
  served services (.create body none researcher) (fun _ => { now := 1 }) {}

theorem Sample.created_fresh : FreshDraft (versionId 1) created :=
  ⟨by decide +kernel, by decide +kernel⟩

/-- The second decision is recorded before the first one, and the history is linear. -/
theorem linearHistory_of_sample : ∃ pool,
    LinearHistory Sample.services (InTurn (Sample.versionId 1)) (Sample.versionId 1) pool ∧
      pool.world.approvals.map (·.toStatus) = [.underReview, .readyForReview] := by
  obtain ⟨pool, reach, checked⟩ :
      ∃ pool, Reaches Sample.services (InTurn (Sample.versionId 1)) Sample.created pool ∧
        decide (pool.world.approvals.map (·.toStatus) = [.underReview, .readyForReview]) = true :=
    Pool.exists_reaches
      (Sample.serveAlone 0 4 2
          (StudioRequest.edit (Sample.versionId 1) { title := some "Edited" } none
            Sample.researcher) ++
        Sample.serveAlone 1 3 3
          (StudioRequest.review .submitReview (Sample.versionId 1) none none Sample.researcher) ++
        Sample.serveAlone 2 5 4
          (StudioRequest.review .startReview (Sample.versionId 1) none none Sample.reviewer) ++
        Sample.steps 1 2 5)
      (by decide +kernel)
  exact ⟨pool, linearHistory_of_reaches Sample.services Sample.created_fresh reach,
    of_decide_eq_true checked⟩

/-- An edit which was read before a review began returns the version to a draft. -/
theorem not_linearHistory_of_stale_edit :
    ¬ ∀ services versionId start pool, FreshDraft versionId start →
      Reaches services (OnVersion versionId) start pool →
        LinearHistory services (OnVersion versionId) versionId pool := by
  intro claim
  obtain ⟨pool, reach, checked⟩ :
      ∃ pool, Reaches Sample.services (OnVersion (Sample.versionId 1)) Sample.created pool ∧
        decide ((∀ thread ∈ pool.threads, thread.next.isNone = true) ∧
          statusOf pool.world (Sample.versionId 1) = some .draft ∧
          ¬ IsChain .draft (pool.world.getApprovalHistory (Sample.versionId 1)) .draft) = true :=
    Pool.exists_reaches
      ([.spawn (StudioRequest.edit (Sample.versionId 1) { title := some "Edited" } none
          Sample.researcher)] ++
        Sample.steps 0 1 2 ++
        Sample.serveAlone 1 5 3
          (StudioRequest.review .submitReview (Sample.versionId 1) none none Sample.researcher) ++
        Sample.serveAlone 2 5 4
          (StudioRequest.review .startReview (Sample.versionId 1) none none Sample.reviewer) ++
        Sample.steps 0 3 5)
      (by decide +kernel)
  obtain ⟨finished, draft, broken⟩ := of_decide_eq_true checked
  have quiescent : pool.Quiescent := Pool.quiescent_of_next fun thread member =>
    Option.isNone_iff_eq_none.mp (finished thread member)
  obtain ⟨status, stored, chain⟩ :=
    (claim Sample.services _ Sample.created pool Sample.created_fresh reach).chain quiescent
  obtain rfl := Option.some.inj (draft.symm.trans stored)
  exact broken chain

end ZeroShield.Studio
