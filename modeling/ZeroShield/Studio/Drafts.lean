import ZeroShield.Studio.Runs

/-!
# Created drafts

The number of a new draft comes from a read which precedes its save, and a save replaces whatever is
stored under the same identifier.  A created draft is kept, and no create overwrites a version, as
long as the number read is still the latest one when the draft is saved.
-/

namespace ZeroShield.Studio

open Foundation Models Platform

/-- A create saves its draft only while every stored number of its experiment is smaller. -/
def NumberStillNew (pool : StudioPool) (move : StudioMove) : Prop :=
  match saving pool move with
  | some (⟨.create _ _ _, _, _⟩, draft) =>
      ∀ row ∈ pool.world.versions.rows, row.experimentId = draft.experimentId →
        row.versionNumber < draft.versionNumber
  | _ => True

instance {pool : StudioPool} {move : StudioMove} : Decidable (NumberStillNew pool move) := by
  unfold NumberStillNew
  split <;> infer_instance

/-- An edit of a version has been saved. -/
def EditSaved (pool : StudioPool) (versionId : String) : Prop :=
  ∃ body requestId user version,
    pool.Saw (.edit versionId body requestId user) ⟨.saveVersion version, ()⟩

/-- The create at a position has saved its draft. -/
def Created (pool : StudioPool) (index : ℕ) (draft : ExperimentVersion) : Prop :=
  ∃ body requestId user,
    pool.SawAt index (.create body requestId user) ⟨.saveVersion draft, ()⟩

/-- The answer of a create which has returned a new version, with what was asked by whom. -/
def acknowledgement (thread : Thread platform StudioRequest Response) :
    Option (CreateExperimentVersionRequest × User × VersionResponse) :=
  match thread.tag, thread.rest with
  | .create body _ user, .done (.version 201 answer) => some (body, user, answer)
  | _, _ => none

theorem acknowledgement_eq_some {thread : Thread platform StudioRequest Response}
    {body : CreateExperimentVersionRequest} {user : User} {answer : VersionResponse}
    (acknowledged : acknowledgement thread = some (body, user, answer)) :
    ∃ requestId, thread.tag = .create body requestId user ∧
      thread.rest = .done (.version 201 answer) := by
  unfold acknowledgement at acknowledged
  split at acknowledged
  case h_1 requestId _ _ tag rest =>
    simp only [Option.some.injEq, Prod.mk.injEq] at acknowledged
    obtain ⟨rfl, rfl, rfl⟩ := acknowledged
    exact ⟨requestId, tag, rest⟩
  case h_2 => cases acknowledged

/-- The request at a position has been answered with a new version. -/
def Acknowledged (pool : StudioPool) (index : ℕ) (body : CreateExperimentVersionRequest)
    (user : User) (answer : VersionResponse) : Prop :=
  ∃ thread, pool.threads[index]? = some thread ∧ acknowledgement thread = some (body, user, answer)

/-- A version is stored with the content of a draft, or was edited since. -/
def Holds (pool : StudioPool) (draft version : ExperimentVersion) : Prop :=
  content version = content draft ∨ EditSaved pool draft.versionId

/-- What interleaved requests keep of the drafts which were saved. -/
structure Kept (pool : StudioPool) : Prop where
  stored : ∀ index draft, Created pool index draft →
    ∃ row, pool.world.versions.lookup draft.versionId = some row ∧ Holds pool draft row
  read : ∀ index draft tag version, Created pool index draft →
    pool.Saw tag ⟨.getVersion draft.versionId, .ok (some version)⟩ → Holds pool draft version
  present : ∀ tag versionId version, pool.Saw tag ⟨.getVersion versionId, .ok (some version)⟩ →
    ∃ row, pool.world.versions.lookup versionId = some row
  apart : ∀ left right draft other, Created pool left draft → Created pool right other →
    draft.versionId = other.versionId → left = right

section Performed

variable {pool : StudioPool} {index : ℕ} {thread : Thread platform StudioRequest Response}
  {op : Op} {rest : op.Result → Program platform Response} {outcome : op.Result × World}

theorem EditSaved.performed (selected : pool.threads[index]? = some thread) {versionId : String}
    (saved : EditSaved pool versionId) :
    EditSaved (pool.performed index thread op rest outcome) versionId := by
  obtain ⟨body, requestId, user, version, seen⟩ := saved
  exact ⟨body, requestId, user, version, (Pool.saw_performed selected).mpr (Or.inl seen)⟩

theorem Holds.performed (selected : pool.threads[index]? = some thread)
    {draft version : ExperimentVersion} (holds : Holds pool draft version) :
    Holds (pool.performed index thread op rest outcome) draft version :=
  holds.imp_right (EditSaved.performed selected)

/-- A create gains a draft only by saving it. -/
theorem created_performed (selected : pool.threads[index]? = some thread) {position : ℕ}
    {draft : ExperimentVersion} :
    Created (pool.performed index thread op rest outcome) position draft ↔
      Created pool position draft ∨
        (position = index ∧ (∃ body requestId user, thread.tag = .create body requestId user) ∧
          (⟨.saveVersion draft, ()⟩ : Event platform) = ⟨op, outcome.1⟩) := by
  constructor
  · rintro ⟨body, requestId, user, seen⟩
    rcases (Pool.sawAt_performed selected).mp seen with old | ⟨same, tag, event⟩
    · exact Or.inl ⟨body, requestId, user, old⟩
    · exact Or.inr ⟨same, ⟨body, requestId, user, tag⟩, event⟩
  · rintro (⟨body, requestId, user, seen⟩ | ⟨same, ⟨body, requestId, user, tag⟩, event⟩)
    · exact ⟨body, requestId, user, (Pool.sawAt_performed selected).mpr (Or.inl seen)⟩
    · exact ⟨body, requestId, user,
        (Pool.sawAt_performed selected).mpr (Or.inr ⟨same, tag, event⟩)⟩

/-- Operations of another kind create nothing. -/
theorem created_performed_of_ne (selected : pool.threads[index]? = some thread)
    (other : (∀ version, op ≠ .saveVersion version) ∨
      ∀ body requestId user, thread.tag ≠ .create body requestId user)
    {position : ℕ} {draft : ExperimentVersion} :
    Created (pool.performed index thread op rest outcome) position draft ↔
      Created pool position draft := by
  rw [created_performed selected, or_iff_left]
  rintro ⟨-, ⟨body, requestId, user, tag⟩, event⟩
  rcases other with unlike | unlike
  · exact unlike draft (congrArg Event.op event).symm
  · exact unlike body requestId user tag

end Performed

section Steps

variable {pool : StudioPool} {index : ℕ} {thread : Thread platform StudioRequest Response}
  {op : Op} {rest : op.Result → Program platform Response} {input : Input}

/-- Operations which save nothing keep the drafts: a read sees what is stored. -/
theorem Kept.other (kept : Kept pool) (selected : pool.threads[index]? = some thread)
    (other : ∀ version, op ≠ .saveVersion version) :
    Kept (pool.performed index thread op rest (exec input op pool.world)) := by
  have versions : (exec input op pool.world).2.versions = pool.world.versions :=
    exec_versions other
  constructor
  case stored =>
    intro position draft created
    rw [created_performed_of_ne selected (Or.inl other)] at created
    obtain ⟨row, found, holds⟩ := kept.stored position draft created
    rw [Pool.performed_world, versions]
    exact ⟨row, found, holds.performed selected⟩
  case read =>
    intro position draft tag version created seen
    rw [created_performed_of_ne selected (Or.inl other)] at created
    rcases (Pool.saw_performed selected).mp seen with old | ⟨-, same⟩
    · exact (kept.read position draft tag version created old).performed selected
    · obtain ⟨-, found⟩ := getVersion_of_event same
      obtain ⟨row, stored, holds⟩ := kept.stored position draft created
      have equal := stored.symm.trans (World.getVersion_eq_some.mp found).1
      obtain rfl := Option.some.inj equal
      exact holds.performed selected
  case present =>
    intro tag versionId version seen
    rw [Pool.performed_world, versions]
    rcases (Pool.saw_performed selected).mp seen with old | ⟨-, same⟩
    · exact kept.present tag versionId version old
    · obtain ⟨-, found⟩ := getVersion_of_event same
      exact ⟨version, (World.getVersion_eq_some.mp found).1⟩
  case apart =>
    intro left right draft other_ leftCreated rightCreated
    rw [created_performed_of_ne selected (Or.inl other)] at leftCreated rightCreated
    exact kept.apart left right draft other_ leftCreated rightCreated

variable {version : ExperimentVersion}
  {next : Op.Result (.saveVersion version) → Program platform Response}

/-- Saving a version removes no row. -/
theorem Kept.present_saved (kept : Kept pool) (selected : pool.threads[index]? = some thread)
    {tag : StudioRequest} {versionId : String} {found : ExperimentVersion}
    (seen : (pool.performed index thread (.saveVersion version) next
      (exec input (.saveVersion version) pool.world)).Saw tag
        ⟨.getVersion versionId, .ok (some found)⟩) :
    ∃ row, (pool.world.versions.upsert version).lookup versionId = some row := by
  rw [Pool.saw_performed_of_ne selected (by simp)] at seen
  by_cases same : version.versionId = versionId
  · subst same
    exact ⟨version, Table.lookup_upsert _ _⟩
  · rw [Table.lookup_upsert_ne same]
    exact kept.present tag versionId found seen

/-- A new draft is saved under an unused identifier. -/
theorem Kept.draft (kept : Kept pool) (selected : pool.threads[index]? = some thread)
    (unused : pool.world.versions.lookup version.versionId = none) :
    Kept (pool.performed index thread (.saveVersion version) next
      (exec input (.saveVersion version) pool.world)) := by
  have apart : ∀ position draft, Created pool position draft →
      version.versionId ≠ draft.versionId := by
    intro position draft created same
    obtain ⟨row, found, -⟩ := kept.stored position draft created
    rw [← same, unused] at found
    cases found
  have fresh : ∀ tag found,
      ¬ pool.Saw tag ⟨.getVersion version.versionId, .ok (some found)⟩ := by
    intro tag found seen
    obtain ⟨row, stored⟩ := kept.present tag _ found seen
    rw [unused] at stored
    cases stored
  constructor
  case stored =>
    intro position draft created
    change ∃ row, (pool.world.versions.upsert version).lookup draft.versionId = some row ∧ _
    rcases (created_performed selected).mp created with old | ⟨-, -, event⟩
    · obtain ⟨row, found, holds⟩ := kept.stored position draft old
      rw [Table.lookup_upsert_ne (apart position draft old)]
      exact ⟨row, found, holds.performed selected⟩
    · obtain rfl := Op.saveVersion.inj (congrArg Event.op event)
      exact ⟨draft, Table.lookup_upsert _ _, Or.inl rfl⟩
  case read =>
    intro position draft tag found created seen
    rw [Pool.saw_performed_of_ne selected (by simp)] at seen
    rcases (created_performed selected).mp created with old | ⟨-, -, event⟩
    · exact (kept.read position draft tag found old seen).performed selected
    · obtain rfl := Op.saveVersion.inj (congrArg Event.op event)
      exact absurd seen (fresh tag found)
  case present => exact fun tag versionId found seen => kept.present_saved selected seen
  case apart =>
    intro left right draft other leftCreated rightCreated same
    rcases (created_performed selected).mp leftCreated with leftOld | ⟨rfl, -, leftEvent⟩
    · rcases (created_performed selected).mp rightCreated with rightOld | ⟨-, -, rightEvent⟩
      · exact kept.apart left right draft other leftOld rightOld same
      · obtain rfl := Op.saveVersion.inj (congrArg Event.op rightEvent)
        exact absurd same.symm (apart left draft leftOld)
    · rcases (created_performed selected).mp rightCreated with rightOld | ⟨rfl, -, -⟩
      · obtain rfl := Op.saveVersion.inj (congrArg Event.op leftEvent)
        exact absurd same (apart right other rightOld)
      · rfl

/-- A request which is no create saves the content it read, or has saved an edit. -/
theorem Kept.changed (kept : Kept pool) (selected : pool.threads[index]? = some thread)
    (noCreate : ∀ body requestId user, thread.tag ≠ .create body requestId user)
    (holds : ∀ position draft, Created pool position draft → version.versionId = draft.versionId →
      Holds (pool.performed index thread (.saveVersion version) next
        (exec input (.saveVersion version) pool.world)) draft version) :
    Kept (pool.performed index thread (.saveVersion version) next
      (exec input (.saveVersion version) pool.world)) := by
  constructor
  case stored =>
    intro position draft created
    rw [created_performed_of_ne selected (Or.inr noCreate)] at created
    change ∃ row, (pool.world.versions.upsert version).lookup draft.versionId = some row ∧ _
    by_cases same : version.versionId = draft.versionId
    · exact ⟨version, same ▸ Table.lookup_upsert _ _, holds position draft created same⟩
    · obtain ⟨row, found, old⟩ := kept.stored position draft created
      rw [Table.lookup_upsert_ne same]
      exact ⟨row, found, old.performed selected⟩
  case read =>
    intro position draft tag found created seen
    rw [created_performed_of_ne selected (Or.inr noCreate)] at created
    rw [Pool.saw_performed_of_ne selected (by simp)] at seen
    exact (kept.read position draft tag found created seen).performed selected
  case present => exact fun tag versionId found seen => kept.present_saved selected seen
  case apart =>
    intro left right draft other leftCreated rightCreated
    rw [created_performed_of_ne selected (Or.inr noCreate)] at leftCreated rightCreated
    exact kept.apart left right draft other leftCreated rightCreated

end Steps

section Reachable

variable {services : Services} {pool : StudioPool}

theorem Kept.initial : Kept (Pool.initial {} : StudioPool) := by
  constructor
  case stored => rintro _ _ ⟨_, _, _, _, ⟨⟩, -⟩
  case read => rintro _ _ _ _ ⟨_, _, _, _, ⟨⟩, -⟩
  case present => rintro _ _ _ ⟨_, ⟨⟩, -⟩
  case apart => rintro _ _ _ _ ⟨_, _, _, _, ⟨⟩, -⟩

theorem Kept.spawned {tag : StudioRequest} (kept : Kept pool) :
    Kept (pool.spawned (serve services) tag) := by
  have created (index : ℕ) (draft : ExperimentVersion) :
      Created (pool.spawned (serve services) tag) index draft ↔ Created pool index draft := by
    simp only [Created, Pool.sawAt_spawned]
  have holds (draft version : ExperimentVersion) :
      Holds (pool.spawned (serve services) tag) draft version ↔ Holds pool draft version := by
    simp only [Holds, EditSaved, Pool.saw_spawned]
  constructor
  case stored =>
    simp only [created, holds]
    exact kept.stored
  case read =>
    simp only [created, holds, Pool.saw_spawned]
    exact kept.read
  case present =>
    simp only [Pool.saw_spawned]
    exact kept.present
  case apart =>
    simp only [created]
    exact kept.apart

/-- While its number is new, the identifier of a draft about to be saved is unused. -/
theorem lookup_of_numberStillNew {guard : StudioPool → StudioMove → Prop}
    (reach : Reaches services guard {} pool) {move : StudioMove}
    {thread : Thread platform StudioRequest Response} {draft : ExperimentVersion}
    (saves : saving pool move = some (thread, draft)) {body : CreateExperimentVersionRequest}
    {requestId : Option String} {user : User} (tag : thread.tag = .create body requestId user)
    (new : NumberStillNew pool move) : pool.world.versions.lookup draft.versionId = none := by
  obtain ⟨index, -, selected, next⟩ := saving_eq_some.mp saves
  obtain ⟨_, past, rest⟩ := thread
  obtain rfl := tag
  have cause := saveCause_of_next reach (List.mem_of_getElem? selected) next
  simp only [NumberStillNew, saves] at new
  cases cause with
  | @draft _ _ _ latest _ _ _ _ built =>
      refine lookup_draft (numbered_of_reaches (by rintro _ ⟨⟩) reach) ?_ built
      intro row stored same
      have smaller := new row stored (same.trans built.experimentId.symm)
      rw [built.versionNumber] at smaller
      omega

/-- The saved drafts are kept as long as every create saves while its number is new. -/
theorem kept_of_reaches (reach : Reaches services NumberStillNew {} pool) : Kept pool := by
  refine Pool.invariant_of_reaches Kept.initial ?_ ?_ reach
  · intro pool tag _ kept _
    exact kept.spawned
  · intro pool index thread op rest input reach kept new selected head
    by_cases saves : ∃ version, op = .saveVersion version
    · obtain ⟨version, rfl⟩ := saves
      have member := List.mem_of_getElem? selected
      have cause := saveCause_of_next reach member (Thread.next_eq_some.mpr ⟨rest, head⟩)
      have saving := saving_advance input selected head
      have saw : ∀ event ∈ thread.past, pool.Saw thread.tag event :=
        fun event seen => ⟨thread, member, rfl, seen⟩
      obtain ⟨tag, past, _⟩ := thread
      cases cause with
      | draft => exact kept.draft selected (lookup_of_numberStillNew reach saving rfl new)
      | @edit versionId body requestId user version now _ _ same =>
          refine kept.changed selected (by simp) fun position draft _ identified => Or.inr ?_
          refine ⟨body, requestId, user, edited version body now, ?_⟩
          rw [Pool.saw_performed selected, ← identified, edited_versionId, same]
          exact Or.inr ⟨rfl, rfl⟩
      | @review action versionId reason requestId user version now _ _ _ same =>
          refine kept.changed selected (by simp) fun position draft created identified => ?_
          have read : pool.Saw (.review action versionId reason requestId user)
              ⟨.getVersion draft.versionId, .ok (some version)⟩ := by
            rw [← identified, advanced_versionId, same]
            exact saw _ (by simp)
          have holds := kept.read position draft _ version created read
          exact Holds.performed selected holds
    · exact kept.other selected (not_exists.mp saves)

/-- Before an edit of a version was saved, the version was read. -/
theorem saw_read_of_editSaved {guard : StudioPool → StudioMove → Prop}
    (reach : Reaches services guard {} pool) {versionId : String}
    (saved : EditSaved pool versionId) :
    ∃ tag version, pool.Saw tag ⟨.getVersion versionId, .ok (some version)⟩ := by
  obtain ⟨body, requestId, user, row, thread, member, tag, seen⟩ := saved
  obtain ⟨earlier, suffix, allowed, -⟩ := allowed_of_mem reach member seen
  rw [tag] at allowed
  dsimp only at allowed
  cases allowed with
  | @saveEdit _ _ _ _ version now =>
      exact ⟨_, version, thread, member, rfl, suffix.subset (by simp)⟩

end Reachable

/-- The version of an answer is stored with the content of a draft of the request, unless it was
edited. -/
def StoredAsSubmitted (pool : StudioPool) (body : CreateExperimentVersionRequest) (user : User)
    (answer : VersionResponse) : Prop :=
  ∃ latest now draft row, IsDraft body user latest now draft ∧ answer = versionResponse draft ∧
    pool.world.versions.lookup answer.versionId = some row ∧ Holds pool draft row

/-- No acknowledged draft is lost and no create overwrites a version. -/
structure DraftsKept (services : Services) (guard : StudioPool → StudioMove → Prop)
    (pool : StudioPool) : Prop where
  /-- Every acknowledged version is stored as it was submitted. -/
  stored : ∀ index body user answer, Acknowledged pool index body user answer →
    StoredAsSubmitted pool body user answer
  /-- Different creates are told different identifiers. -/
  own : ∀ left right body user answer otherBody otherUser otherAnswer,
    Acknowledged pool left body user answer →
    Acknowledged pool right otherBody otherUser otherAnswer →
      answer.versionId = otherAnswer.versionId → left = right
  /-- Before a create saves its draft, nothing is stored under its identifier, and there is no edit
  of it. -/
  unused : ∀ move thread draft body requestId user, guard pool move →
    saving pool move = some (thread, draft) → thread.tag = .create body requestId user →
      pool.world.versions.lookup draft.versionId = none ∧ ¬ EditSaved pool draft.versionId
  /-- No operation of a create changes a stored row. -/
  untouched : ∀ index input next (thread : Thread platform StudioRequest Response) body requestId
    user, guard pool (.advance index input) → pool.threads[index]? = some thread →
      thread.tag = .create body requestId user →
      pool.step (serve services) exec (.advance index input) = some next →
        ∀ row ∈ pool.world.versions.rows, row ∈ next.world.versions.rows

section Reachable

variable {services : Services} {pool : StudioPool}

/-- An acknowledged version is the draft which the create saved. -/
theorem created_of_acknowledged (reach : Reaches services NumberStillNew {} pool) {index : ℕ}
    {body : CreateExperimentVersionRequest} {user : User} {answer : VersionResponse}
    (answered : Acknowledged pool index body user answer) :
    ∃ latest now draft, IsDraft body user latest now draft ∧ answer = versionResponse draft ∧
      Created pool index draft := by
  obtain ⟨thread, selected, acknowledged⟩ := answered
  have member := List.mem_of_getElem? selected
  obtain ⟨requestId, tag, rest⟩ := acknowledgement_eq_some acknowledged
  have finished := (sound_of_reaches reach thread member).finished rest
  obtain ⟨draft, saved, reported⟩ := finished.created body requestId user 201 answer tag rfl
  obtain ⟨earlier, -, allowed, -⟩ := allowed_of_mem reach member saved
  rw [tag] at allowed
  dsimp only at allowed
  cases allowed with
  | @saveDraft _ _ _ latest _ _ now _ built =>
      exact ⟨latest, now, draft, built, reported, body, requestId, user, thread, selected, tag,
        saved⟩

/-- Drafts are kept in every run in which creates save while their numbers are new. -/
theorem draftsKept_of_reaches (services : Services) {pool : StudioPool}
    (reach : Reaches services NumberStillNew {} pool) :
    DraftsKept services NumberStillNew pool := by
  have kept := kept_of_reaches reach
  constructor
  case stored =>
    intro index body user answer acknowledged
    obtain ⟨latest, now, draft, built, rfl, created⟩ := created_of_acknowledged reach acknowledged
    obtain ⟨row, found, holds⟩ := kept.stored index draft created
    exact ⟨latest, now, draft, row, built, rfl, found, holds⟩
  case own =>
    intro left right _ _ _ _ _ _ acknowledged otherAcknowledged same
    obtain ⟨_, _, draft, -, rfl, created⟩ := created_of_acknowledged reach acknowledged
    obtain ⟨_, _, other, -, rfl, otherCreated⟩ := created_of_acknowledged reach otherAcknowledged
    exact kept.apart left right draft other created otherCreated same
  case unused =>
    intro move thread draft body requestId user new saves tag
    have unused := lookup_of_numberStillNew reach saves tag new
    refine ⟨unused, fun saved => ?_⟩
    obtain ⟨tag, version, seen⟩ := saw_read_of_editSaved reach saved
    obtain ⟨row, found⟩ := kept.present tag draft.versionId version seen
    rw [unused] at found
    cases found
  case untouched =>
    intro index input next thread body requestId user new selected tag step row stored
    obtain ⟨found, op, rest, same, head, rfl⟩ := Pool.step_advance step
    obtain rfl := Option.some.inj (selected.symm.trans same)
    by_cases saves : ∃ version, op = .saveVersion version
    · obtain ⟨version, rfl⟩ := saves
      have saving := saving_advance input selected head
      have unused := lookup_of_numberStillNew reach saving tag new
      refine Table.mem_rows_upsert_of_ne stored fun identified => ?_
      rw [identified, Table.mem_rows.mp stored] at unused
      cases unused
    · rwa [Pool.performed_world, exec_versions (not_exists.mp saves)]

end Reachable

/-- Two creates follow one another while an edit of the first one is under way. -/
theorem draftsKept_of_sample : ∃ pool, DraftsKept Sample.services NumberStillNew pool ∧
    pool.world.versions.rows.map (fun row => (row.versionNumber, row.definition.title)) =
      [(1, "Edited"), (2, "Schema canonicalisation")] := by
  obtain ⟨pool, reach, checked⟩ :
      ∃ pool, Reaches Sample.services NumberStillNew {} pool ∧
        decide (pool.world.versions.rows.map
            (fun row => (row.versionNumber, row.definition.title)) =
          [(1, "Edited"), (2, "Schema canonicalisation")]) = true :=
    Pool.exists_reaches
      (Sample.serveAlone 0 5 1 (StudioRequest.create Sample.body none Sample.researcher) ++
        [.spawn (StudioRequest.edit (Sample.versionId 1) { title := some "Edited" } none
          Sample.researcher)] ++
        Sample.steps 1 2 2 ++
        Sample.serveAlone 2 5 3 (StudioRequest.create Sample.body none Sample.researcher) ++
        Sample.steps 1 2 4)
      (by decide +kernel)
  exact ⟨pool, draftsKept_of_reaches Sample.services reach, of_decide_eq_true checked⟩

/-- Two overlapping creates are told the same identifier, and one of their drafts is lost. -/
theorem not_draftsKept_of_overlap :
    ¬ ∀ services pool, Reaches services anyMove {} pool → DraftsKept services anyMove pool := by
  intro claim
  obtain ⟨pool, reach, checked⟩ :
      ∃ pool, Reaches Sample.services anyMove {} pool ∧
        decide (pool.threads.map (fun thread => (acknowledgement thread).map
            fun (body, _, answer) => (body.title, answer.versionId)) =
              [some ("First", Sample.versionId 1), some ("Second", Sample.versionId 1)] ∧
          pool.world.versions.rows.map (·.definition.title) = ["First"]) = true :=
    Pool.exists_reaches
      ([.spawn
          (StudioRequest.create { Sample.body with title := "First" } none Sample.researcher)] ++
        Sample.steps 0 3 1 ++
        Sample.serveAlone 1 5 2
          (StudioRequest.create { Sample.body with title := "Second" } none Sample.researcher) ++
        Sample.steps 0 2 3)
      (by decide +kernel)
  obtain ⟨answers, titles⟩ := of_decide_eq_true checked
  have answered (thread : Thread platform StudioRequest Response) (member : thread ∈ pool.threads) :
      acknowledgement thread ≠ none := by
    intro unanswered
    have present := List.mem_map_of_mem (f := fun thread => (acknowledgement thread).map
      fun (body, _, answer) => (body.title, answer.versionId)) member
    rw [answers] at present
    simp [unanswered] at present
  obtain ⟨thread, selected, acknowledged⟩ : ∃ thread, pool.threads[1]? = some thread ∧
      (acknowledgement thread).map (fun (body, _, answer) => (body.title, answer.versionId)) =
        some ("Second", Sample.versionId 1) := by
    have second := congrArg (fun list => list[1]?) answers
    simpa using second
  obtain ⟨⟨body, user, answer⟩, returned, same⟩ := Option.map_eq_some_iff.mp acknowledged
  obtain ⟨_, _, draft, row, built, rfl, found, holds⟩ :=
    (claim Sample.services pool reach).stored 1 body user answer ⟨thread, selected, returned⟩
  rcases holds with kept | ⟨_, _, _, _, other, member, tag, -⟩
  · have first : row.definition.title = "First" := by
      have member := List.mem_map_of_mem (f := fun row => row.definition.title)
        (Table.mem_rows_of_lookup found)
      rw [titles] at member
      exact List.mem_singleton.mp member
    have second : row.definition.title = "Second" := by
      calc row.definition.title = draft.definition.title :=
            congrArg (fun version => version.definition.title) kept
        _ = body.title := built.title
        _ = "Second" := (Prod.mk.inj same).1
    rw [first] at second
    exact absurd second (by decide)
  · exact answered other member (by simp [acknowledgement, tag])

end ZeroShield.Studio
