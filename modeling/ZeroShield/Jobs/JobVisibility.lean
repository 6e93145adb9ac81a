import ZeroShield.Jobs.StoreCalls

/-!
# Job records are visible at once

A record is read as it was saved, or not at all: what a call of the store sees is the newest record
which was in place at one moment of the call.
-/

namespace ZeroShield.Jobs

open Foundation Models Platform

/-- The events of the calls, the newest first. -/
abbrev FileLog := List (ℕ × Event files)

/-! ## Saves in the log -/

/-- The save by which an event puts a record of a job in place. -/
def replacedBy (jobId : String) : ℕ × Event files → Option ℕ
  | (index, ⟨.replace _ target, true⟩) => if target = recordName jobId then some index else none
  | _ => none

/-- The save which was the last to put a record of a job in place. -/
def newestSave (jobId : String) (log : FileLog) : Option ℕ :=
  log.findSome? (replacedBy jobId)

theorem newestSave_eq_none_of_suffix {jobId : String} {earlier log : FileLog}
    (suffix : earlier <:+ log) (nothing : newestSave jobId log = none) :
    newestSave jobId earlier = none := by
  rw [newestSave, List.findSome?_eq_none_iff] at nothing ⊢
  exact fun entry member => nothing entry (suffix.subset member)

theorem newestSave_cons_of_none {jobId : String} {entry : ℕ × Event files}
    (other : replacedBy jobId entry = none) (log : FileLog) :
    newestSave jobId (entry :: log) = newestSave jobId log :=
  List.findSome?_cons_of_isNone (Option.isNone_iff_eq_none.mpr other)

/-- A record is the newest one of a job. -/
def Newest (calls : List StoreCall) (log : FileLog) (jobId : String) (record : JobRecord) : Prop :=
  record.jobId = jobId ∧
    ∃ index, newestSave jobId log = some index ∧ calls[index]? = some (.save record)

/-! ## The invariant -/

section Invariant

variable (codec : JobCodec) (directory : Directory) (calls : List StoreCall)

/-- A file of a job has the text of its newest record; there is none before the first one. -/
def Shown (log : FileLog) (jobId : String) : Option ℕ → Prop
  | none => newestSave jobId log = none
  | some file => ∃ record, Newest calls log jobId record ∧
      directory.Holds IsRecordName file (codec.dump record)

/-- What an event says about the events before it, and what it has read. -/
def Observed (log : FileLog) : Event files → Prop
  | ⟨.isFile name, present⟩ =>
      ∀ jobId, name = recordName jobId → present = (newestSave jobId log).isSome
  | ⟨.openFile name, opened⟩ =>
      ∀ jobId, name = recordName jobId → Shown codec directory calls log jobId opened
  | ⟨.read file, bytes⟩ => directory.Holds IsRecordName file bytes
  | _ => True

/-- Every event of a log is right about the events before it. -/
def Logged : FileLog → Prop
  | [] => True
  | (_, event) :: log => Observed codec directory calls log event ∧ Logged log

/-- The directory has the newest record of every job, and the temporary files of the saves. -/
structure Consistent (drafts : ℕ → Option Draft) (log : FileLog) : Prop where
  stored : ∀ jobId, Shown codec directory calls log jobId (directory.file (recordName jobId))
  linked : ∀ index draft, drafts index = some draft →
    directory.Links draft.name draft.file draft.written ∧ ¬ IsRecordName draft.name
  apart : ∀ ⦃left right first second⦄, drafts left = some first → drafts right = some second →
    first.name = second.name → left = right
  logged : Logged codec directory calls log

end Invariant

/-! ## What keeps the invariant -/

section Kept

variable {codec : JobCodec} {directory changed : Directory} {calls more : List StoreCall}
  {log : FileLog} {jobId : String} {event : Event files} {index : ℕ}

theorem Newest.mono {record : JobRecord} (newest : Newest calls log jobId record)
    (grown : calls <+: more) : Newest more log jobId record := by
  obtain ⟨same, index, last, saved⟩ := newest
  obtain ⟨rest, rfl⟩ := grown
  have inside : index < calls.length := (List.getElem?_eq_some_iff.mp saved).1
  exact ⟨same, index, last, (List.getElem?_append_left inside).trans saved⟩

theorem Newest.cons {record : JobRecord} (newest : Newest calls log jobId record)
    (other : replacedBy jobId (index, event) = none) :
    Newest calls ((index, event) :: log) jobId record := by
  obtain ⟨same, index, last, saved⟩ := newest
  exact ⟨same, index, (newestSave_cons_of_none other log).trans last, saved⟩

theorem Shown.mono {opened : Option ℕ} (shown : Shown codec directory calls log jobId opened)
    (keeps : ∀ file bytes, directory.Holds IsRecordName file bytes →
      changed.Holds IsRecordName file bytes)
    (grown : calls <+: more) : Shown codec changed more log jobId opened := by
  cases opened with
  | none => exact shown
  | some file =>
      obtain ⟨record, newest, holds⟩ := shown
      exact ⟨record, newest.mono grown, keeps _ _ holds⟩

theorem Shown.cons {opened : Option ℕ} (shown : Shown codec directory calls log jobId opened)
    (other : replacedBy jobId (index, event) = none) :
    Shown codec directory calls ((index, event) :: log) jobId opened := by
  cases opened with
  | none => exact (newestSave_cons_of_none other log).trans shown
  | some file =>
      obtain ⟨record, newest, holds⟩ := shown
      exact ⟨record, newest.cons other, holds⟩

/-- Whether there is a file says whether a record was put in place. -/
theorem Shown.isSome {opened : Option ℕ} (shown : Shown codec directory calls log jobId opened) :
    opened.isSome = (newestSave jobId log).isSome := by
  cases opened with
  | none => rw [show newestSave jobId log = none from shown]
  | some file =>
      obtain ⟨record, ⟨-, index, last, -⟩, -⟩ := shown
      rw [last]
      rfl

theorem Observed.mono (observed : Observed codec directory calls log event)
    (keeps : ∀ file bytes, directory.Holds IsRecordName file bytes →
      changed.Holds IsRecordName file bytes)
    (grown : calls <+: more) : Observed codec changed more log event := by
  obtain ⟨op, result⟩ := event
  cases op with
  | isFile name => exact observed
  | openFile name => exact fun jobId same => (observed jobId same).mono keeps grown
  | read file => exact keeps _ _ observed
  | _ => trivial

theorem Logged.mono (logged : Logged codec directory calls log)
    (keeps : ∀ file bytes, directory.Holds IsRecordName file bytes →
      changed.Holds IsRecordName file bytes)
    (grown : calls <+: more) : Logged codec changed more log := by
  induction log with
  | nil => trivial
  | cons entry log ih => exact ⟨logged.1.mono keeps grown, ih logged.2⟩

theorem Logged.of_split {later : FileLog}
    (logged : Logged codec directory calls (later ++ (index, event) :: log)) :
    Observed codec directory calls log event := by
  induction later with
  | nil => exact logged.1
  | cons entry later ih => exact ih logged.2

variable {drafts : ℕ → Option Draft}

/-- An event which changes nothing. -/
theorem Consistent.quiet (consistent : Consistent codec directory calls drafts log)
    (other : ∀ jobId, replacedBy jobId (index, event) = none)
    (observed : Observed codec directory calls log event) :
    Consistent codec directory calls drafts ((index, event) :: log) where
  stored jobId := (consistent.stored jobId).cons (other jobId)
  linked := consistent.linked
  apart := consistent.apart
  logged := ⟨observed, consistent.logged⟩

theorem Consistent.spawn (consistent : Consistent codec directory calls drafts log)
    (grown : calls <+: more) : Consistent codec directory more drafts log where
  stored jobId := (consistent.stored jobId).mono (fun _ _ holds => holds) grown
  linked := consistent.linked
  apart := consistent.apart
  logged := consistent.logged.mono (fun _ _ holds => holds) grown

/-- A temporary file is made under a new name. -/
theorem Consistent.add (consistent : Consistent codec directory calls drafts log) {name : String}
    (fresh : directory.file name = none) (temporary : ¬ IsRecordName name)
    (other : ∀ jobId, replacedBy jobId (index, event) = none)
    (observed : ∀ directory, Observed codec directory calls log event) :
    Consistent codec (directory.add name) calls
      (Function.update drafts index (some ⟨name, directory.contents.length, []⟩))
      ((index, event) :: log) := by
  have unused : ∀ index draft, drafts index = some draft → draft.name ≠ name := by
    rintro index draft isDraft rfl
    have found := (consistent.linked index draft isDraft).1.found
    rw [fresh] at found
    cases found
  refine ⟨fun jobId => ?_, fun position draft isDraft => ?_, ?_, observed _, ?_⟩
  · have different : name ≠ recordName jobId := by
      rintro rfl
      exact temporary (isRecordName_recordName jobId)
    rw [Directory.file_add, if_neg different]
    refine Shown.cons ?_ (other jobId)
    exact (consistent.stored jobId).mono (fun _ _ holds => holds.add) List.prefix_rfl
  · rw [Function.update_apply] at isDraft
    split_ifs at isDraft
    · cases isDraft
      exact ⟨Directory.links_add, temporary⟩
    · obtain ⟨links, notRecord⟩ := consistent.linked position draft isDraft
      exact ⟨links.add fresh, notRecord⟩
  · intro left right first second isFirst isSecond same
    rw [Function.update_apply] at isFirst isSecond
    split_ifs at isFirst isSecond with atLeft atRight atRight
    · exact atLeft.trans atRight.symm
    · cases isFirst
      exact absurd same.symm (unused right second isSecond)
    · cases isSecond
      exact absurd same (unused left first isFirst)
    · exact consistent.apart isFirst isSecond same
  · exact consistent.logged.mono (fun _ _ holds => holds.add) List.prefix_rfl

/-- A byte is written to a temporary file. -/
theorem Consistent.append (consistent : Consistent codec directory calls drafts log) {draft : Draft}
    (isDraft : drafts index = some draft) (byte : UInt8)
    (other : ∀ jobId, replacedBy jobId (index, event) = none)
    (observed : ∀ directory, Observed codec directory calls log event) :
    Consistent codec (directory.append draft.file byte) calls
      (Function.update drafts index (some { draft with written := draft.written ++ [byte] }))
      ((index, event) :: log) := by
  obtain ⟨own, temporary⟩ := consistent.linked index draft isDraft
  have keeps : ∀ file bytes, directory.Holds IsRecordName file bytes →
      (directory.append draft.file byte).Holds IsRecordName file bytes :=
    fun _ _ holds => holds.write own.found temporary
  refine ⟨fun jobId => ?_, fun position changed isChanged => ?_, ?_, observed _, ?_⟩
  · exact ((consistent.stored jobId).mono keeps List.prefix_rfl).cons (other jobId)
  · rw [Function.update_apply] at isChanged
    split_ifs at isChanged with same
    · cases isChanged
      exact ⟨own.write _, temporary⟩
    · obtain ⟨links, notRecord⟩ := consistent.linked position changed isChanged
      refine ⟨links.write_ne own.found (fun equal => same ?_) _, notRecord⟩
      exact consistent.apart isChanged isDraft equal.symm
  · intro left right first second isFirst isSecond same
    rw [Function.update_apply] at isFirst isSecond
    split_ifs at isFirst isSecond with atLeft atRight atRight
    · exact atLeft.trans atRight.symm
    · cases isFirst
      exact atLeft.trans (consistent.apart isDraft isSecond same)
    · cases isSecond
      exact (consistent.apart isFirst isDraft same).trans atRight.symm
    · exact consistent.apart isFirst isSecond same
  · exact consistent.logged.mono keeps List.prefix_rfl

/-- A temporary file with the whole text of a record is put in place. -/
theorem Consistent.rename (consistent : Consistent codec directory calls drafts log)
    {draft : Draft} {record : JobRecord} (isDraft : drafts index = some draft)
    (whole : draft.written = codec.dump record) (saved : calls[index]? = some (.save record))
    (found : directory.file draft.name = some draft.file) :
    Consistent codec (directory.rename draft.name (recordName record.jobId) found) calls
      (Function.update drafts index none)
      ((index, ⟨.replace draft.name (recordName record.jobId), true⟩) :: log) := by
  obtain ⟨own, temporary⟩ := consistent.linked index draft isDraft
  have keeps : ∀ file bytes, directory.Holds IsRecordName file bytes →
      (directory.rename draft.name (recordName record.jobId) found).Holds IsRecordName file bytes :=
    fun _ _ holds => holds.rename found temporary
  have notDraft : ∀ jobId, recordName jobId ≠ draft.name := fun jobId same =>
    temporary (same ▸ isRecordName_recordName jobId)
  refine ⟨fun jobId => ?_, fun position kept isKept => ?_, ?_, trivial, ?_⟩
  · by_cases same : record.jobId = jobId
    · subst same
      have placed := own.rename (recordName record.jobId)
      rw [placed.found]
      refine ⟨record, ⟨rfl, index, ?_, saved⟩, ?_⟩
      · exact (List.findSome?_cons_of_isSome (by simp [replacedBy])).trans (if_pos rfl)
      · exact whole ▸ placed.holds (isRecordName_recordName _)
    · have different : recordName record.jobId ≠ recordName jobId := fun equal =>
        same (recordName_inj equal)
      rw [Directory.file_rename, if_neg different, if_neg (notDraft jobId)]
      refine ((consistent.stored jobId).mono keeps List.prefix_rfl).cons ?_
      exact if_neg different
  · rw [Function.update_apply] at isKept
    split_ifs at isKept with same
    obtain ⟨links, notRecord⟩ := consistent.linked position kept isKept
    refine ⟨links.rename_ne found (fun equal => same ?_) fun equal => notRecord ?_, notRecord⟩
    · exact consistent.apart isKept isDraft equal
    · exact equal ▸ isRecordName_recordName _
  · intro left right first second isFirst isSecond same
    rw [Function.update_apply] at isFirst isSecond
    split_ifs at isFirst isSecond
    exact consistent.apart isFirst isSecond same
  · exact consistent.logged.mono keeps List.prefix_rfl

end Kept

/-! ## Every reachable pool -/

section Pools

/-- The calls of a pool. -/
abbrev callsOf (pool : StorePool) : List StoreCall :=
  pool.threads.map Thread.tag

/-- The temporary file of a call. -/
def draftOf (pool : StorePool) (index : ℕ) : Option Draft :=
  pool.threads[index]?.bind fun thread => writing thread.past

variable {codec : JobCodec} {pool : StorePool} {index : ℕ}
  {thread : Thread files StoreCall StoreAnswer}

theorem draftOf_eq (selected : pool.threads[index]? = some thread) :
    draftOf pool index = writing thread.past := by
  rw [draftOf, selected, Option.bind_some]

theorem draftOf_spawned (call : StoreCall) :
    draftOf (pool.spawned (storeCode codec) call) = draftOf pool := by
  funext position
  unfold draftOf Pool.spawned
  rcases Nat.lt_or_ge position pool.threads.length with inside | outside
  · rw [List.getElem?_append_left inside]
  · rw [List.getElem?_append_right outside, List.getElem?_eq_none outside, List.getElem?_singleton]
    split_ifs <;> rfl

theorem draftOf_performed {op : FileOp} {rest : op.Result → Program files StoreAnswer}
    {outcome : op.Result × JobsDir} (selected : pool.threads[index]? = some thread) :
    draftOf (pool.performed index thread op rest outcome) =
      Function.update (draftOf pool) index (writing (⟨op, outcome.1⟩ :: thread.past)) := by
  funext position
  by_cases same : position = index
  · subst same
    rw [Function.update_self, draftOf_eq (Pool.getElem?_performed_self selected)]
    rfl
  · rw [Function.update_of_ne same, draftOf, Pool.getElem?_performed_of_ne same, draftOf]

variable (codec) in
/-- The directory of a pool agrees with what its calls have done. -/
def Agrees (pool : StorePool) : Prop :=
  Consistent codec pool.world.directory (callsOf pool) (draftOf pool) pool.log

/-- An operation which only looks at the directory. -/
theorem Agrees.look {op : FileOp} {rest : op.Result → Program files StoreAnswer}
    {outcome : op.Result × JobsDir} (agrees : Agrees codec pool)
    (selected : pool.threads[index]? = some thread)
    (unchanged : outcome.2.directory = pool.world.directory)
    (draft : writing (⟨op, outcome.1⟩ :: thread.past) = writing thread.past)
    (other : ∀ jobId, replacedBy jobId (index, ⟨op, outcome.1⟩) = none)
    (observed : Observed codec pool.world.directory (callsOf pool) pool.log ⟨op, outcome.1⟩) :
    Agrees codec (pool.performed index thread op rest outcome) := by
  unfold Agrees callsOf
  rw [Pool.map_tag_performed selected, draftOf_performed selected, draft, ← draftOf_eq selected,
    Function.update_eq_self, Pool.performed_world, unchanged]
  exact agrees.quiet other observed

/-- An operation which changes the temporary file of a call. -/
theorem agrees_performed {op : FileOp} {rest : op.Result → Program files StoreAnswer}
    {result : op.Result} {world : JobsDir} (selected : pool.threads[index]? = some thread)
    (consistent : Consistent codec world.directory (callsOf pool)
      (Function.update (draftOf pool) index (writing (⟨op, result⟩ :: thread.past)))
      ((index, ⟨op, result⟩) :: pool.log)) :
    Agrees codec (pool.performed index thread op rest (result, world)) := by
  unfold Agrees callsOf
  rw [Pool.map_tag_performed selected, draftOf_performed selected]
  exact consistent

variable (reach : Pool.Reaches (storeCode codec) fileExec FreshNames (.initial {}) pool)

include reach in
/-- What a call has seen is right about the log at that moment. -/
theorem observed_of_mem (agrees : Agrees codec pool) (selected : pool.threads[index]? = some thread)
    {event : Event files} (seen : event ∈ thread.past) :
    ∃ log, log <:+ pool.log ∧
      Observed codec pool.world.directory (callsOf pool) log event := by
  rw [Pool.past_of_reaches reach index thread selected] at seen
  obtain ⟨later, log, split⟩ := Pool.exists_of_mem_project seen
  have logged : Logged codec pool.world.directory (callsOf pool)
      (later ++ (index, event) :: log) := split ▸ Consistent.logged agrees
  exact ⟨log, split ▸ (List.suffix_cons _ _).trans (List.suffix_append _ _), logged.of_split⟩

include reach in
/-- A file which was opened under the name of a record holds a record. -/
theorem holds_of_mayRead {file : ℕ} (agrees : Agrees codec pool)
    (selected : pool.threads[index]? = some thread) (may : MayRead thread.past (.read file)) :
    ∃ bytes, pool.world.directory.Holds IsRecordName file bytes := by
  obtain ⟨name, isRecord, opened⟩ := may
  obtain ⟨jobId, rfl⟩ := exists_recordName isRecord
  obtain ⟨log, -, observed⟩ := observed_of_mem reach agrees selected opened
  obtain ⟨record, -, holds⟩ := observed jobId rfl
  exact ⟨codec.dump record, holds⟩

/-- Only a save changes files. -/
theorem exists_save_of_allowed {call : StoreCall} {past : List (Event files)} {op : FileOp}
    (allowed : (storeProtocol codec).allowed call past op) (writes : ¬ MayRead past op) :
    ∃ record, call = .save record ∧ MaySave codec record past op := by
  cases call with
  | save record => exact ⟨record, rfl, allowed⟩
  | _ => exact absurd allowed writes

theorem mayRead_of_allowed {call : StoreCall} {past : List (Event files)} {file : ℕ}
    (allowed : (storeProtocol codec).allowed call past (.read file)) :
    MayRead past (.read file) := by
  cases call with
  | save record => exact allowed.elim
  | _ => exact allowed

theorem fileExec_createTemp {chance : Chance} {target : String} {world : JobsDir}
    (fresh : world.directory.file (tempName target chance.hex) = none) :
    fileExec chance (.createTemp target) world =
      ((tempName target chance.hex, world.directory.contents.length),
        { world with
          directory := world.directory.add (tempName target chance.hex)
          listings := world.listings.map (·.place (tempName target chance.hex)) }) := by
  simp only [fileExec, Directory.create_of_none fresh]

theorem fileExec_replace {chance : Chance} {source : String} {world : JobsDir} {file : ℕ}
    (found : world.directory.file source = some file) (target : String) :
    fileExec chance (.replace source target) world =
      (true, { world with
        directory := world.directory.rename source target found
        listings := world.listings.map (·.rename source target) }) := by
  simp only [fileExec, Directory.replace_of_file found, if_true]

/-- A temporary file is created under a new name. -/
theorem fresh_of_freshNames {chance : Chance} {target : String}
    (selected : pool.threads[index]?.bind Thread.next = some (.createTemp target))
    (permitted : FreshNames pool (.advance index chance)) :
    pool.world.directory.file (tempName target chance.hex) = none := by
  simpa only [FreshNames, selected] using permitted

theorem agrees_of_reaches
    (reach : Pool.Reaches (storeCode codec) fileExec FreshNames (.initial {}) pool) :
    Agrees codec pool := by
  refine Pool.invariant_of_reaches ?_ ?_ ?_ reach
  · exact ⟨fun _ => rfl, nofun, nofun, trivial⟩
  · intro pool call _ agrees _
    unfold Agrees callsOf
    rw [draftOf_spawned, Pool.spawned, List.map_append]
    exact agrees.spawn (List.prefix_append _ _)
  · intro pool index thread op rest chance reach agrees permitted selected head
    have sound := sound_of_reaches reach thread (List.mem_of_getElem? selected)
    have allowed := sound.allowed head
    have consistent :
        Consistent codec pool.world.directory (callsOf pool) (draftOf pool) pool.log := agrees
    have own := draftOf_eq selected
    have tagged : (callsOf pool)[index]? = some thread.tag := by
      rw [List.getElem?_map, selected]
      rfl
    cases op with
    | mkdir => exact agrees.look selected rfl rfl (fun _ => rfl) trivial
    | isDir => exact agrees.look selected rfl rfl (fun _ => rfl) trivial
    | scandir => exact agrees.look selected rfl rfl (fun _ => rfl) trivial
    | entries => exact agrees.look selected rfl rfl (fun _ => rfl) trivial
    | isFile name =>
        refine agrees.look selected rfl rfl (fun _ => rfl) fun jobId same => ?_
        exact same ▸ (consistent.stored jobId).isSome
    | openFile name =>
        refine agrees.look selected rfl rfl (fun _ => rfl) fun jobId same => ?_
        exact same ▸ consistent.stored jobId
    | read file =>
        obtain ⟨bytes, holds⟩ := holds_of_mayRead reach agrees selected (mayRead_of_allowed allowed)
        refine agrees.look selected rfl rfl (fun _ => rfl) ⟨?_, holds.names⟩
        have isRead : pool.world.directory.contents[file]?.getD [] = bytes := by
          rw [holds.contents, Option.getD_some]
        exact holds.contents.trans (congrArg some isRead.symm)
    | createTemp target =>
        have next : pool.threads[index]?.bind Thread.next = some (.createTemp target) := by
          rw [selected]
          exact Thread.next_eq_some.mpr ⟨rest, head⟩
        have fresh := fresh_of_freshNames next permitted
        rw [fileExec_createTemp fresh]
        refine agrees_performed selected ?_
        exact consistent.add fresh (not_isRecordName_tempName _ _) (fun _ => rfl) fun _ => trivial
    | append file byte =>
        obtain ⟨record, -, draft, isDraft, rfl⟩ := exists_save_of_allowed allowed not_false
        refine agrees_performed selected ?_
        rw [writing, isDraft]
        exact consistent.append (own.trans isDraft) byte (fun _ => rfl) fun _ => trivial
    | replace source target =>
        obtain ⟨record, call, draft, isDraft, rfl, whole, rfl⟩ :=
          exists_save_of_allowed allowed not_false
        have isOwn := own.trans isDraft
        have found := (consistent.linked index draft isOwn).1.found
        rw [fileExec_replace found]
        refine agrees_performed selected ?_
        exact consistent.rename isOwn whole (call ▸ tagged) found

/-! ### Listings -/

/-- The names of records in a listing were given once, and their files are still there. -/
structure Settled (directory : Directory) (listing : DirectoryListing) : Prop where
  distinct : ((listing.names ++ listing.placed).filter fun name => IsRecordName name).Nodup
  present : ∀ name ∈ listing.names ++ listing.placed, IsRecordName name →
    directory.file name ≠ none

section Settled

variable {directory changed : Directory} {listing : DirectoryListing}

variable (directory) in
theorem settled_of_names : Settled directory { names := directory.names } := by
  constructor
  · rw [List.append_nil]
    exact directory.nodup_names.filter _
  · rw [List.append_nil]
    exact fun name member _ => Directory.file_ne_none_of_mem member

theorem Settled.mono (settled : Settled directory listing)
    (keeps : ∀ name, IsRecordName name → directory.file name ≠ none → changed.file name ≠ none) :
    Settled changed listing :=
  ⟨settled.distinct, fun name member isRecord =>
    keeps name isRecord (settled.present name member isRecord)⟩

/-- A temporary file is added. -/
theorem Settled.add (settled : Settled directory listing) {name : String}
    (temporary : ¬ IsRecordName name) : Settled (directory.add name) (listing.place name) := by
  have names : (listing.place name).names ++ (listing.place name).placed =
      listing.names ++ name :: listing.placed := rfl
  constructor
  · rw [names, List.filter_append, List.filter_cons_of_neg (by simpa using temporary),
      ← List.filter_append]
    exact settled.distinct
  · rw [names]
    intro other member isRecord
    have different : name ≠ other := by
      rintro rfl
      exact temporary isRecord
    rw [Directory.file_add, if_neg different]
    refine settled.present other ?_ isRecord
    rcases List.mem_append.mp member with first | later
    · exact List.mem_append_left _ first
    · exact List.mem_append_right _ (List.mem_of_ne_of_mem different.symm later)

/-- A temporary file is put in place under the name of a record for which there was no file. -/
theorem Settled.rename (settled : Settled directory listing) {source target : String} {file : ℕ}
    (found : directory.file source = some file) (temporary : ¬ IsRecordName source)
    (fresh : directory.file target = none) :
    Settled (directory.rename source target found) (listing.rename source target) := by
  have names : (listing.rename source target).names ++ (listing.rename source target).placed =
      listing.names ++ target :: listing.placed := rfl
  have kept (name : String) (isRecord : IsRecordName name)
      (there : name = target ∨ directory.file name ≠ none) :
      (directory.rename source target found).file name ≠ none := by
    rw [Directory.file_rename]
    split_ifs with same gone
    · exact nofun
    · exact absurd (gone ▸ isRecord) temporary
    · exact there.resolve_left (Ne.symm same)
  constructor
  · rw [names]
    by_cases isRecord : IsRecordName target
    · refine (List.perm_middle.filter _).nodup_iff.mpr ?_
      rw [List.filter_cons, if_pos (decide_eq_true isRecord), List.nodup_cons]
      refine ⟨fun member => ?_, settled.distinct⟩
      exact settled.present target (List.mem_filter.mp member).1 isRecord fresh
    · rw [List.filter_append, List.filter_cons_of_neg (by simpa using isRecord),
        ← List.filter_append]
      exact settled.distinct
  · rw [names]
    intro name member isRecord
    refine kept name isRecord ?_
    rcases List.mem_cons.mp (List.perm_middle.mem_iff.mp member) with rfl | old
    · exact .inl rfl
    · exact .inr (settled.present name old isRecord)

end Settled

/-- A listing which a call has begun is settled, and the names of records which a call was shown are
distinct. -/
structure Steady (pool : StorePool) : Prop where
  begun : ∀ thread ∈ pool.threads, ∀ number, listingOf thread.past = some number →
    ∃ listing, pool.world.listings[number]? = some listing ∧
      Settled pool.world.directory listing
  shown : ∀ thread ∈ pool.threads, ∀ number names, ⟨.entries number, names⟩ ∈ thread.past →
    (names.filter fun name => IsRecordName name).Nodup

/-- An operation which leaves the begun listings settled, and shows distinct names. -/
theorem Steady.performed {op : FileOp} {rest : op.Result → Program files StoreAnswer}
    {outcome : op.Result × JobsDir} (steady : Steady pool)
    (selected : pool.threads[index]? = some thread)
    (keeps : ∀ other ∈ pool.threads, ∀ number listing, listingOf other.past = some number →
      pool.world.listings[number]? = some listing → Settled pool.world.directory listing →
      ∃ later, outcome.2.listings[number]? = some later ∧ Settled outcome.2.directory later)
    (own : ∀ number, listingOf (⟨op, outcome.1⟩ :: thread.past) = some number →
      ∃ listing, outcome.2.listings[number]? = some listing ∧
        Settled outcome.2.directory listing)
    (shows : ∀ number names, Event.mk (I := files) op outcome.1 = ⟨.entries number, names⟩ →
      (names.filter fun name => IsRecordName name).Nodup) :
    Steady (pool.performed index thread op rest outcome) := by
  constructor
  · intro other member number begun
    rcases Pool.mem_performed member with old | rfl
    · obtain ⟨listing, found, settled⟩ := steady.begun other old number begun
      exact keeps other old number listing begun found settled
    · exact own number begun
  · intro other member number names seen
    rcases Pool.mem_performed member with old | rfl
    · exact steady.shown other old number names seen
    · rcases List.mem_cons.mp seen with same | earlier
      · exact shows number names same.symm
      · exact steady.shown thread (List.mem_of_getElem? selected) number names earlier

/-- An operation which neither begins a listing nor shows names. -/
theorem Steady.other {op : FileOp} {rest : op.Result → Program files StoreAnswer}
    {outcome : op.Result × JobsDir} (steady : Steady pool)
    (selected : pool.threads[index]? = some thread) (noListing : op ≠ .scandir)
    (noNames : ∀ number, op ≠ .entries number)
    (keeps : ∀ other ∈ pool.threads, ∀ number listing, listingOf other.past = some number →
      pool.world.listings[number]? = some listing → Settled pool.world.directory listing →
      ∃ later, outcome.2.listings[number]? = some later ∧ Settled outcome.2.directory later) :
    Steady (pool.performed index thread op rest outcome) := by
  refine steady.performed selected keeps (fun number begun => ?_) fun number names same => ?_
  · cases op with
    | scandir => exact absurd rfl noListing
    | _ => cases begun
  · exact absurd (congrArg Event.op same) (noNames number)

/-- A call which begins has neither begun a listing nor been shown names. -/
theorem Steady.spawned (steady : Steady pool) (call : StoreCall) :
    Steady (pool.spawned (storeCode codec) call) := by
  have past {other : Thread files StoreCall StoreAnswer}
      (member : other ∈ (pool.spawned (storeCode codec) call).threads) :
      other ∈ pool.threads ∨ other.past = [] := by
    rcases List.mem_append.mp member with old | new
    · exact .inl old
    · exact .inr (List.mem_singleton.mp new ▸ rfl)
  constructor
  · intro other member number begun
    rcases past member with old | nothing
    · exact steady.begun other old number begun
    · rw [nothing] at begun
      cases begun
  · intro other member number names seen
    rcases past member with old | nothing
    · exact steady.shown other old number names seen
    · rw [nothing] at seen
      cases seen

theorem listing_of_entries {call : StoreCall} {past : List (Event files)} {number : ℕ}
    (allowed : (storeProtocol codec).allowed call past (.entries number)) :
    listingOf past = some number := by
  cases call with
  | save record => exact allowed.elim
  | _ => exact allowed

theorem steady_of_reaches
    (reach : Pool.Reaches (storeCode codec) fileExec SavesApart (.initial {}) pool) :
    Steady pool := by
  refine Pool.invariant_of_reaches ?_ ?_ ?_ reach
  · exact ⟨fun _ member => absurd member List.not_mem_nil,
      fun _ member => absurd member List.not_mem_nil⟩
  · exact fun pool call _ steady _ => steady.spawned call
  · intro pool index thread op rest chance reach steady permitted selected head
    have weaker := reach.mono fun _ _ both => both.1
    have sound := sound_of_reaches weaker thread (List.mem_of_getElem? selected)
    have allowed := sound.allowed head
    have consistent : Consistent codec pool.world.directory (callsOf pool) (draftOf pool)
        pool.log := agrees_of_reaches weaker
    have next : pool.threads[index]?.bind Thread.next = some op := by
      rw [selected]
      exact Thread.next_eq_some.mpr ⟨rest, head⟩
    cases op with
    | mkdir | isDir | isFile | openFile | read =>
        exact steady.other selected nofun nofun fun _ _ _ listing _ found settled =>
          ⟨listing, found, settled⟩
    | append file byte =>
        exact steady.other selected nofun nofun fun _ _ _ listing _ found settled =>
          ⟨listing, found, settled.mono fun _ _ there => there⟩
    | scandir =>
        refine steady.performed selected (fun _ _ number listing _ found settled => ?_)
          (fun number begun => ?_) fun number names same => ?_
        · have inside := (List.getElem?_eq_some_iff.mp found).1
          exact ⟨listing, (List.getElem?_append_left inside).trans found, settled⟩
        · obtain rfl : pool.world.listings.length = number := Option.some.inj begun
          exact ⟨_, List.getElem?_concat_length, settled_of_names pool.world.directory⟩
        · cases congrArg Event.op same
    | entries number =>
        refine steady.performed selected (fun _ _ _ listing _ found settled =>
          ⟨listing, found, settled⟩) (fun other begun => ?_) fun other names same => ?_
        · cases begun
        · obtain ⟨listing, found, settled⟩ := steady.begun thread (List.mem_of_getElem? selected)
            number (listing_of_entries allowed)
          cases same
          dsimp only [fileExec]
          rw [found]
          exact (listing.permits_shown chance.chosen).nodup settled.distinct
    | createTemp target =>
        have fresh := fresh_of_freshNames next permitted.1
        rw [fileExec_createTemp fresh]
        refine steady.other selected nofun nofun fun _ _ _ listing _ found settled => ?_
        exact ⟨_, List.getElem?_map.trans (congrArg (Option.map _) found),
          settled.add (not_isRecordName_tempName _ _)⟩
    | replace source target =>
        obtain ⟨record, call, draft, isDraft, rfl, whole, rfl⟩ :=
          exists_save_of_allowed allowed not_false
        obtain ⟨links, temporary⟩ :=
          consistent.linked index draft ((draftOf_eq selected).trans isDraft)
        have undisturbed : pool.world.directory.file (recordName record.jobId) = none ∨
            ∀ thread ∈ pool.threads, listingOf thread.past = none := by
          simpa only [ListsUndisturbed, next] using permitted.2
        rw [fileExec_replace links.found]
        refine steady.other selected nofun nofun
          fun other member number listing begun found settled => ?_
        rcases undisturbed with fresh | none
        · exact ⟨_, List.getElem?_map.trans (congrArg (Option.map _) found),
            settled.rename links.found temporary fresh⟩
        · rw [none other member] at begun
          cases begun

/-- The text of a record in place is the one of the newest record. -/
theorem Shown.parse_eq {directory : Directory} {calls : List StoreCall} {log : FileLog}
    {jobId : String} {file : ℕ} {bytes : List UInt8}
    (readBack : ∀ record, .save record ∈ calls → codec.parse (codec.dump record) = some record)
    (shown : Shown codec directory calls log jobId (some file))
    (holds : directory.Holds IsRecordName file bytes) :
    ∃ record, codec.parse bytes = some record ∧ Newest calls log jobId record := by
  obtain ⟨record, newest, stored⟩ := shown
  obtain rfl : codec.dump record = bytes :=
    Option.some.inj (stored.contents.symm.trans holds.contents)
  obtain ⟨index, -, saved⟩ := newest.2
  exact ⟨record, readBack record (List.mem_of_getElem? saved), newest⟩

/-- What a load returns which has done nothing before a moment. -/
def MayReturn (calls : List StoreCall) (log began : FileLog) (jobId : String) :
    Option JobRecord → Prop
  | none => newestSave jobId began = none
  | some record => ∃ seen, began <:+ seen ∧ seen <:+ log ∧ Newest calls seen jobId record

variable (readBack : ∀ record, .save record ∈ callsOf pool →
  codec.parse (codec.dump record) = some record)

include reach in
/-- The events of a load in the log. -/
theorem observed_of_project {event : Event files} {past : List (Event files)} {log : FileLog}
    (suffix : log <:+ pool.log) (events : Pool.project index log = event :: past) :
    ∃ seen, (index, event) :: seen <:+ log ∧ Pool.project index seen = past ∧
      Observed codec pool.world.directory (callsOf pool) seen event := by
  obtain ⟨later, seen, rfl, earlier⟩ := Pool.exists_of_project_eq_cons events
  obtain ⟨newer, whole⟩ := suffix
  have logged : Logged codec pool.world.directory (callsOf pool)
      ((newer ++ later) ++ (index, event) :: seen) := by
    rw [List.append_assoc, whole]
    exact Consistent.logged (agrees_of_reaches reach)
  exact ⟨seen, List.suffix_append _ _, earlier, logged.of_split⟩

/-- A moment before which a call has done nothing is before its first event. -/
theorem suffix_of_project_eq_nil {event : Event files} {seen log began : FileLog}
    (nothing : Pool.project index began = []) (isSeen : (index, event) :: seen <:+ log)
    (isBegan : began <:+ log) : began <:+ seen := by
  rcases List.suffix_or_suffix_of_suffix isBegan isSeen with earlier | later
  · rcases List.suffix_cons_iff.mp earlier with rfl | before
    · rw [Pool.project_cons_self] at nothing
      cases nothing
    · exact before
  · obtain ⟨rest, rfl⟩ := later
    simp [Pool.project] at nothing

include reach in
/-- A load opens the file of its job after there was one, so it finds one. -/
theorem shown_of_opened {jobId : String} {opened : Option ℕ} {log : FileLog}
    (suffix : log <:+ pool.log)
    (events : Pool.project index log =
      [⟨.openFile (recordName jobId), opened⟩, ⟨.isFile (recordName jobId), true⟩]) :
    ∃ file seen, opened = some file ∧
      (index, ⟨.openFile (recordName jobId), opened⟩) :: seen <:+ log ∧
      Shown codec pool.world.directory (callsOf pool) seen jobId (some file) := by
  obtain ⟨seen, opening, looked, isOpen⟩ := observed_of_project reach suffix events
  have seenInLog : seen <:+ pool.log := ((List.suffix_cons _ _).trans opening).trans suffix
  obtain ⟨first, looking, -, present⟩ := observed_of_project reach seenInLog looked
  have shown := isOpen jobId rfl
  cases opened with
  | some file => exact ⟨file, seen, rfl, opening, shown⟩
  | none =>
      -- Records are never removed: what was there is still there.
      have before : first <:+ seen := (List.suffix_cons _ _).trans looking
      have isTrue := present jobId rfl
      rw [newestSave_eq_none_of_suffix before shown] at isTrue
      cases isTrue

include reach readBack in
theorem mayReturn_of_loaded {jobId : String} {answer : StoreAnswer}
    (selected : pool.threads[index]? = some thread)
    (loaded : Loaded codec jobId thread.past answer) :
    ∃ found, answer = .loaded found ∧ ∀ began, began <:+ pool.log →
      Pool.project index began = [] → MayReturn (callsOf pool) pool.log began jobId found := by
  have events := (Pool.past_of_reaches reach index thread selected).symm
  generalize thread.past = past at loaded events
  cases loaded with
  | missing =>
      obtain ⟨seen, looking, -, absent⟩ := observed_of_project reach List.suffix_rfl events
      refine ⟨none, rfl, fun began isBegan nothing => ?_⟩
      have before := suffix_of_project_eq_nil nothing looking isBegan
      have isNone : newestSave jobId seen = none := by simpa using absent jobId rfl
      exact newestSave_eq_none_of_suffix before isNone
  | vanished =>
      obtain ⟨file, -, isSome, -⟩ := shown_of_opened reach List.suffix_rfl events
      cases isSome
  | read file bytes =>
      obtain ⟨log, reading, others, holds⟩ := observed_of_project reach List.suffix_rfl events
      have logged : log <:+ pool.log := (List.suffix_cons _ _).trans reading
      obtain ⟨other, seen, same, opening, shown⟩ := shown_of_opened reach logged others
      obtain rfl : file = other := Option.some.inj same
      obtain ⟨record, parsed, newest⟩ := shown.parse_eq readBack holds
      refine ⟨some record, by rw [parsed]; rfl, fun began isBegan nothing => ?_⟩
      have inLog := opening.trans logged
      exact ⟨seen, suffix_of_project_eq_nil nothing inLog isBegan,
        (List.suffix_cons _ _).trans inLog, newest⟩

include reach readBack in
/-- Whatever was read under the name of a record was the newest record of its job. -/
theorem newest_of_readUnder {name : String} {record : JobRecord}
    (selected : pool.threads[index]? = some thread) (isRecord : IsRecordName name)
    (read : ReadUnder codec thread.past name record) :
    name = recordName record.jobId ∧
      ∃ seen, seen <:+ pool.log ∧ Newest (callsOf pool) seen record.jobId record := by
  have agrees := agrees_of_reaches reach
  obtain ⟨file, bytes, opened, wasRead, parsed⟩ := read
  obtain ⟨jobId, rfl⟩ := exists_recordName isRecord
  obtain ⟨seen, suffix, isOpen⟩ := observed_of_mem reach agrees selected opened
  obtain ⟨-, -, holds⟩ : ∃ log, log <:+ pool.log ∧
      pool.world.directory.Holds IsRecordName file bytes :=
    observed_of_mem reach agrees selected wasRead
  obtain ⟨other, again, newest⟩ := (isOpen jobId rfl).parse_eq readBack holds
  obtain rfl : record = other := Option.some.inj (parsed.symm.trans again)
  obtain rfl : record.jobId = jobId := newest.1
  exact ⟨rfl, seen, suffix, newest⟩

include reach readBack in
theorem newest_of_listed {answer : StoreAnswer} (selected : pool.threads[index]? = some thread)
    (listed : Listed codec thread.past answer) :
    ∃ records, answer = .listed records ∧
      (∀ record ∈ records,
        ∃ seen, seen <:+ pool.log ∧ Newest (callsOf pool) seen record.jobId record) ∧
      (Steady pool → (records.map JobRecord.jobId).Nodup) := by
  obtain ⟨names, records, shown, ⟨pairs, rfl, under, reads⟩, rfl⟩ := listed
  have isRead : ∀ pair ∈ pairs, pair.1 = recordName pair.2.jobId ∧
      ∃ seen, seen <:+ pool.log ∧ Newest (callsOf pool) seen pair.2.jobId pair.2 := by
    intro pair member
    have inNames := under.subset (List.mem_map_of_mem member)
    exact newest_of_readUnder reach readBack selected
      (of_decide_eq_true (List.mem_filter.mp inNames).2) (reads pair member)
  have sorted := List.perm_insertionSort
    (fun left right : JobRecord => right.submittedAt ≤ left.submittedAt) (pairs.map Prod.snd)
  refine ⟨_, rfl, fun record member => ?_, fun steady => (sorted.map _).nodup_iff.mpr ?_⟩
  · obtain ⟨pair, inPairs, rfl⟩ := List.mem_map.mp (sorted.mem_iff.mp member)
    exact (isRead pair inPairs).2
  · have distinct : (names.filter fun name => IsRecordName name).Nodup := by
      rcases shown with rfl | ⟨number, seen⟩
      · exact .nil
      · exact steady.shown thread (List.mem_of_getElem? selected) number names seen
    have named : pairs.map Prod.fst =
        ((pairs.map Prod.snd).map JobRecord.jobId).map recordName := by
      rw [List.map_map, List.map_map]
      exact List.map_congr_left fun pair member => (isRead pair member).1
    exact List.Nodup.of_map recordName (named ▸ distinct.sublist under)

/-- A load returns a whole record which is not older than the newest one of its job when it began,
or none if there was none.  A listing returns whole records, each the newest one of its job at some
moment, and one of a job at most if no record took the place of another one while names were
read. -/
theorem job_files_atomic (codec : JobCodec) {pool : StorePool}
    (reach : Pool.Reaches (storeCode codec) fileExec FreshNames (.initial {}) pool)
    (readBack : ∀ record, .save record ∈ callsOf pool →
      codec.parse (codec.dump record) = some record)
    {index : ℕ} {thread : Thread files StoreCall StoreAnswer} {answer : StoreAnswer}
    (selected : pool.threads[index]? = some thread) (returned : thread.rest = .done answer) :
    (∀ jobId, thread.tag = .load jobId → ∃ found, answer = .loaded found ∧
      ∀ began, began <:+ pool.log → Pool.project index began = [] →
        MayReturn (callsOf pool) pool.log began jobId found) ∧
    (thread.tag = .listAll → ∃ records, answer = .listed records ∧
      (∀ record ∈ records,
        ∃ seen, seen <:+ pool.log ∧ Newest (callsOf pool) seen record.jobId record) ∧
      (Pool.Reaches (storeCode codec) fileExec SavesApart (.initial {}) pool →
        (records.map JobRecord.jobId).Nodup)) := by
  have sound := sound_of_reaches reach thread (List.mem_of_getElem? selected)
  have finished := sound.finished returned
  constructor
  · intro jobId call
    rw [call] at finished
    exact mayReturn_of_loaded reach readBack selected finished
  · intro call
    rw [call] at finished
    obtain ⟨records, same, newest, distinct⟩ := newest_of_listed reach readBack selected finished
    exact ⟨records, same, newest, fun apart => distinct (steady_of_reaches apart)⟩

end Pools

namespace Sample

/-- A job which was submitted. -/
def submitted : JobRecord where
  jobId := "JOB-0"
  experimentId := "ZC-VPN-EXP-001"
  executionContext := .experimentRun
  status := .queued
  submittedAt := 0
  updatedAt := 0

/-- The same job when it runs. -/
def started : JobRecord :=
  { submitted with status := .running }

/-- The text of a record of the job. -/
def recordText (record : JobRecord) : String :=
  "\x7b\n  \"job_id\": \"" ++ record.jobId ++
  "\",\n  \"experiment_id\": \"" ++ record.experimentId ++
  "\",\n  \"execution_context\": \"" ++ StringEnum.value record.executionContext ++
  "\",\n  \"status\": \"" ++ StringEnum.value record.status ++
  "\",\n  \"submitted_at\": \"1970-01-01T00:00:00Z\"" ++
  ",\n  \"updated_at\": \"1970-01-01T00:00:00Z\",\n  \"result\": null,\n  \"error\": null\n\x7d"

/-- The texts of the two records. -/
def recordCodec : JobCodec where
  dump record := (recordText record).toUTF8.data.toList
  parse bytes := [submitted, started].find? fun record =>
    (recordText record).toUTF8.data.toList = bytes

/-- Let a call perform operations; a listing is shown some names if it may be. -/
def advance (index count : ℕ) (chosen : List String := []) : List (Move StoreCall Chance) :=
  List.replicate count (.advance index { hex := s!"a{index}", chosen })

/-- The job is loaded while its second record is written, and listed afterwards. -/
def moves : List (Move StoreCall Chance) :=
  .spawn (.save submitted) :: .spawn (.save started) :: .spawn (.load "JOB-0") :: .spawn .listAll ::
    (advance 0 (3 + (recordCodec.dump submitted).length) ++ advance 1 10 ++ advance 2 3 ++
      advance 1 ((recordCodec.dump started).length - 7) ++ advance 3 5)

/-- The second record of the job is put in place while the names of the directory are read. -/
def disturbed : List (Move StoreCall Chance) :=
  .spawn (.save submitted) :: .spawn (.save started) :: .spawn .listAll ::
    (advance 0 (3 + (recordCodec.dump submitted).length) ++ advance 2 2 ++
      advance 1 (3 + (recordCodec.dump started).length) ++
        advance 2 5 ["JOB-0.json", "JOB-0.json"])

/-- What a call has returned. -/
def answerAt (pool : StorePool) (index : ℕ) : Option StoreAnswer :=
  match pool.threads[index]? with
  | some ⟨_, _, .done answer⟩ => some answer
  | _ => none

theorem exists_of_answerAt {pool : StorePool} {index : ℕ} {answer : StoreAnswer}
    (answered : answerAt pool index = some answer) :
    ∃ thread, pool.threads[index]? = some thread ∧ thread.rest = .done answer := by
  unfold answerAt at answered
  split at answered
  case h_1 tag past value selected =>
    cases answered
    exact ⟨_, selected, rfl⟩
  case h_2 => cases answered

theorem readBack : ∀ record, .save record ∈ [StoreCall.save submitted, .save started, .load "JOB-0",
    .listAll] → recordCodec.parse (recordCodec.dump record) = some record := by
  intro record member
  simp only [List.mem_cons, StoreCall.save.injEq, reduceCtorEq, List.not_mem_nil,
    or_false] at member
  rcases member with rfl | rfl
  · decide +kernel
  · decide +kernel

end Sample

/-- A load sees the first record of a job and a later listing the second one. -/
theorem job_files_atomic_of_sample : ∃ pool : StorePool,
    (∀ began, began <:+ pool.log → Pool.project 2 began = [] →
      MayReturn (callsOf pool) pool.log began "JOB-0" (some Sample.submitted)) ∧
    (∃ seen, seen <:+ pool.log ∧ Newest (callsOf pool) seen "JOB-0" Sample.started) ∧
    ([Sample.started].map JobRecord.jobId).Nodup := by
  obtain ⟨pool, apart, checked⟩ :
      ∃ pool, Pool.Reaches (storeCode Sample.recordCodec) fileExec SavesApart (.initial {}) pool ∧
        decide (callsOf pool =
            [.save Sample.submitted, .save Sample.started, .load "JOB-0", .listAll] ∧
          Sample.answerAt pool 2 = some (.loaded (some Sample.submitted)) ∧
          Sample.answerAt pool 3 = some (.listed [Sample.started])) = true :=
    Pool.exists_reaches Sample.moves (by decide +kernel)
  obtain ⟨calls, loaded, listed⟩ := of_decide_eq_true checked
  have reach := apart.mono fun _ _ both => both.1
  have readBack := calls.symm ▸ Sample.readBack
  obtain ⟨load, isLoad, loadRest⟩ := Sample.exists_of_answerAt loaded
  obtain ⟨list, isList, listRest⟩ := Sample.exists_of_answerAt listed
  have tags : load.tag = .load "JOB-0" ∧ list.tag = .listAll := by
    have loadTag := congrArg (·[2]?) calls
    have listTag := congrArg (·[3]?) calls
    simpa [callsOf, isLoad, isList] using And.intro loadTag listTag
  obtain ⟨found, same, returns⟩ :=
    (job_files_atomic Sample.recordCodec reach readBack isLoad loadRest).1 "JOB-0" tags.1
  obtain ⟨records, equal, newest, distinct⟩ :=
    (job_files_atomic Sample.recordCodec reach readBack isList listRest).2 tags.2
  cases same
  cases equal
  exact ⟨pool, returns, newest Sample.started List.mem_cons_self, distinct apart⟩

/-- A job is listed twice when its record takes the place of another one meanwhile. -/
theorem job_listed_twice : ∃ pool : StorePool,
    Pool.Reaches (storeCode Sample.recordCodec) fileExec FreshNames (.initial {}) pool ∧
    (∀ record, .save record ∈ callsOf pool →
      Sample.recordCodec.parse (Sample.recordCodec.dump record) = some record) ∧
    ∃ thread records, pool.threads[2]? = some thread ∧ thread.tag = .listAll ∧
      thread.rest = .done (.listed records) ∧ ¬(records.map JobRecord.jobId).Nodup := by
  obtain ⟨pool, reach, checked⟩ :
      ∃ pool, Pool.Reaches (storeCode Sample.recordCodec) fileExec FreshNames (.initial {}) pool ∧
        decide (callsOf pool = [.save Sample.submitted, .save Sample.started, .listAll] ∧
          Sample.answerAt pool 2 = some (.listed [Sample.started, Sample.started])) = true :=
    Pool.exists_reaches Sample.disturbed (by decide +kernel)
  obtain ⟨calls, listed⟩ := of_decide_eq_true checked
  obtain ⟨list, isList, listRest⟩ := Sample.exists_of_answerAt listed
  have tag : list.tag = .listAll := by
    have listTag := congrArg (·[2]?) calls
    simpa [callsOf, isList] using listTag
  refine ⟨pool, reach, fun record member => ?_, list, _, isList, tag, listRest, by decide⟩
  refine Sample.readBack record ?_
  rw [calls] at member
  simpa using member

end ZeroShield.Jobs
