import ZeroShield.Jobs.JobStore

/-!
# What the calls of the job store do

A save writes to a file of its own and puts it in place when it is whole.  A load and a listing read
only files which they have opened under the name of a record.
-/

namespace ZeroShield.Jobs

open Foundation Platform

/-! ## The protocol -/

/-- A temporary file and what was written to it. -/
structure Draft where
  name : String
  file : ℕ
  written : List UInt8

/-- The temporary file of a call which was not put in place yet. -/
def writing : List (Event files) → Option Draft
  | [] => none
  | ⟨.createTemp _, (name, file)⟩ :: _ => some ⟨name, file, []⟩
  | ⟨.append _ byte, _⟩ :: past =>
      (writing past).map fun draft => { draft with written := draft.written ++ [byte] }
  | ⟨.replace _ _, _⟩ :: _ => none
  | _ :: past => writing past

section Calls

variable (codec : JobCodec)

/-- What a save may do: it writes its text to its own file and puts it in place when it is whole. -/
def MaySave (record : JobRecord) (past : List (Event files)) : FileOp → Prop
  | .mkdir => writing past = none
  | .createTemp target => writing past = none ∧ target = recordName record.jobId
  | .append file _ => ∃ draft, writing past = some draft ∧ draft.file = file
  | .replace source target => ∃ draft, writing past = some draft ∧ draft.name = source ∧
      draft.written = codec.dump record ∧ target = recordName record.jobId
  | _ => False

/-- What a load or a listing may do: it reads files which it has opened under the name of a
record. -/
def MayRead (past : List (Event files)) : FileOp → Prop
  | .isFile _ | .isDir | .scandir => True
  | .entries listing => listingOf past = some listing
  | .openFile name => IsRecordName name
  | .read file => ∃ name, IsRecordName name ∧ ⟨.openFile name, some file⟩ ∈ past
  | _ => False

/-- A load has returned what it has seen. -/
inductive Loaded (jobId : String) : List (Event files) → StoreAnswer → Prop
  | missing : Loaded jobId [⟨.isFile (recordName jobId), false⟩] (.loaded none)
  | vanished :
      Loaded jobId [⟨.openFile (recordName jobId), none⟩,
        ⟨.isFile (recordName jobId), true⟩] .failed
  | read (file : ℕ) (bytes : List UInt8) :
      Loaded jobId
        [⟨.read file, bytes⟩, ⟨.openFile (recordName jobId), some file⟩,
          ⟨.isFile (recordName jobId), true⟩]
        ((codec.parse bytes).elim .failed fun record => .loaded (some record))

/-- A record was read under a name. -/
def ReadUnder (past : List (Event files)) (name : String) (record : JobRecord) : Prop :=
  ∃ (file : ℕ) (bytes : List UInt8), ⟨.openFile name, some file⟩ ∈ past ∧
    ⟨.read file, bytes⟩ ∈ past ∧ codec.parse bytes = some record

/-- Records were read under different names, in their order. -/
def ReadAll (past : List (Event files)) (names : List String) (records : List JobRecord) : Prop :=
  ∃ pairs : List (String × JobRecord), pairs.map Prod.snd = records ∧
    (pairs.map Prod.fst).Sublist names ∧ ∀ pair ∈ pairs, ReadUnder codec past pair.1 pair.2

/-- A listing has returned records which it has read under the names of records which it was
shown. -/
def Listed (past : List (Event files)) (answer : StoreAnswer) : Prop :=
  ∃ names records, (names = [] ∨ ∃ listing, ⟨.entries listing, names⟩ ∈ past) ∧
    ReadAll codec past (names.filter fun name => IsRecordName name) records ∧
    answer = .listed (records.insertionSort fun left right => right.submittedAt ≤ left.submittedAt)

/-- What the calls of the store do. -/
def storeProtocol : Protocol files StoreCall StoreAnswer where
  allowed
    | .save record, past, op => MaySave codec record past op
    | _, past, op => MayRead past op
  promised _ _ := True
  finished
    | .save _, _, _ => True
    | .load jobId, past, answer => Loaded codec jobId past answer
    | .listAll, past, answer => Listed codec past answer

variable {codec}

theorem ensures_writeBytes {record : JobRecord} {file : ℕ} {bytes : List UInt8}
    {past : List (Event files)} {draft : Draft} (isDraft : writing past = some draft)
    (own : draft.file = file) (whole : draft.written ++ bytes = codec.dump record) :
    (storeProtocol codec).Ensures (.save record)
      (fun later _ => writing later = some { draft with written := codec.dump record })
      (writeBytes file bytes) past := by
  induction bytes generalizing past draft with
  | nil =>
      rw [List.append_nil] at whole
      rw [← whole]
      exact isDraft
  | cons byte bytes ih =>
      refine ⟨⟨draft, isDraft, own⟩, fun result _ => ?_⟩
      have next : writing (⟨.append file byte, result⟩ :: past) =
          some { draft with written := draft.written ++ [byte] } := by
        rw [writing, isDraft]
        rfl
      have ends : (draft.written ++ [byte]) ++ bytes = codec.dump record := by
        rw [List.append_assoc]
        exact whole
      exact @ih _ { draft with written := draft.written ++ [byte] } next own ends

theorem obeys_saveJob (record : JobRecord) :
    (storeProtocol codec).Obeys (.save record) (saveJob codec record) [] := by
  refine ⟨rfl, fun _ _ => ⟨⟨rfl, rfl⟩, fun created _ => ?_⟩⟩
  obtain ⟨name, file⟩ := created
  have whole := @ensures_writeBytes codec record file (codec.dump record)
    [⟨.createTemp (recordName record.jobId), (name, file)⟩, ⟨.mkdir, ()⟩]
      ⟨name, file, []⟩ rfl rfl rfl
  refine whole.bind fun past _ isDraft => ?_
  exact ⟨⟨_, isDraft, rfl, rfl, rfl⟩, fun _ _ => trivial⟩

theorem obeys_loadJob (jobId : String) :
    (storeProtocol codec).Obeys (.load jobId) (loadJob codec jobId) [] := by
  refine ⟨trivial, fun present _ => ?_⟩
  cases present with
  | false => exact .missing
  | true =>
      refine ⟨isRecordName_recordName jobId, fun opened _ => ?_⟩
      cases opened with
      | none => exact .vanished
      | some file =>
          refine ⟨⟨_, isRecordName_recordName jobId, List.mem_cons_self⟩, fun bytes _ => ?_⟩
          exact .read file bytes

theorem ReadAll.nil {past : List (Event files)} : ReadAll codec past [] [] :=
  ⟨[], rfl, .slnil, List.forall_mem_nil _⟩

theorem ReadAll.skip {past : List (Event files)} {names : List String} {records : List JobRecord}
    (all : ReadAll codec past names records) (name : String) :
    ReadAll codec past (name :: names) records := by
  obtain ⟨pairs, same, under, reads⟩ := all
  exact ⟨pairs, same, under.cons name, reads⟩

theorem ReadAll.cons {past : List (Event files)} {names : List String} {records : List JobRecord}
    {name : String} {record : JobRecord} (all : ReadAll codec past names records)
    (read : ReadUnder codec past name record) :
    ReadAll codec past (name :: names) (record :: records) := by
  obtain ⟨pairs, rfl, under, reads⟩ := all
  exact ⟨(name, record) :: pairs, rfl, under.cons_cons name, List.forall_mem_cons.mpr ⟨read, reads⟩⟩

theorem ensures_readRecords {names : List String} {past : List (Event files)}
    (areRecords : ∀ name ∈ names, IsRecordName name) :
    (storeProtocol codec).Ensures .listAll
      (fun later records => past <:+ later ∧ ReadAll codec later names records)
      (readRecords codec names) past := by
  induction names generalizing past with
  | nil => exact ⟨List.suffix_rfl, .nil⟩
  | cons name names ih =>
      obtain ⟨isRecord, areRecords⟩ := List.forall_mem_cons.mp areRecords
      refine ⟨isRecord, fun opened _ => ?_⟩
      cases opened with
      | none =>
          refine (ih areRecords).mono fun later records ⟨grown, all⟩ => ?_
          exact ⟨(List.suffix_cons _ _).trans grown, all.skip name⟩
      | some file =>
          refine ⟨⟨name, isRecord, List.mem_cons_self⟩, fun bytes _ => ?_⟩
          refine (ih areRecords).bind fun later records ⟨grown, all⟩ => ?_
          have suffix : past <:+ later :=
            ((List.suffix_cons _ _).trans (List.suffix_cons _ _)).trans grown
          have allRead : ReadAll codec later (name :: names)
              ((codec.parse bytes).toList ++ records) := by
            cases parsed : codec.parse bytes with
            | none => exact all.skip name
            | some record =>
                refine all.cons ⟨file, bytes, grown.subset ?_, grown.subset ?_, parsed⟩
                · exact List.mem_cons_of_mem _ List.mem_cons_self
                · exact List.mem_cons_self
          exact ⟨suffix, allRead⟩

theorem obeys_listJobs : (storeProtocol codec).Obeys .listAll (listJobs codec) [] := by
  refine ⟨trivial, fun present _ => ?_⟩
  cases present with
  | false => exact ⟨[], [], .inl rfl, .nil, rfl⟩
  | true =>
      refine ⟨trivial, fun listing _ => ⟨rfl, fun names _ => ?_⟩⟩
      have areRecords : ∀ name ∈ names.filter fun name => IsRecordName name, IsRecordName name :=
        fun name member => of_decide_eq_true (List.mem_filter.mp member).2
      refine (ensures_readRecords areRecords).bind fun later records ⟨grown, all⟩ => ?_
      exact ⟨names, records, .inr ⟨listing, grown.subset List.mem_cons_self⟩, all, rfl⟩

theorem obeys_storeCode (call : StoreCall) :
    (storeProtocol codec).Obeys call (storeCode codec call) [] := by
  cases call with
  | save record => exact obeys_saveJob record
  | load jobId => exact obeys_loadJob jobId
  | listAll => exact obeys_listJobs

theorem sound_of_reaches {pool : StorePool}
    (reach : Pool.Reaches (storeCode codec) fileExec FreshNames (.initial {}) pool) :
    ∀ thread ∈ pool.threads, (storeProtocol codec).Sound thread :=
  Protocol.sound_of_reaches obeys_storeCode (fun _ _ _ => trivial) rfl reach

end Calls

end ZeroShield.Jobs
