import ZeroShield.Foundation.Directory
import ZeroShield.Foundation.EventLog
import ZeroShield.Platform.World

/-!
# The store of job records

Each record is a file.  It is written under a temporary name and put in place at once, so whoever
reads it meanwhile sees a whole record.  The names of the directory are not read at once.
-/

namespace ZeroShield.Jobs

open Foundation Platform

/-! ## Files -/

/-- The directory of the jobs, which is made when the first record is saved, and the listings of it
which have begun. -/
structure JobsDir where
  isDirectory : Bool := false
  directory : Directory := .empty
  listings : List DirectoryListing := []

/-- What is done with the files of a directory; a text is written byte by byte. -/
inductive FileOp
  | mkdir
  | createTemp (target : String)
  | append (file : ℕ) (byte : UInt8)
  | replace (source target : String)
  | isFile (name : String)
  | isDir
  | scandir
  | entries (listing : ℕ)
  | openFile (name : String)
  | read (file : ℕ)

/-- What each operation returns. -/
@[reducible]
def FileOp.Result : FileOp → Type
  | createTemp _ => String × ℕ
  | replace _ _ => Bool
  | isFile _ => Bool
  | isDir => Bool
  | scandir => ℕ
  | entries _ => List String
  | openFile _ => Option ℕ
  | read _ => List UInt8
  | _ => Unit

/-- The directory as an interface. -/
abbrev files : Interface where
  Op := FileOp
  Result := FileOp.Result

/-- The name of the file of a job. -/
def recordName (jobId : String) : String :=
  jobId ++ ".json"

/-- Whether a name is one of a record. -/
def IsRecordName (name : String) : Prop :=
  ".json".toList <:+ name.toList

instance (name : String) : Decidable (IsRecordName name) := by
  unfold IsRecordName
  infer_instance

/-- A temporary name for the file of a job. -/
def tempName (target hex : String) : String :=
  target ++ "." ++ hex ++ ".tmp"

/-- What is left to chance: a random number as text, and what a listing shows. -/
structure Chance where
  hex : String := ""
  chosen : List String := []

/-- The meaning of the operations. -/
def fileExec : Semantics files Chance JobsDir
  | _, .mkdir, world => ((), { world with isDirectory := true })
  | chance, .createTemp target, world =>
      let name := tempName target chance.hex
      let (file, directory) := world.directory.create name
      ((name, file), { world with directory, listings := world.listings.map (·.place name) })
  | _, .append file byte, world =>
      ((), { world with directory := world.directory.append file byte })
  | _, .replace source target, world =>
      let (replaced, directory) := world.directory.replace source target
      let listings :=
        if replaced then world.listings.map (·.rename source target) else world.listings
      (replaced, { world with directory, listings })
  | _, .isFile name, world => ((world.directory.file name).isSome, world)
  | _, .isDir, world => (world.isDirectory, world)
  | _, .scandir, world =>
      (world.listings.length,
        { world with listings := world.listings ++ [{ names := world.directory.names }] })
  | chance, .entries listing, world =>
      ((world.listings[listing]?).elim [] (·.shown chance.chosen), world)
  | _, .openFile name, world => (world.directory.file name, world)
  | _, .read file, world => ((world.directory.contents[file]?).getD [], world)

/-! ## The store -/

/-- How a record is written as text and read from it. -/
structure JobCodec where
  dump : JobRecord → List UInt8
  parse : List UInt8 → Option JobRecord

/-- A call of the store. -/
inductive StoreCall
  | save (record : JobRecord)
  | load (jobId : String)
  | listAll
  deriving DecidableEq

/-- What a call returns, unless it fails. -/
inductive StoreAnswer
  | saved
  | loaded (found : Option JobRecord)
  | listed (records : List JobRecord)
  | failed
  deriving DecidableEq

/-- Perform one operation and return its result. -/
abbrev fileCall (op : FileOp) : Program files op.Result :=
  Program.call (I := files) op

/-- Write bytes to a file. -/
def writeBytes (file : ℕ) : List UInt8 → Program files Unit
  | [] => return ()
  | byte :: bytes => do
      fileCall (.append file byte)
      writeBytes file bytes

section Store

variable (codec : JobCodec)

/-- Write a record to a temporary file and put it in place. -/
def saveJob (record : JobRecord) : Program files StoreAnswer := do
  fileCall .mkdir
  let (name, file) ← fileCall (.createTemp (recordName record.jobId))
  writeBytes file (codec.dump record)
  let replaced ← fileCall (.replace name (recordName record.jobId))
  return if replaced then .saved else .failed

/-- Read the record of a job, if there is one. -/
def loadJob (jobId : String) : Program files StoreAnswer := do
  let present ← fileCall (.isFile (recordName jobId))
  if present then
    match ← fileCall (.openFile (recordName jobId)) with
    | none => return .failed
    | some file => do
        let bytes ← fileCall (.read file)
        return (codec.parse bytes).elim .failed fun record => .loaded (some record)
  else
    return .loaded none

/-- Read the records under names, without those which cannot be read. -/
def readRecords : List String → Program files (List JobRecord)
  | [] => return []
  | name :: names => do
      match ← fileCall (.openFile name) with
      | none => readRecords names
      | some file => do
          let bytes ← fileCall (.read file)
          let records ← readRecords names
          return (codec.parse bytes).toList ++ records

/-- Read all records, of which the ones which were submitted last are the first. -/
def listJobs : Program files StoreAnswer := do
  let present ← fileCall .isDir
  if present then
    let listing ← fileCall .scandir
    let names ← fileCall (.entries listing)
    let records ← readRecords codec (names.filter fun name => IsRecordName name)
    return .listed (records.insertionSort fun left right => right.submittedAt ≤ left.submittedAt)
  else
    return .listed []

/-- The program of a call. -/
def storeCode : StoreCall → Program files StoreAnswer
  | .save record => saveJob codec record
  | .load jobId => loadJob codec jobId
  | .listAll => listJobs codec

end Store

/-- Calls of the store which are served at the same time. -/
abbrev StorePool := Pool files JobsDir StoreCall StoreAnswer

/-- A temporary name is new when a file is created under it. -/
def FreshNames (pool : StorePool) : Move StoreCall Chance → Prop
  | .spawn _ => True
  | .advance index chance =>
      match pool.threads[index]?.bind Thread.next with
      | some (.createTemp target) =>
          pool.world.directory.file (tempName target chance.hex) = none
      | _ => True

instance {pool : StorePool} {move : Move StoreCall Chance} :
    Decidable (FreshNames pool move) := by
  cases move <;> unfold FreshNames <;> dsimp only
  · infer_instance
  · split <;> infer_instance

/-- The number of the listing which a call has begun and whose names it reads next. -/
def listingOf : List (Event files) → Option ℕ
  | ⟨.scandir, listing⟩ :: _ => some listing
  | _ => none

/-- No record takes the place of another one while a call reads the names of the directory. -/
def ListsUndisturbed (pool : StorePool) : Move StoreCall Chance → Prop
  | .spawn _ => True
  | .advance index _ =>
      match pool.threads[index]?.bind Thread.next with
      | some (.replace _ target) => pool.world.directory.file target = none ∨
          ∀ thread ∈ pool.threads, listingOf thread.past = none
      | _ => True

instance {pool : StorePool} {move : Move StoreCall Chance} :
    Decidable (ListsUndisturbed pool move) := by
  cases move <;> unfold ListsUndisturbed <;> dsimp only
  · infer_instance
  · split <;> infer_instance

/-- The names of temporary files are new, and listings are undisturbed. -/
def SavesApart (pool : StorePool) (move : Move StoreCall Chance) : Prop :=
  FreshNames pool move ∧ ListsUndisturbed pool move

instance {pool : StorePool} {move : Move StoreCall Chance} : Decidable (SavesApart pool move) :=
  inferInstanceAs (Decidable (_ ∧ _))

/-! ## Names -/

theorem isRecordName_recordName (jobId : String) : IsRecordName (recordName jobId) := by
  rw [IsRecordName, recordName, String.toList_append]
  exact List.suffix_append _ _

theorem recordName_inj {first second : String} (same : recordName first = recordName second) :
    first = second := by
  have characters := congrArg String.toList same
  rw [recordName, recordName, String.toList_append, String.toList_append] at characters
  exact String.toList_inj.mp (List.append_cancel_right characters)

theorem not_isRecordName_tempName (target hex : String) : ¬ IsRecordName (tempName target hex) := by
  rintro ⟨front, ends⟩
  have last := congrArg List.getLast? ends
  rw [tempName, String.toList_append, List.getLast?_append, List.getLast?_append] at last
  exact absurd (Option.some.inj last) (by decide)

/-- Every name of a record is the name of the file of a job. -/
theorem exists_recordName {name : String} (isRecord : IsRecordName name) :
    ∃ jobId, name = recordName jobId := by
  obtain ⟨front, ends⟩ := isRecord
  refine ⟨String.ofList front, String.toList_inj.mp ?_⟩
  rw [recordName, String.toList_append, String.toList_ofList, ends]

end ZeroShield.Jobs
