import ZeroShield.Foundation.CheckedWrites
import ZeroShield.Repositories.Equivalence

/-!
# Immutable run directories

Several calls save evidence for one run at the same time.  As long as no call checks for evidence
while another one has found none and has yet to write its first file, the run is written once.
-/

namespace ZeroShield.Repositories

open Foundation Models Evidence

/-! ## Saving one run concurrently -/

/-- A bundle of a run. -/
structure RunBundle (experimentId runId : String) where
  bundle : EvidenceBundle
  valid : (RepositoryCall.saveRunEvidence bundle).Valid
  experiment : bundle.manifest.experimentId = experimentId
  run : bundle.manifest.runId = runId

/-- The call which saves a bundle of a run. -/
def EvidenceRepository.saves {I : Interface} (repository : EvidenceRepository I)
    {experimentId runId : String} (call : RunBundle experimentId runId) :
    Program I (Except RepositoryError PurePath) :=
  repository.saveRunEvidence call.bundle

/-- At most one call has succeeded, and what is stored for the run is its bundle. -/
structure WrittenOnce {I : Interface} {World : Type} {experimentId runId : String}
    (stored : World → String → Option Bytes)
    (pool : Pool I World (RunBundle experimentId runId) (Except RepositoryError PurePath)) :
    Prop where
  once : ∀ (index other : ℕ) thread thread' location location',
    pool.threads[index]? = some thread → pool.threads[other]? = some thread' →
      thread.rest = .done (.ok location) → thread'.rest = .done (.ok location') → other = index
  exact_ : ∀ thread ∈ pool.threads, ∀ location, thread.rest = .done (.ok location) →
    ∀ name, stored pool.world name = thread.tag.bundle.artefacts.get name

/-- Writes of a thread which is alone are the only writes. -/
theorem WrittenOnce.of_alone {I : Interface} {World : Type} {experimentId runId : String}
    {shape : CheckedWrites I (RunBundle experimentId runId) (Except RepositoryError PurePath)}
    {exec : Semantics I Unit World} {start : World} {stored : World → String → Option Bytes}
    {pool : Pool I World (RunBundle experimentId runId) (Except RepositoryError PurePath)}
    (alone : shape.Alone exec start pool)
    (raises : ∀ call, ∃ error, shape.refusal call = .error error)
    (written : ∀ call, shape.refuses (exec () shape.check start).1 = false → ∀ name,
      stored (CheckedWrites.effect exec (shape.operations call) start) name =
        call.bundle.artefacts.get name) : WrittenOnce stored pool := by
  have succeeded : ∀ (thread : Thread I _ _) location, thread.rest = .done (.ok location) →
      shape.Succeeded thread := by
    intro thread location returned
    obtain ⟨error, refusal⟩ := raises thread.tag
    exact ⟨_, returned, by rw [refusal]; exact nofun⟩
  constructor
  · intro index other thread thread' location location' selected selected' returned returned'
    obtain ⟨-, -, only⟩ := alone.of_succeeded selected (succeeded thread location returned)
    exact only other thread' selected' (succeeded thread' location' returned')
  · intro thread member location returned name
    obtain ⟨index, selected⟩ := List.getElem?_of_mem member
    obtain ⟨world, clear, -⟩ := alone.of_succeeded selected (succeeded thread location returned)
    rw [world, written thread.tag clear name]

/-! ## Files of a run in the archive -/

namespace Archive

variable {archive : Archive} {experimentId runId : String} {artefacts : List (String × Bytes)}

/-- A path which no file is written to. -/
theorem get_putAll_of_ne {path : EvidencePath}
    (other : ∀ name ∈ artefacts.map Prod.fst, path ≠ .artefact experimentId runId name) :
    (putAll experimentId runId archive artefacts).get path = archive.get path := by
  induction artefacts generalizing archive with
  | nil => rfl
  | cons artefact artefacts ih =>
      rw [putAll, ih fun name member => other name (List.mem_cons_of_mem _ member), get_put,
        if_neg (Ne.symm (other artefact.1 List.mem_cons_self))]

/-- Each file is stored with its content. -/
theorem get_putAll_of_mem {name : String} {content : Bytes}
    (distinct : (artefacts.map Prod.fst).Nodup) (member : (name, content) ∈ artefacts) :
    (putAll experimentId runId archive artefacts).get (.artefact experimentId runId name) =
      some content := by
  induction artefacts generalizing archive with
  | nil => cases member
  | cons artefact artefacts ih =>
      obtain ⟨fresh, distinct⟩ := List.nodup_cons.mp distinct
      rcases List.mem_cons.mp member with rfl | later
      · rw [putAll, get_putAll_of_ne, get_put, if_pos rfl]
        rintro other written same
        obtain ⟨-, -, rfl⟩ := EvidencePath.artefact.inj same
        exact fresh written
      · exact ih distinct later

/-- What a run holds after its files were written where none were. -/
theorem get_putAll_of_unoccupied {bundle : Dict Bytes} (name : String)
    (unoccupied : archive.occupied experimentId runId = false) :
    (putAll experimentId runId archive bundle.rows).get (.artefact experimentId runId name) =
      bundle.get name := by
  cases found : bundle.lookup name with
  | some row =>
      obtain rfl := Table.key_of_lookup found
      rw [get_putAll_of_mem bundle.distinct (Table.mem_rows_of_lookup found), Dict.get, found]
      rfl
  | none =>
      have absent : archive.get (.artefact experimentId runId name) = none := by
        by_contra present
        have occupied := occupied_iff.mpr ⟨name, Option.isSome_iff_ne_none.mpr present⟩
        exact absurd occupied (by simp [unoccupied])
      rw [get_putAll_of_ne, absent, Dict.get, found]
      · rfl
      · rintro other written same
        obtain ⟨-, -, rfl⟩ := EvidencePath.artefact.inj same
        obtain ⟨row, member, rfl⟩ := List.mem_map.mp written
        have stored := Table.mem_rows.mp member
        rw [found] at stored
        cases stored

/-- A run is occupied as soon as one of its files was written. -/
theorem occupied_putAll (nonempty : artefacts ≠ []) (distinct : (artefacts.map Prod.fst).Nodup) :
    (putAll experimentId runId archive artefacts).occupied experimentId runId = true := by
  obtain ⟨⟨name, content⟩, rest, rfl⟩ := List.exists_cons_of_ne_nil nonempty
  refine occupied_iff.mpr ⟨name, ?_⟩
  rw [get_putAll_of_mem distinct List.mem_cons_self]
  rfl

end Archive

/-! ## The local repository -/

section Local

variable {codec : Codec} {root : PurePath} {experimentId runId : String}

/-- The local repository looks for entries and writes the files below a directory it makes. -/
def localWrites (root : PurePath) (experimentId runId : String) :
    CheckedWrites files (RunBundle experimentId runId) (Except RepositoryError PurePath) where
  check := .hasEntries [experimentId, runId]
  refuses entries := entries
  operations call := .mkdir [experimentId, runId] ::
    call.bundle.artefacts.rows.map fun entry => .writeBytes [experimentId, runId, entry.1] entry.2
  refusal _ := .error (.evidenceAlreadyExists (evidenceAlreadyExists experimentId runId))
  success _ := .ok (LocalEvidenceRepository.location root [experimentId, runId])
  marks op := ∃ path content, op = .writeBytes path content
  unmarked := nofun

theorem writeAll_eq_writing (call : RunBundle experimentId runId)
    (artefacts : List (String × Bytes)) :
    (do
      writeAll (fun name content =>
        onFiles (.writeBytes ([experimentId, runId] ++ [name]) content)) artefacts
      return Except.ok (LocalEvidenceRepository.location root [experimentId, runId])) =
    (localWrites root experimentId runId).writing call (artefacts.map fun entry =>
      .writeBytes [experimentId, runId, entry.1] entry.2) := by
  induction artefacts with
  | nil => rfl
  | cons artefact artefacts ih =>
      exact congrArg (Program.perform (I := files) (.writeBytes _ _)) (funext fun _ => ih)

theorem local_saves_eq (call : RunBundle experimentId runId) :
    (LocalEvidenceRepository codec root).saves call =
      (localWrites root experimentId runId).program call := by
  obtain ⟨bundle, valid, rfl, rfl⟩ := call
  refine congrArg (Program.perform (I := files) (.hasEntries _)) (funext fun entries => ?_)
  cases entries with
  | true => rfl
  | false =>
      refine congrArg (Program.perform (I := files) (.mkdir _)) (funext fun _ => ?_)
      exact writeAll_eq_writing ⟨bundle, valid, rfl, rfl⟩ _

/-- The files which have been written are represented by an archive. -/
theorem effect_represents (experimentId runId : String) {tree : Tree} {archive : Archive}
    (represents : tree.Represents archive)
    (artefacts : List (String × Bytes)) :
    (CheckedWrites.effect execFile (.mkdir [experimentId, runId] :: artefacts.map fun entry =>
      .writeBytes [experimentId, runId, entry.1] entry.2) tree).Represents
        (archive.putAll experimentId runId artefacts) := by
  have made : (tree.mkdir [experimentId, runId]).Represents archive := represents.mkdir (by simp)
  have directory : [experimentId, runId] ∈ (tree.mkdir [experimentId, runId]).directories :=
    tree.mem_mkdir (by simp)
  change (CheckedWrites.effect execFile _ (tree.mkdir [experimentId, runId])).Represents _
  generalize tree.mkdir [experimentId, runId] = later at made directory
  clear represents
  induction artefacts generalizing later archive with
  | nil => exact made
  | cons artefact artefacts ih =>
      have written := made.writeBytes (.artefact experimentId runId artefact.1) directory artefact.2
      exact ih _ written directory

theorem localWrites_decides {tree : Tree} {archive : Archive}
    (represents : tree.Represents archive) :
    (localWrites root experimentId runId).Decides execFile tree where
  checks _ := rfl
  occupied call performed part wrote := by
    obtain ⟨op, member, path, content, rfl⟩ := wrote
    rcases List.prefix_cons_iff.mp part with rfl | ⟨writes, rfl, some_⟩
    · cases member
    · obtain ⟨artefacts, first, rfl⟩ := List.prefix_map_iff.mp some_
      have nonempty : artefacts ≠ [] := by
        rintro rfl
        simp at member
      have distinct := call.bundle.artefacts.distinct.sublist (first.map Prod.fst).sublist
      exact ((effect_represents experimentId runId represents artefacts).hasEntries_eq
        experimentId runId).trans
        (Archive.occupied_putAll nonempty distinct)

end Local

/-! ## The repository in a bucket -/

section Minio

variable {codec : Codec} {bucketName experimentId runId : String}

/-- The repository in a bucket lists the objects of a run and puts its files. -/
def minioWrites (bucketName experimentId runId : String) :
    CheckedWrites objects (RunBundle experimentId runId) (Except RepositoryError PurePath) where
  check := .listObjects (MinioEvidenceRepository.objectKey experimentId runId "")
  refuses existing := existing
  operations call := call.bundle.artefacts.rows.map fun entry =>
    .putObject (MinioEvidenceRepository.objectKey experimentId runId entry.1) entry.2
  refusal _ := .error (.evidenceAlreadyExists (evidenceAlreadyExists experimentId runId))
  success _ := .ok (MinioEvidenceRepository.label bucketName [experimentId, runId])
  marks op := ∃ key content, op = .putObject key content
  unmarked := nofun

theorem putAll_eq_writing (call : RunBundle experimentId runId)
    (artefacts : List (String × Bytes)) :
    (do
      writeAll (fun name content => onObjects
        (.putObject (MinioEvidenceRepository.objectKey experimentId runId name) content)) artefacts
      return Except.ok (MinioEvidenceRepository.label bucketName [experimentId, runId])) =
    (minioWrites bucketName experimentId runId).writing call (artefacts.map fun entry =>
      .putObject (MinioEvidenceRepository.objectKey experimentId runId entry.1) entry.2) := by
  induction artefacts with
  | nil => rfl
  | cons artefact artefacts ih =>
      exact congrArg (Program.perform (I := objects) (.putObject _ _)) (funext fun _ => ih)

theorem minio_saves_eq (call : RunBundle experimentId runId) :
    (MinioEvidenceRepository codec bucketName).saves call =
      (minioWrites bucketName experimentId runId).program call := by
  obtain ⟨bundle, valid, rfl, rfl⟩ := call
  refine congrArg (Program.perform (I := objects) (.listObjects _)) (funext fun existing => ?_)
  cases existing with
  | true => rfl
  | false => exact putAll_eq_writing ⟨bundle, valid, rfl, rfl⟩ _

/-- The objects which have been put are represented by an archive. -/
theorem effect_mirrors {bucket : Bucket} {archive : Archive} (mirrors : Mirrors bucket archive)
    {artefacts : List (String × Bytes)}
    (plain : ∀ entry ∈ artefacts, (EvidencePath.artefact experimentId runId entry.1).Plain) :
    Mirrors (CheckedWrites.effect execObject (artefacts.map fun entry =>
      .putObject (MinioEvidenceRepository.objectKey experimentId runId entry.1) entry.2) bucket)
        (archive.putAll experimentId runId artefacts) := by
  induction artefacts generalizing bucket archive with
  | nil => exact mirrors
  | cons artefact artefacts ih =>
      have written := mirrors.set _ (plain artefact List.mem_cons_self) artefact.2
      exact ih written fun entry member => plain entry (List.mem_cons_of_mem _ member)

/-- The identifiers of a bundle and the names of its files have no slash. -/
theorem RunBundle.noSlash (call : RunBundle experimentId runId) :
    '/' ∉ experimentId.toList ∧ '/' ∉ runId.toList ∧
      ∀ entry ∈ call.bundle.artefacts.rows, '/' ∉ entry.1.toList := by
  obtain ⟨bundle, ⟨experiment, run, names⟩, rfl, rfl⟩ := call
  exact ⟨noSlash_of_isExperimentId experiment, noSlash_of_isRunId run,
    fun entry member => (names entry member).noSlash⟩

theorem RunBundle.plain (call : RunBundle experimentId runId) :
    ∀ entry ∈ call.bundle.artefacts.rows,
      (EvidencePath.artefact experimentId runId entry.1).Plain := by
  obtain ⟨experiment, run, names⟩ := call.noSlash
  exact fun entry member => ⟨experiment, run, names entry member⟩

/-- A bundle has no file whose name has a slash. -/
theorem RunBundle.get_of_slash (call : RunBundle experimentId runId) {name : String}
    (slash : '/' ∈ name.toList) : call.bundle.artefacts.get name = none := by
  obtain ⟨-, -, names⟩ := call.noSlash
  rw [Dict.get, Option.map_eq_none_iff]
  by_contra found
  obtain ⟨row, stored⟩ := Option.ne_none_iff_exists'.mp found
  obtain rfl := Table.key_of_lookup stored
  exact names row (Table.mem_rows_of_lookup stored) slash

theorem minioWrites_decides {bucket : Bucket} {archive : Archive}
    (mirrors : Mirrors bucket archive) :
    (minioWrites bucketName experimentId runId).Decides execObject bucket where
  checks _ := rfl
  occupied call performed part wrote := by
    obtain ⟨op, member, key, content, rfl⟩ := wrote
    obtain ⟨artefacts, first, rfl⟩ := List.prefix_map_iff.mp part
    have nonempty : artefacts ≠ [] := by
      rintro rfl
      cases member
    have distinct := call.bundle.artefacts.distinct.sublist (first.map Prod.fst).sublist
    have later := effect_mirrors mirrors fun entry member =>
      call.plain entry (first.subset member)
    obtain ⟨plainExperiment, plainRun, -⟩ := call.noSlash
    exact (later.listObjects_eq plainExperiment plainRun).trans
      (Archive.occupied_putAll nonempty distinct)

/-- No object lies below a run directory of a bucket. -/
theorem Mirrors.get_of_slash {bucket : Bucket} {archive : Archive}
    (mirrors : Mirrors bucket archive)
    {name : String} (plainExperiment : '/' ∉ experimentId.toList) (plainRun : '/' ∉ runId.toList)
    (slash : '/' ∈ name.toList) :
    bucket.get (MinioEvidenceRepository.objectKey experimentId runId name) = none := by
  rw [Dict.get, Option.map_eq_none_iff, Table.lookup, List.find?_eq_none, mirrors.rows]
  intro row member same
  obtain ⟨⟨path, content⟩, stored, rfl⟩ := List.mem_map.mp member
  have plain := mirrors.plain _ stored
  have key : path.key = MinioEvidenceRepository.objectKey experimentId runId name :=
    of_decide_eq_true same
  have below : path.ofRun experimentId runId = true := by
    refine (Mirrors.prefix_key_iff plainExperiment plainRun plain).mp ?_
    rw [key]
    exact ⟨name.toList, by simp [MinioEvidenceRepository.objectKey]⟩
  cases path with
  | comparison => cases below
  | artefact experiment run filename =>
      obtain ⟨rfl, rfl⟩ := of_decide_eq_true below
      have keys : (EvidencePath.artefact experiment run filename).key.toList =
          (EvidencePath.artefact experiment run name).key.toList :=
        congrArg String.toList key
      rw [key_artefact_toList, key_artefact_toList] at keys
      have names := (cut_slash (cut_slash keys plain.1 plain.1).2 plain.2.1 plain.2.1).2
      exact plain.2.2 (names ▸ slash)

end Minio

/-! ## A run is written once -/

/-- Where checks are apart from first writes, both repositories write a run once. -/
theorem writtenOnce_of_apart (codec : Codec) (root : PurePath) (bucketName : String)
    (experimentId runId : String) :
    (∀ tree archive pool, tree.Represents archive →
      Pool.Reaches (LocalEvidenceRepository codec root).saves execFile
          (localWrites root experimentId runId).Apart (Pool.initial tree) pool →
        WrittenOnce (fun tree name => tree.read [experimentId, runId, name]) pool) ∧
    (∀ bucket archive pool, Mirrors bucket archive →
      Pool.Reaches (MinioEvidenceRepository codec bucketName).saves execObject
          (minioWrites bucketName experimentId runId).Apart (Pool.initial bucket) pool →
        WrittenOnce (fun bucket name =>
          bucket.get (MinioEvidenceRepository.objectKey experimentId runId name)) pool) := by
  constructor
  · intro tree archive pool represents reach
    rw [show (LocalEvidenceRepository codec root).saves = _ from funext local_saves_eq] at reach
    refine .of_alone (CheckedWrites.alone_of_reaches (localWrites_decides represents) reach)
      (fun _ => ⟨_, rfl⟩) fun call clear name => ?_
    have unoccupied := (represents.hasEntries_eq experimentId runId).symm.trans clear
    have later := effect_represents experimentId runId represents call.bundle.artefacts.rows
    exact (later.read_eq (.artefact experimentId runId name)).trans
      (Archive.get_putAll_of_unoccupied name unoccupied)
  · intro bucket archive pool mirrors reach
    rw [show (MinioEvidenceRepository codec bucketName).saves = _ from funext minio_saves_eq]
      at reach
    refine .of_alone (CheckedWrites.alone_of_reaches (minioWrites_decides mirrors) reach)
      (fun _ => ⟨_, rfl⟩) fun call clear name => ?_
    have later := effect_mirrors mirrors call.plain
    obtain ⟨plainExperiment, plainRun, -⟩ := call.noSlash
    have unoccupied := (mirrors.listObjects_eq plainExperiment plainRun).symm.trans clear
    by_cases slash : '/' ∈ name.toList
    · exact (later.get_of_slash plainExperiment plainRun slash).trans (call.get_of_slash slash).symm
    · have plain : (EvidencePath.artefact experimentId runId name).Plain :=
        ⟨plainExperiment, plainRun, slash⟩
      exact (later.get_eq plain).trans (Archive.get_putAll_of_unoccupied name unoccupied)

namespace Sample

open Evidence.Sample

/-- A bundle of the sample run with its results. -/
def runBundle (text : String) : RunBundle "ZC-VPN-EXP-001" "RUN-001" where
  bundle := bundleOf "results.json" text
  valid := calls_valid plainName_results text _ List.mem_cons_self
  experiment := rfl
  run := rfl

/-- Two calls make their checks before either writes. -/
def overlap (writes : ℕ) : List (Move (RunBundle "ZC-VPN-EXP-001" "RUN-001") Unit) :=
  [Move.spawn (runBundle "[]"), Move.spawn (runBundle "[0]"), Move.advance 0 (),
    Move.advance 1 ()] ++
    List.replicate writes (Move.advance 0 ()) ++ List.replicate writes (Move.advance 1 ())

/-- Whether a call was refused. -/
def refused {I : Interface}
    (thread : Thread I (RunBundle "ZC-VPN-EXP-001" "RUN-001")
      (Except RepositoryError PurePath)) : Bool :=
  match thread.rest with
  | .done (.error _) => true
  | _ => false

/-- Whether a call has succeeded. -/
def succeeded {I : Interface}
    (thread : Thread I (RunBundle "ZC-VPN-EXP-001" "RUN-001")
      (Except RepositoryError PurePath)) : Bool :=
  match thread.rest with
  | .done (.ok _) => true
  | _ => false

theorem exists_location {I : Interface} {thread : Thread I (RunBundle "ZC-VPN-EXP-001" "RUN-001")
    (Except RepositoryError PurePath)} (done : succeeded thread = true) :
    ∃ location, thread.rest = .done (.ok location) := by
  unfold succeeded at done
  split at done
  next location returned => exact ⟨location, returned⟩
  next => cases done

/-- Whether the first two calls have succeeded. -/
def bothSucceeded {I : Interface} {World : Type}
    (pool : Pool I World (RunBundle "ZC-VPN-EXP-001" "RUN-001")
      (Except RepositoryError PurePath)) : Bool :=
  (pool.threads[0]?).any succeeded && (pool.threads[1]?).any succeeded

/-- Whether the first call has succeeded and the second one was refused. -/
def firstSucceeded {I : Interface} {World : Type}
    (pool : Pool I World (RunBundle "ZC-VPN-EXP-001" "RUN-001")
      (Except RepositoryError PurePath)) : Bool :=
  (pool.threads[0]?).any succeeded && (pool.threads[1]?).any refused

/-- Two calls which succeed are not one. -/
theorem not_writtenOnce {I : Interface} {World : Type} {stored : World → String → Option Bytes}
    {pool : Pool I World (RunBundle "ZC-VPN-EXP-001" "RUN-001") (Except RepositoryError PurePath)}
    (both : bothSucceeded pool = true) :
    ¬ WrittenOnce stored pool := by
  obtain ⟨first, second⟩ := Bool.and_eq_true_iff.mp both
  obtain ⟨thread, found, done⟩ := (Option.any_eq_true _ _).mp first
  obtain ⟨thread', found', done'⟩ := (Option.any_eq_true _ _).mp second
  obtain ⟨location, returned⟩ := exists_location done
  obtain ⟨location', returned'⟩ := exists_location done'
  intro once
  exact absurd (once.once 0 1 thread thread' location location' found found' returned returned')
    (by decide)

/-- A check is undisturbed while every other call has not begun or has put its mark. -/
theorem apart_of_marked {I : Interface} {World : Type}
    {shape : CheckedWrites I (RunBundle "ZC-VPN-EXP-001" "RUN-001")
      (Except RepositoryError PurePath)}
    {pool : Pool I World (RunBundle "ZC-VPN-EXP-001" "RUN-001") (Except RepositoryError PurePath)}
    {index : ℕ} (marked : ∀ other ∈ pool.threads,
      other.past = [] ∨ ∃ event ∈ other.past, shape.marks event.op) :
    shape.Apart pool (.advance index ()) := by
  rintro - other member passed
  rcases marked other member with fresh | marks
  · obtain ⟨result, seen, -⟩ := passed
    rw [fresh] at seen
    cases seen
  · exact marks

/-- A call which nobody overlaps succeeds, and a later one is refused. -/
theorem exists_local_success : ∃ pool,
    Pool.Reaches (LocalEvidenceRepository codec root).saves execFile
        (localWrites root "ZC-VPN-EXP-001" "RUN-001").Apart (Pool.initial {}) pool ∧
      firstSucceeded pool = true := by
  have spawned : Pool.Reaches _ execFile (localWrites root "ZC-VPN-EXP-001" "RUN-001").Apart _
      (Pool.spawned (LocalEvidenceRepository codec root).saves (Pool.initial {})
        (runBundle "[]")) :=
    Pool.Reaches.refl.spawned trivial
  have checked := spawned.performed 0 ()
    (apart_of_marked (List.forall_mem_singleton.mpr (.inl rfl))) rfl rfl
  have made := checked.performed 0 () (fun next => by cases next) rfl rfl
  have wrote := made.performed 0 () (fun next => by cases next) rfl rfl
  have followed := wrote.spawned
    (show CheckedWrites.Apart _ _ (.spawn (runBundle "[0]")) from trivial)
  have refused := followed.performed 1 () (apart_of_marked (List.forall_mem_cons.mpr
    ⟨.inr ⟨_, List.mem_cons_self, _, _, rfl⟩, List.forall_mem_singleton.mpr (.inl rfl)⟩)) rfl rfl
  exact ⟨_, refused, rfl⟩

theorem exists_minio_success : ∃ pool,
    Pool.Reaches (MinioEvidenceRepository codec "zeroshield-evidence").saves execObject
        (minioWrites "zeroshield-evidence" "ZC-VPN-EXP-001" "RUN-001").Apart
        (Pool.initial Table.empty) pool ∧
      firstSucceeded pool = true := by
  have spawned : Pool.Reaches _ execObject
      (minioWrites "zeroshield-evidence" "ZC-VPN-EXP-001" "RUN-001").Apart _
      (Pool.spawned (MinioEvidenceRepository codec "zeroshield-evidence").saves
        (Pool.initial Table.empty) (runBundle "[]")) :=
    Pool.Reaches.refl.spawned trivial
  have checked := spawned.performed 0 ()
    (apart_of_marked (List.forall_mem_singleton.mpr (.inl rfl))) rfl rfl
  have put := checked.performed 0 () (fun next => by cases next) rfl rfl
  have followed := put.spawned
    (show CheckedWrites.Apart _ _ (.spawn (runBundle "[0]")) from trivial)
  have refused := followed.performed 1 () (apart_of_marked (List.forall_mem_cons.mpr
    ⟨.inr ⟨_, List.mem_cons_self, _, _, rfl⟩, List.forall_mem_singleton.mpr (.inl rfl)⟩)) rfl rfl
  exact ⟨_, refused, rfl⟩

end Sample

/-- A call which nobody overlaps succeeds, a later one is refused, and the bundle of the first one
is stored, in either repository. -/
theorem writtenOnce_of_sample :
    (∃ pool, Pool.Reaches (LocalEvidenceRepository Sample.codec Sample.root).saves execFile
        (localWrites Sample.root "ZC-VPN-EXP-001" "RUN-001").Apart (Pool.initial {}) pool ∧
      Sample.firstSucceeded pool = true ∧
        WrittenOnce (fun tree name => tree.read ["ZC-VPN-EXP-001", "RUN-001", name]) pool) ∧
    ∃ pool, Pool.Reaches (MinioEvidenceRepository Sample.codec "zeroshield-evidence").saves
        execObject (minioWrites "zeroshield-evidence" "ZC-VPN-EXP-001" "RUN-001").Apart
        (Pool.initial Table.empty) pool ∧
      Sample.firstSucceeded pool = true ∧
        WrittenOnce (fun bucket name =>
          bucket.get (MinioEvidenceRepository.objectKey "ZC-VPN-EXP-001" "RUN-001" name)) pool := by
  obtain ⟨first, second⟩ := writtenOnce_of_apart Sample.codec Sample.root "zeroshield-evidence"
    "ZC-VPN-EXP-001" "RUN-001"
  obtain ⟨pool, reach, done⟩ := Sample.exists_local_success
  obtain ⟨pool', reach', done'⟩ := Sample.exists_minio_success
  exact ⟨⟨pool, reach, done, first {} Table.empty pool represents_empty reach⟩,
    pool', reach', done', second Table.empty Table.empty pool' mirrors_empty reach'⟩

/-- Two overlapping calls for one run both succeed, in either repository. -/
theorem not_writtenOnce_of_overlap :
    (¬ ∀ codec root experimentId runId tree archive
        (pool : Pool files Tree (RunBundle experimentId runId) _), tree.Represents archive →
      Pool.Reaches (LocalEvidenceRepository codec root).saves execFile (fun _ _ => True)
          (Pool.initial tree) pool →
        WrittenOnce (fun tree name => tree.read [experimentId, runId, name]) pool) ∧
    (¬ ∀ codec bucketName experimentId runId bucket archive
        (pool : Pool objects Bucket (RunBundle experimentId runId) _), Mirrors bucket archive →
      Pool.Reaches (MinioEvidenceRepository codec bucketName).saves execObject (fun _ _ => True)
          (Pool.initial bucket) pool →
        WrittenOnce (fun bucket name =>
          bucket.get (MinioEvidenceRepository.objectKey experimentId runId name)) pool) := by
  constructor
  · intro claim
    have run : ∃ pool, Pool.Reaches (LocalEvidenceRepository Sample.codec Sample.root).saves
        execFile (fun _ _ => True) (Pool.initial {}) pool ∧ Sample.bothSucceeded pool = true :=
      Pool.exists_reaches (Sample.overlap 2) (by rfl)
    obtain ⟨pool, reach, both⟩ := run
    exact Sample.not_writtenOnce both (claim _ _ _ _ _ _ _ represents_empty reach)
  · intro claim
    have run : ∃ pool, Pool.Reaches
        (MinioEvidenceRepository Sample.codec "zeroshield-evidence").saves execObject
          (fun _ _ => True) (Pool.initial Table.empty) pool ∧ Sample.bothSucceeded pool = true :=
      Pool.exists_reaches (Sample.overlap 1) (by rfl)
    obtain ⟨pool, reach, both⟩ := run
    exact Sample.not_writtenOnce both (claim _ _ _ _ _ _ _ mirrors_empty reach)

end ZeroShield.Repositories
