import ZeroShield.Repositories.Archive
import ZeroShield.Repositories.LocalEvidenceRepository
import ZeroShield.Repositories.MinioEvidenceRepository
import ZeroShield.Evidence.Verification
import ZeroShield.Foundation.CanonicalJson
import Mathlib.Data.List.Infix

/-!
# The two backends are equivalent

A directory tree and a bucket both represent an archive, and every method keeps this.  So both
answer every sequence of calls alike.
-/

namespace ZeroShield.Repositories

open Foundation Models Evidence

/-! ## Calls -/

/-- A call of a method. -/
inductive RepositoryCall
  | saveRunEvidence (bundle : EvidenceBundle)
  | saveComparison (experimentId : String) (report : ComparisonReport)
  | loadManifest (experimentId runId : String)
  | loadComparison (experimentId : String)
  | loadArtefact (experimentId runId filename : String)

/-- What a method returns, without the label of a location. -/
inductive Answer
  | saved
  | manifest (manifest : EvidenceManifest)
  | comparison (comparison : Option ComparisonReport)
  | artefact (content : Bytes)

section Perform

variable {I : Interface} {World : Type} (repository : EvidenceRepository I)
  (exec : Semantics I Unit World)

/-- Call a method. -/
def EvidenceRepository.perform : RepositoryCall → Program I (Except RepositoryError Answer)
  | .saveRunEvidence bundle => do
      return (← repository.saveRunEvidence bundle).map fun _ => .saved
  | .saveComparison experimentId report => do
      let _ ← repository.saveComparison experimentId report
      return .ok .saved
  | .loadManifest experimentId runId => do
      return (← repository.loadManifest experimentId runId).map .manifest
  | .loadComparison experimentId => do
      return (← repository.loadComparison experimentId).map .comparison
  | .loadArtefact experimentId runId filename => do
      return (← repository.loadArtefact experimentId runId filename).map .artefact

/-- The answers to a sequence of calls. -/
def EvidenceRepository.answers : List RepositoryCall → World → List (Except RepositoryError Answer)
  | [], _ => []
  | call :: calls, world =>
      let outcome := (repository.perform call).run exec (fun _ => ()) 0 world
      outcome.1 :: EvidenceRepository.answers calls outcome.2.2

end Perform

/-- A name which is one segment of a path; no file system has names with a NUL character. -/
structure PlainName (name : String) : Prop where
  nonempty : name ≠ ""
  noSlash : '/' ∉ name.toList
  noNul : Char.ofNat 0 ∉ name.toList
  notDot : name ≠ "."
  notDots : name ≠ ".."

/-- The identifiers are valid and the names of files are plain. -/
def RepositoryCall.Valid : RepositoryCall → Prop
  | .saveRunEvidence bundle =>
      isExperimentId bundle.manifest.experimentId ∧ isRunId bundle.manifest.runId ∧
        ∀ entry ∈ bundle.artefacts.rows, PlainName entry.1
  | .saveComparison experimentId _ => isExperimentId experimentId
  | .loadManifest experimentId runId => isExperimentId experimentId ∧ isRunId runId
  | .loadComparison experimentId => isExperimentId experimentId
  | .loadArtefact experimentId runId filename =>
      isExperimentId experimentId ∧ isRunId runId ∧ PlainName filename

/-- A manifest which is saved is plain text. -/
def RepositoryCall.WritesPlainText : RepositoryCall → Prop
  | .saveRunEvidence bundle =>
      ∀ content, ("manifest.json", content) ∈ bundle.artefacts.rows → PlainText content
  | _ => True

/-! ## The archive as a repository -/

section Abstract

variable (codec : Codec)

/-- What a call means for an archive. -/
def Archive.perform (archive : Archive) : RepositoryCall → Except RepositoryError Answer × Archive
  | .saveRunEvidence bundle =>
      let experimentId := bundle.manifest.experimentId
      let runId := bundle.manifest.runId
      if archive.occupied experimentId runId then
        (.error (.evidenceAlreadyExists (evidenceAlreadyExists experimentId runId)), archive)
      else (.ok .saved, archive.putAll experimentId runId bundle.artefacts.rows)
  | .saveComparison experimentId report =>
      (.ok .saved,
        archive.put (.comparison experimentId) (encodeUtf8 (codec.dumpComparison report)))
  | .loadManifest experimentId runId =>
      (((archive.get (.artefact experimentId runId "manifest.json")).elim (.error .fileNotFound)
        (MinioEvidenceRepository.manifestOf codec)).map .manifest, archive)
  | .loadComparison experimentId =>
      (((archive.get (.comparison experimentId)).elim (.ok none) fun bytes =>
        (MinioEvidenceRepository.comparisonOf codec bytes).map some).map .comparison, archive)
  | .loadArtefact experimentId runId filename =>
      ((archive.get (.artefact experimentId runId filename)).elim (.error .fileNotFound)
        fun bytes => .ok (.artefact bytes), archive)

end Abstract

/-! ## A directory tree represents an archive -/

/-- The segments of a path below the root. -/
def EvidencePath.segments : EvidencePath → List String
  | .comparison experimentId => [experimentId, "comparison.json"]
  | .artefact experimentId runId filename => [experimentId, runId, filename]

theorem EvidencePath.segments_injective : Set.InjOn EvidencePath.segments Set.univ := by
  intro left _ right _ same
  cases left <;> cases right <;> simp_all [segments]

/-- The files of a tree are those of an archive, and lie in directories which exist. -/
structure Tree.Represents (tree : Tree) (archive : Archive) : Prop where
  rows : tree.files.rows = renamed EvidencePath.segments archive.rows
  parents : ∀ row ∈ archive.rows, row.1.segments.dropLast ∈ tree.directories
  shallow : ∀ directory ∈ tree.directories, directory.length ≤ 2

namespace Tree.Represents

variable {tree : Tree} {archive : Archive}

theorem read_eq (represents : tree.Represents archive) (path : EvidencePath) :
    tree.read path.segments = archive.get path := by
  rw [Tree.read, Table.lookup, represents.rows,
    find?_renamed EvidencePath.segments_injective trivial fun _ _ => trivial, Option.map_map]
  rfl

theorem hasEntries_eq (represents : tree.Represents archive) (experimentId runId : String) :
    tree.hasEntries [experimentId, runId] = archive.occupied experimentId runId := by
  have noDirectories : (tree.directories.any fun other =>
      other ≠ [] ∧ other.dropLast = [experimentId, runId]) = false := by
    rw [List.any_eq_false]
    intro other member
    have short := represents.shallow other member
    simp only [decide_eq_true_eq, not_and]
    intro _ below
    have length := congrArg List.length below
    simp at length
    omega
  have sameFiles : (tree.files.rows.any (·.1.dropLast = [experimentId, runId])) =
      archive.occupied experimentId runId := by
    rw [represents.rows, List.any_map, Archive.occupied]
    congr 1
    funext row
    rcases row with ⟨_ | ⟨experiment, run, filename⟩, content⟩ <;>
      simp [EvidencePath.segments, EvidencePath.ofRun]
  rw [Tree.hasEntries, noDirectories, sameFiles, Bool.or_false]
  cases occupied : archive.occupied experimentId runId with
  | false => rw [Bool.and_false]
  | true =>
      obtain ⟨row, member, ofRun⟩ := List.any_eq_true.mp occupied
      have parent := represents.parents row member
      rcases row with ⟨_ | ⟨experiment, run, filename⟩, content⟩
      · cases ofRun
      · obtain ⟨rfl, rfl⟩ := of_decide_eq_true ofRun
        simpa [EvidencePath.segments] using parent

theorem mkdir (represents : tree.Represents archive) {directory : List String}
    (short : directory.length ≤ 2) : (tree.mkdir directory).Represents archive where
  rows := represents.rows
  parents row member := List.mem_append_left _ (represents.parents row member)
  shallow other member := by
    rcases List.mem_append.mp member with old | made
    · exact represents.shallow other old
    · obtain ⟨parent, -⟩ := List.mem_filter.mp made
      exact ((List.mem_inits _ _).mp parent).length_le.trans short

theorem writeBytes (represents : tree.Represents archive) (path : EvidencePath)
    (parent : path.segments.dropLast ∈ tree.directories) (content : Bytes) :
    (tree.writeBytes path.segments content).Represents (archive.put path content) where
  rows := by
    have written := upsertRow_renamed EvidencePath.segments_injective content (Set.mem_univ path)
      fun row (_ : row ∈ archive.rows) => Set.mem_univ row.1
    rw [← represents.rows] at written
    exact written
  parents row member := by
    rcases Archive.mem_rows_put member with rfl | old
    · exact parent
    · exact represents.parents row old
  shallow := represents.shallow

end Tree.Represents

theorem Tree.mem_mkdir (tree : Tree) {directory : List String} (nonempty : directory ≠ []) :
    directory ∈ (tree.mkdir directory).directories := by
  by_cases known : directory ∈ tree.directories
  · exact List.mem_append_left _ known
  · refine List.mem_append_right _ (List.mem_filter.mpr ⟨?_, by simp [nonempty, known]⟩)
    exact (List.mem_inits _ _).mpr (List.prefix_rfl)

/-! ## A bucket represents an archive -/

/-- The key of a path. -/
def EvidencePath.key : EvidencePath → String
  | .comparison experimentId => MinioEvidenceRepository.comparisonKey experimentId
  | .artefact experimentId runId filename =>
      MinioEvidenceRepository.objectKey experimentId runId filename

/-- The names in a path do not contain a slash. -/
def EvidencePath.Plain : EvidencePath → Prop
  | .comparison experimentId => '/' ∉ experimentId.toList
  | .artefact experimentId runId filename =>
      '/' ∉ experimentId.toList ∧ '/' ∉ runId.toList ∧ '/' ∉ filename.toList

theorem key_comparison_toList (experimentId : String) :
    (EvidencePath.comparison experimentId).key.toList =
      experimentId.toList ++ '/' :: "comparison.json".toList := by
  simp [EvidencePath.key, MinioEvidenceRepository.comparisonKey]

theorem key_artefact_toList (experimentId runId filename : String) :
    (EvidencePath.artefact experimentId runId filename).key.toList =
      experimentId.toList ++ '/' :: (runId.toList ++ '/' :: filename.toList) := by
  simp [EvidencePath.key, MinioEvidenceRepository.objectKey]

/-- A text is cut at its first slash in one way. -/
theorem cut_slash {left right rest rest' : List Char}
    (same : left ++ '/' :: rest = right ++ '/' :: rest') (plain : '/' ∉ left)
    (plain' : '/' ∉ right) : left = right ∧ rest = rest' := by
  induction left generalizing right with
  | nil =>
      cases right with
      | nil => exact ⟨rfl, (List.cons.inj same).2⟩
      | cons c right => exact absurd ((List.cons.inj same).1 ▸ List.mem_cons_self) plain'
  | cons c left ih =>
      cases right with
      | nil => exact absurd ((List.cons.inj same).1 ▸ List.mem_cons_self) plain
      | cons d right =>
          obtain ⟨rfl, tails⟩ := List.cons.inj same
          obtain ⟨rfl, rests⟩ := ih tails (mt (List.mem_cons_of_mem c) plain)
            (mt (List.mem_cons_of_mem c) plain')
          exact ⟨rfl, rests⟩

theorem EvidencePath.key_injective : Set.InjOn EvidencePath.key {path | path.Plain} := by
  intro left plain right plain' same
  have texts := congrArg String.toList same
  have noSlash : '/' ∉ "comparison.json".toList := by decide
  cases left with
  | comparison e =>
      rw [key_comparison_toList] at texts
      cases right with
      | comparison e' =>
          rw [key_comparison_toList] at texts
          rw [String.toList_inj.mp (cut_slash texts plain plain').1]
      | artefact e' r' n' =>
          rw [key_artefact_toList] at texts
          exact absurd ((cut_slash texts plain plain'.1).2 ▸ by simp) noSlash
  | artefact e r n =>
      rw [key_artefact_toList] at texts
      cases right with
      | comparison e' =>
          rw [key_comparison_toList] at texts
          exact absurd ((cut_slash texts plain.1 plain').2 ▸ by simp) noSlash
      | artefact e' r' n' =>
          rw [key_artefact_toList] at texts
          obtain ⟨experiments, rest⟩ := cut_slash texts plain.1 plain'.1
          obtain ⟨runs, names⟩ := cut_slash rest plain.2.1 plain'.2.1
          rw [String.toList_inj.mp experiments, String.toList_inj.mp runs,
            String.toList_inj.mp names]

/-- The objects of a bucket are the contents of an archive. -/
structure Mirrors (bucket : Bucket) (archive : Archive) : Prop where
  rows : bucket.rows = renamed EvidencePath.key archive.rows
  plain : ∀ row ∈ archive.rows, row.1.Plain

namespace Mirrors

variable {bucket : Bucket} {archive : Archive}

theorem get_eq (mirrors : Mirrors bucket archive) {path : EvidencePath} (plain : path.Plain) :
    bucket.get path.key = archive.get path := by
  rw [Dict.get, Table.lookup, mirrors.rows,
    find?_renamed EvidencePath.key_injective plain mirrors.plain, Option.map_map]
  rfl

theorem set (mirrors : Mirrors bucket archive) (path : EvidencePath) (plain : path.Plain)
    (content : Bytes) : Mirrors (bucket.set path.key content) (archive.put path content) where
  rows := by
    have written := upsertRow_renamed EvidencePath.key_injective content plain mirrors.plain
    rw [← mirrors.rows] at written
    exact written
  plain row member := by
    rcases Archive.mem_rows_put member with rfl | old
    · exact plain
    · exact mirrors.plain row old

/-- The prefix of a run selects the keys of its files. -/
theorem prefix_key_iff {experimentId runId : String} (plainExperiment : '/' ∉ experimentId.toList)
    (plainRun : '/' ∉ runId.toList) {path : EvidencePath} (plain : path.Plain) :
    (MinioEvidenceRepository.objectKey experimentId runId "").toList <+: path.key.toList ↔
      path.ofRun experimentId runId = true := by
  have stem : (MinioEvidenceRepository.objectKey experimentId runId "").toList =
      experimentId.toList ++ '/' :: (runId.toList ++ '/' :: []) := by
    simp [MinioEvidenceRepository.objectKey]
  rw [stem]
  cases path with
  | comparison experiment =>
      rw [key_comparison_toList]
      refine ⟨?_, nofun⟩
      rintro ⟨rest, same⟩
      simp only [List.append_assoc, List.cons_append] at same
      have slash := (cut_slash same plainExperiment plain).2 ▸
        (by simp : '/' ∈ runId.toList ++ '/' :: ([] ++ rest))
      exact absurd slash (by decide)
  | artefact experiment run filename =>
      rw [key_artefact_toList]
      constructor
      · rintro ⟨rest, same⟩
        simp only [List.append_assoc, List.cons_append] at same
        obtain ⟨experiments, below⟩ := cut_slash same plainExperiment plain.1
        obtain ⟨runs, -⟩ := cut_slash below plainRun plain.2.1
        simp [EvidencePath.ofRun, String.toList_inj.mp experiments, String.toList_inj.mp runs]
      · intro ofRun
        obtain ⟨rfl, rfl⟩ := of_decide_eq_true ofRun
        exact ⟨filename.toList, by simp⟩

theorem listObjects_eq (mirrors : Mirrors bucket archive) {experimentId runId : String}
    (plainExperiment : '/' ∉ experimentId.toList) (plainRun : '/' ∉ runId.toList) :
    (bucket.rows.any fun entry =>
      (MinioEvidenceRepository.objectKey experimentId runId "").toList.isPrefixOf
        entry.1.toList) = archive.occupied experimentId runId := by
  rw [mirrors.rows, List.any_map, Archive.occupied, Bool.eq_iff_iff, List.any_eq_true,
    List.any_eq_true]
  refine exists_congr fun row => and_congr_right fun member => ?_
  rw [Function.comp_apply, List.isPrefixOf_iff_prefix]
  exact prefix_key_iff plainExperiment plainRun (mirrors.plain row member)

end Mirrors

/-! ## Identifiers are plain -/

theorem toList_of_afterPrefix {expected text rest : List Char}
    (found : afterPrefix expected text = some rest) : text = expected ++ rest := by
  induction expected generalizing text with
  | nil =>
      obtain rfl := Option.some.inj found
      rfl
  | cons c expected ih =>
      cases text with
      | nil => cases found
      | cons d text =>
          rw [afterPrefix] at found
          split at found
          next same => rw [same, ih found, List.cons_append]
          next => cases found

/-- An identifier which ends in digits has no slash. -/
theorem noSlash_of_isPrefixedRun {expected text : String} {admitted : ℕ → Bool}
    (matches_ : isPrefixedRun expected isDecimalDigit admitted text = true)
    (plain : '/' ∉ expected.toList) : '/' ∉ text.toList := by
  unfold isPrefixedRun at matches_
  split at matches_
  next rest found =>
    rw [toList_of_afterPrefix found, List.mem_append]
    rintro (inside | digit)
    · exact plain inside
    · have digits := (Bool.and_eq_true _ _).mp matches_ |>.2
      exact absurd (List.all_eq_true.mp digits _ digit) (by decide)
  next => cases matches_

theorem noSlash_of_isExperimentId {experimentId : String} (valid : isExperimentId experimentId) :
    '/' ∉ experimentId.toList := by
  obtain ⟨domain, found⟩ := Option.isSome_iff_exists.mp valid
  have matches_ : isPrefixedRun (experimentIdStem domain) isDecimalDigit (3 ≤ ·) experimentId := by
    simpa using List.find?_some found
  refine noSlash_of_isPrefixedRun matches_ ?_
  cases domain <;> decide

theorem noSlash_of_isRunId {runId : String} (valid : isRunId runId) : '/' ∉ runId.toList :=
  noSlash_of_isPrefixedRun valid (by decide)

/-! ## The local repository -/

section Local

variable {codec : Codec} {root : PurePath} {tree : Tree} {archive : Archive}
  {input : ℕ → Unit} {position : ℕ}

/-- The files of a run are written below its directory. -/
theorem writeAll_represents {experimentId runId : String} {artefacts : List (String × Bytes)}
    (represents : tree.Represents archive) (directory : [experimentId, runId] ∈ tree.directories) :
    ((writeAll (fun name content =>
        onFiles (.writeBytes ([experimentId, runId] ++ [name]) content)) artefacts).run execFile
      input position tree).2.2.Represents (archive.putAll experimentId runId artefacts) := by
  induction artefacts generalizing tree archive position with
  | nil => exact represents
  | cons artefact artefacts ih =>
      obtain ⟨name, content⟩ := artefact
      have written : (tree.writeBytes [experimentId, runId, name] content).Represents
          (archive.put (.artefact experimentId runId name) content) :=
        represents.writeBytes (.artefact experimentId runId name) directory content
      exact ih written directory

/-- What the archive holds can be read as text. -/
structure Archive.Readable (codec : Codec) (archive : Archive) : Prop where
  manifests : ∀ experimentId runId content,
    archive.get (.artefact experimentId runId "manifest.json") = some content → PlainText content
  comparisons : ∀ experimentId content, archive.get (.comparison experimentId) = some content →
    ∃ report, content = encodeUtf8 (codec.dumpComparison report)

theorem run_saveRunEvidence_of_entries {bundle : EvidenceBundle}
    (entries : tree.hasEntries [bundle.manifest.experimentId, bundle.manifest.runId] = true) :
    (LocalEvidenceRepository.saveRunEvidence root bundle).run execFile input position tree =
      (.error (.evidenceAlreadyExists
        (evidenceAlreadyExists bundle.manifest.experimentId bundle.manifest.runId)),
        position + 1, tree) := by
  have first : (execFile (input position)
      (.hasEntries [bundle.manifest.experimentId, bundle.manifest.runId]) tree).1 = true := entries
  rw [LocalEvidenceRepository.saveRunEvidence, Program.run_call_bind, first]
  rfl

theorem run_saveRunEvidence_of_empty {bundle : EvidenceBundle}
    (empty : tree.hasEntries [bundle.manifest.experimentId, bundle.manifest.runId] = false) :
    (LocalEvidenceRepository.saveRunEvidence root bundle).run execFile input position tree =
      let runDir := [bundle.manifest.experimentId, bundle.manifest.runId]
      let written := (writeAll (fun name content =>
        onFiles (.writeBytes (runDir ++ [name]) content)) bundle.artefacts.rows).run execFile
          input (position + 2) (tree.mkdir runDir)
      (.ok (LocalEvidenceRepository.location root runDir), written.2.1, written.2.2) := by
  have first : (execFile (input position)
      (.hasEntries [bundle.manifest.experimentId, bundle.manifest.runId]) tree).1 = false := empty
  rw [LocalEvidenceRepository.saveRunEvidence, Program.run_call_bind, first]
  change (onFiles (.mkdir [bundle.manifest.experimentId, bundle.manifest.runId]) >>=
    _).run _ _ _ _ = _
  rw [Program.run_call_bind, Program.run_bind]
  rfl

/-- A comparison is read from its file, if there is one. -/
theorem run_loadComparison (codec : Codec) (tree : Tree) (input : ℕ → Unit) (position : ℕ)
    (experimentId : String) :
    let outcome := (LocalEvidenceRepository.loadComparison codec experimentId).run execFile input
      position tree
    outcome.1 = ((tree.read [experimentId, "comparison.json"]).elim (.ok none) fun bytes =>
      (LocalEvidenceRepository.comparisonOf codec bytes).map some) ∧ outcome.2.2 = tree := by
  dsimp only
  rw [LocalEvidenceRepository.loadComparison, Program.run_call_bind]
  cases stored : tree.read [experimentId, "comparison.json"] with
  | none =>
      have absent : (execFile (input position) (.isFile [experimentId, "comparison.json"]) tree).1 =
          false := by
        simp [execFile, stored]
      rw [absent]
      exact ⟨rfl, rfl⟩
  | some bytes =>
      have present : (execFile (input position)
        (.isFile [experimentId, "comparison.json"]) tree).1 =
          true := by
        simp [execFile, stored]
      have content : (execFile (input (position + 1))
          (.readBytes [experimentId, "comparison.json"]) tree).1 = some bytes := stored
      rw [present]
      change ((onFiles (.readBytes [experimentId, "comparison.json"]) >>= _).run execFile input
        (position + 1) tree).1 = _ ∧ _
      rw [Program.run_call_bind, content]
      exact ⟨rfl, rfl⟩

/-- Plain text is the same manifest as text and as bytes. -/
theorem manifestOf_eq {bytes : Bytes} (lineEnds : codec.IgnoresLineEnds) (plain : PlainText bytes) :
    LocalEvidenceRepository.manifestOf codec bytes =
      MinioEvidenceRepository.manifestOf codec bytes := by
  obtain ⟨text, read, parsed⟩ := loadsText_of_plainText codec lineEnds plain
  rw [LocalEvidenceRepository.manifestOf, read, MinioEvidenceRepository.manifestOf, ← parsed]

/-- A comparison which was written is the same as text and as bytes. -/
theorem comparisonOf_eq {report : ComparisonReport}
    (escaped : '\r' ∉ (codec.dumpComparison report).toList) :
    LocalEvidenceRepository.comparisonOf codec (encodeUtf8 (codec.dumpComparison report)) =
      MinioEvidenceRepository.comparisonOf codec (encodeUtf8 (codec.dumpComparison report)) := by
  rw [LocalEvidenceRepository.comparisonOf, readText_encodeUtf8 escaped,
    MinioEvidenceRepository.comparisonOf, decodeUtf8_encodeUtf8]

theorem local_perform (root : PurePath) (input : ℕ → Unit) (position : ℕ)
    (represents : tree.Represents archive) (readable : archive.Readable codec)
    (lineEnds : codec.IgnoresLineEnds)
    (escaped : ∀ report, '\r' ∉ (codec.dumpComparison report).toList) (call : RepositoryCall) :
    let outcome :=
      ((LocalEvidenceRepository codec root).perform call).run execFile input position tree
    outcome.1 = (archive.perform codec call).1 ∧
      outcome.2.2.Represents (archive.perform codec call).2 := by
  cases call with
  | saveRunEvidence bundle =>
      have same := represents.hasEntries_eq bundle.manifest.experimentId bundle.manifest.runId
      dsimp only [EvidenceRepository.perform, LocalEvidenceRepository, Archive.perform]
      rw [Program.run_bind]
      cases occupied : archive.occupied bundle.manifest.experimentId bundle.manifest.runId with
      | true =>
          rw [run_saveRunEvidence_of_entries (same.trans occupied)]
          exact ⟨rfl, represents⟩
      | false =>
          rw [run_saveRunEvidence_of_empty (same.trans occupied)]
          exact ⟨rfl, writeAll_represents (represents.mkdir (by simp)) (tree.mem_mkdir (by simp))⟩
  | saveComparison experimentId report =>
      refine ⟨rfl, ?_⟩
      have made : (tree.mkdir [experimentId]).Represents archive := represents.mkdir (by simp)
      exact made.writeBytes (.comparison experimentId) (tree.mem_mkdir (by simp)) _
  | loadManifest experimentId runId =>
      refine ⟨?_, represents⟩
      have read : tree.read [experimentId, runId, "manifest.json"] = _ :=
        represents.read_eq (.artefact experimentId runId "manifest.json")
      change ((tree.read [experimentId, runId, "manifest.json"]).elim (.error .fileNotFound)
        (LocalEvidenceRepository.manifestOf codec)).map Answer.manifest = _
      rw [read, Archive.perform]
      cases stored : archive.get (.artefact experimentId runId "manifest.json") with
      | none => rfl
      | some content =>
          simp [manifestOf_eq lineEnds (readable.manifests experimentId runId content stored)]
  | loadComparison experimentId =>
      have read : tree.read [experimentId, "comparison.json"] = _ :=
        represents.read_eq (.comparison experimentId)
      obtain ⟨answer, kept⟩ := run_loadComparison codec tree input position experimentId
      dsimp only [EvidenceRepository.perform, LocalEvidenceRepository]
      rw [Program.run_bind, kept, answer, read]
      refine ⟨?_, represents⟩
      rw [Archive.perform]
      cases stored : archive.get (.comparison experimentId) with
      | none => rfl
      | some content =>
          obtain ⟨report, rfl⟩ := readable.comparisons experimentId content stored
          change ((LocalEvidenceRepository.comparisonOf codec _).map some).map _ = _
          rw [comparisonOf_eq (escaped report)]
          rfl
  | loadArtefact experimentId runId filename =>
      refine ⟨?_, represents⟩
      have read : tree.read [experimentId, runId, filename] = _ :=
        represents.read_eq (.artefact experimentId runId filename)
      change ((tree.read [experimentId, runId, filename]).elim
        (Except.error RepositoryError.fileNotFound) Except.ok).map Answer.artefact = _
      rw [read, Archive.perform]
      cases archive.get (.artefact experimentId runId filename) <;> rfl

end Local

/-! ## The repository in a bucket -/

section Minio

variable {codec : Codec} {bucketName : String} {bucket : Bucket} {archive : Archive}
  {input : ℕ → Unit} {position : ℕ}

/-- The objects of a run are written under its prefix. -/
theorem writeAll_mirrors {experimentId runId : String} {artefacts : List (String × Bytes)}
    (mirrors : Mirrors bucket archive) (plainExperiment : '/' ∉ experimentId.toList)
    (plainRun : '/' ∉ runId.toList) (plainNames : ∀ entry ∈ artefacts, '/' ∉ entry.1.toList) :
    Mirrors ((writeAll (fun name content => onObjects
        (.putObject (MinioEvidenceRepository.objectKey experimentId runId name) content))
      artefacts).run execObject input position bucket).2.2
        (archive.putAll experimentId runId artefacts) := by
  induction artefacts generalizing bucket archive position with
  | nil => exact mirrors
  | cons artefact artefacts ih =>
      obtain ⟨name, content⟩ := artefact
      have plain : (EvidencePath.artefact experimentId runId name).Plain :=
        ⟨plainExperiment, plainRun, plainNames _ List.mem_cons_self⟩
      exact ih (mirrors.set _ plain content) fun entry member =>
        plainNames entry (List.mem_cons_of_mem _ member)

theorem run_putRunEvidence_of_existing {bundle : EvidenceBundle}
    (existing : (execObject (input position) (.listObjects (MinioEvidenceRepository.objectKey
      bundle.manifest.experimentId bundle.manifest.runId "")) bucket).1 = true) :
    (MinioEvidenceRepository.saveRunEvidence bucketName bundle).run execObject input position
        bucket =
      (.error (.evidenceAlreadyExists
        (evidenceAlreadyExists bundle.manifest.experimentId bundle.manifest.runId)),
        position + 1, bucket) := by
  rw [MinioEvidenceRepository.saveRunEvidence, Program.run_call_bind, existing]
  rfl

theorem run_putRunEvidence_of_none {bundle : EvidenceBundle}
    (none : (execObject (input position) (.listObjects (MinioEvidenceRepository.objectKey
      bundle.manifest.experimentId bundle.manifest.runId "")) bucket).1 = false) :
    (MinioEvidenceRepository.saveRunEvidence bucketName bundle).run execObject input position
        bucket =
      let written := (writeAll (fun name content => onObjects
        (.putObject (MinioEvidenceRepository.objectKey bundle.manifest.experimentId
          bundle.manifest.runId name) content)) bundle.artefacts.rows).run execObject input
            (position + 1) bucket
      (.ok (MinioEvidenceRepository.label bucketName
        [bundle.manifest.experimentId, bundle.manifest.runId]), written.2.1, written.2.2) := by
  rw [MinioEvidenceRepository.saveRunEvidence, Program.run_call_bind, none]
  change (writeAll _ _ >>= _).run _ _ _ _ = _
  rw [Program.run_bind]
  rfl

theorem minio_perform (codec : Codec) (bucketName : String) (input : ℕ → Unit) (position : ℕ)
    (mirrors : Mirrors bucket archive) {call : RepositoryCall} (valid : call.Valid) :
    let outcome := ((MinioEvidenceRepository codec bucketName).perform call).run execObject input
      position bucket
    outcome.1 = (archive.perform codec call).1 ∧
      Mirrors outcome.2.2 (archive.perform codec call).2 := by
  cases call with
  | saveRunEvidence bundle =>
      obtain ⟨experiment, run, names⟩ := valid
      have plainExperiment := noSlash_of_isExperimentId experiment
      have plainRun := noSlash_of_isRunId run
      have same := mirrors.listObjects_eq plainExperiment plainRun
      dsimp only [EvidenceRepository.perform, MinioEvidenceRepository, Archive.perform]
      rw [Program.run_bind]
      cases occupied : archive.occupied bundle.manifest.experimentId bundle.manifest.runId with
      | true =>
          rw [run_putRunEvidence_of_existing (same.trans occupied)]
          exact ⟨rfl, mirrors⟩
      | false =>
          rw [run_putRunEvidence_of_none (same.trans occupied)]
          exact ⟨rfl, writeAll_mirrors mirrors plainExperiment plainRun fun entry member =>
            (names entry member).noSlash⟩
  | saveComparison experimentId report =>
      exact ⟨rfl, mirrors.set (.comparison experimentId) (noSlash_of_isExperimentId valid) _⟩
  | loadManifest experimentId runId =>
      have plain : (EvidencePath.artefact experimentId runId "manifest.json").Plain :=
        ⟨noSlash_of_isExperimentId valid.1, noSlash_of_isRunId valid.2, by decide⟩
      refine ⟨?_, mirrors⟩
      change Except.map _ ((bucket.get
        (EvidencePath.artefact experimentId runId "manifest.json").key).elim _ _) = _
      rw [mirrors.get_eq plain]
      rfl
  | loadComparison experimentId =>
      have plain : (EvidencePath.comparison experimentId).Plain := noSlash_of_isExperimentId valid
      refine ⟨?_, mirrors⟩
      change Except.map _ ((bucket.get (EvidencePath.comparison experimentId).key).elim _ _) = _
      rw [mirrors.get_eq plain]
      rfl
  | loadArtefact experimentId runId filename =>
      have plain : (EvidencePath.artefact experimentId runId filename).Plain :=
        ⟨noSlash_of_isExperimentId valid.1, noSlash_of_isRunId valid.2.1, valid.2.2.noSlash⟩
      refine ⟨?_, mirrors⟩
      change Except.map _ ((bucket.get
        (EvidencePath.artefact experimentId runId filename).key).elim _ _) = _
      rw [mirrors.get_eq plain, Archive.perform]
      cases archive.get (.artefact experimentId runId filename) <;> rfl

end Minio

/-! ## Equivalence -/

section Equivalence

variable {codec : Codec}

theorem Archive.Readable.perform {archive : Archive} (readable : archive.Readable codec)
    {call : RepositoryCall} (plain : call.WritesPlainText) :
    (archive.perform codec call).2.Readable codec := by
  cases call with
  | saveRunEvidence bundle =>
      dsimp only [Archive.perform]
      split
      · exact readable
      · refine ⟨fun experimentId runId content stored => ?_, fun experimentId content stored => ?_⟩
        · rcases Archive.get_putAll_cases stored with earlier | ⟨name, named, member⟩
          · exact readable.manifests experimentId runId content earlier
          · obtain ⟨-, -, rfl⟩ := EvidencePath.artefact.inj named
            exact plain content member
        · rcases Archive.get_putAll_cases stored with earlier | ⟨name, named, member⟩
          · exact readable.comparisons experimentId content earlier
          · cases named
  | saveComparison experimentId report =>
      refine ⟨fun other runId content stored => ?_, fun other content stored => ?_⟩
      · dsimp only [Archive.perform] at stored
        rw [Archive.get_put, if_neg nofun] at stored
        exact readable.manifests other runId content stored
      · dsimp only [Archive.perform] at stored
        rw [Archive.get_put] at stored
        split at stored
        · exact ⟨report, (Option.some.inj stored).symm⟩
        · exact readable.comparisons other content stored
  | loadManifest => exact readable
  | loadComparison => exact readable
  | loadArtefact => exact readable

/-- From representations of one archive both repositories answer every sequence of calls alike. -/
theorem answers_eq_of_represents (root : PurePath) (bucketName : String)
    (lineEnds : codec.IgnoresLineEnds)
    (escaped : ∀ report, '\r' ∉ (codec.dumpComparison report).toList) {calls : List RepositoryCall}
    (valid : ∀ call ∈ calls, call.Valid) (plain : ∀ call ∈ calls, call.WritesPlainText)
    {tree : Tree} {bucket : Bucket} {archive : Archive} (represents : tree.Represents archive)
    (mirrors : Mirrors bucket archive) (readable : archive.Readable codec) :
    (LocalEvidenceRepository codec root).answers execFile calls tree =
      (MinioEvidenceRepository codec bucketName).answers execObject calls bucket := by
  induction calls generalizing tree bucket archive with
  | nil => rfl
  | cons call calls ih =>
      obtain ⟨first, represents⟩ := local_perform root (fun _ => ()) 0 represents readable lineEnds
        escaped call
      obtain ⟨second, mirrors⟩ := minio_perform codec bucketName (fun _ => ()) 0 mirrors
        (valid call List.mem_cons_self)
      have later := ih (fun other member => valid other (List.mem_cons_of_mem _ member))
        (fun other member => plain other (List.mem_cons_of_mem _ member)) represents mirrors
        (readable.perform (plain call List.mem_cons_self))
      rw [EvidenceRepository.answers, EvidenceRepository.answers]
      exact congrArg₂ List.cons (first.trans second.symm) later

theorem represents_empty : ({} : Tree).Represents Table.empty where
  rows := rfl
  parents _ member := absurd member List.not_mem_nil
  shallow _ member := absurd member List.not_mem_nil

theorem mirrors_empty : Mirrors Table.empty Table.empty where
  rows := rfl
  plain _ member := absurd member List.not_mem_nil

theorem readable_empty : Archive.Readable codec Table.empty where
  manifests _ _ _ stored := by cases stored
  comparisons _ _ stored := by cases stored

/-- Both repositories answer every sequence of valid calls alike, if manifests are plain text. -/
theorem answers_eq (codec : Codec) (root : PurePath) (bucketName : String)
    (lineEnds : codec.IgnoresLineEnds)
    (escaped : ∀ report, '\r' ∉ (codec.dumpComparison report).toList) {calls : List RepositoryCall}
    (valid : ∀ call ∈ calls, call.Valid) (plain : ∀ call ∈ calls, call.WritesPlainText) :
    (LocalEvidenceRepository codec root).answers execFile calls {} =
      (MinioEvidenceRepository codec bucketName).answers execObject calls Table.empty :=
  answers_eq_of_represents root bucketName lineEnds escaped valid plain
    represents_empty mirrors_empty
    readable_empty

end Equivalence

namespace Sample

open Evidence.Sample

/-- The text of the sample manifest. -/
def manifestText : String :=
  manifest.json.canonical floatText

/-- The parts of JSON which the sample calls need. -/
def codec : Codec where
  dumps value := value.canonical floatText
  dumpModel value := value.canonical floatText
  parse _ := some manifest.json
  parseEncoded _ _ := some manifest.json
  readFields _ := .ok manifest
  dumpComparison _ := ""
  readComparison _ := .error ⟨"ComparisonReport", []⟩

def root : PurePath := .ofString "/results"

/-- A bundle with one file. -/
def bundleOf (name text : String) : EvidenceBundle where
  manifest := manifest
  artefacts := Dict.set Table.empty name (encodeUtf8 text)

/-- A bundle is saved and its manifest is loaded. -/
def calls (name text : String) : List RepositoryCall :=
  [.saveRunEvidence (bundleOf name text), .loadManifest "ZC-VPN-EXP-001" "RUN-001"]

theorem plainName_results : PlainName "results.json" := by
  constructor <;> decide

theorem plainName_manifest : PlainName "manifest.json" := by
  constructor <;> decide

theorem experimentId_valid : isExperimentId "ZC-VPN-EXP-001" = true := by decide

theorem runId_valid : isRunId "RUN-001" = true := by decide

theorem calls_valid {name : String} (plain : PlainName name) (text : String) :
    ∀ call ∈ calls name text, call.Valid := by
  intro call member
  rcases List.mem_cons.mp member with rfl | later
  · refine ⟨experimentId_valid, runId_valid, fun entry stored => ?_⟩
    obtain rfl := List.mem_singleton.mp stored
    exact plain
  · obtain rfl := List.mem_singleton.mp later
    exact ⟨experimentId_valid, runId_valid⟩

theorem plainText_manifestText : PlainText (encodeUtf8 manifestText) := by
  obtain ⟨rest, text⟩ : ∃ rest, manifestText = "\x7b\"" ++ rest :=
    Json.exists_canonical_obj floatText (List.cons_ne_nil _ _)
  refine ⟨?_, by rw [decodeUtf8_encodeUtf8]; rfl⟩
  rw [text]
  apply @detectEncoding_of_bracket "\x7b\"" 0x7b 0x22
  · decide
  · exact Or.inl rfl
  · decide

theorem calls_plain : ∀ call ∈ calls "manifest.json" manifestText, call.WritesPlainText := by
  intro call member
  rcases List.mem_cons.mp member with rfl | later
  · intro content stored
    obtain rfl := (Prod.mk.inj (List.mem_singleton.mp stored)).2
    exact plainText_manifestText
  · obtain rfl := List.mem_singleton.mp later
    trivial

theorem escaped (report : ComparisonReport) : '\r' ∉ (codec.dumpComparison report).toList := by
  change '\r' ∉ "".toList
  decide

/-- The text of the sample manifest after a byte order mark. -/
def markedText : String :=
  "\uFEFF" ++ manifestText

theorem local_rejects_marked :
    LocalEvidenceRepository.manifestOf codec (encodeUtf8 markedText) =
      .error .jsonDecode := by
  have read : readText (encodeUtf8 markedText) = some (universalNewlines markedText) := by
    simp [readText]
  have marked : (universalNewlines markedText).toList.head? = some '\uFEFF' := by
    simp [universalNewlines, markedText, universalNewlines.go]
  rw [LocalEvidenceRepository.manifestOf, read]
  simp only [loadsText, marked, if_true]
  rfl

theorem manifestOf_of_loads {bytes : Bytes} (loaded : loads codec bytes = .ok manifest.json) :
    MinioEvidenceRepository.manifestOf codec bytes = .ok manifest := by
  have valid : modelValidateManifest codec manifest.json = .ok manifest := by
    simp only [modelValidateManifest, codec, manifest_valid]
    rfl
  rw [MinioEvidenceRepository.manifestOf]
  exact bind_eq_ok.mpr ⟨manifest.json, loaded, valid⟩

theorem minio_accepts_marked :
    MinioEvidenceRepository.manifestOf codec (encodeUtf8 markedText) = .ok manifest := by
  have detected : detectEncoding (encodeUtf8 markedText) = .utf8Sig := detectEncoding_of_mark _
  apply manifestOf_of_loads
  rw [loads, detected]
  rfl

theorem minio_accepts_plain :
    MinioEvidenceRepository.manifestOf codec (encodeUtf8 manifestText) = .ok manifest := by
  apply manifestOf_of_loads
  rw [loads, plainText_manifestText.1, decodeUtf8_encodeUtf8]
  rfl

theorem local_answers (text : String) :
    (LocalEvidenceRepository codec root).answers execFile (calls "manifest.json" text) {} =
      [.ok .saved, (LocalEvidenceRepository.manifestOf codec (encodeUtf8 text)).map .manifest] :=
  rfl

theorem minio_answers (text : String) :
    (MinioEvidenceRepository codec "zeroshield-evidence").answers execObject
        (calls "manifest.json" text) Table.empty =
      [.ok .saved, (MinioEvidenceRepository.manifestOf codec (encodeUtf8 text)).map .manifest] :=
  rfl

end Sample

/-- Both repositories save the sample manifest and load it. -/
theorem answers_eq_of_sample :
    (LocalEvidenceRepository Sample.codec Sample.root).answers execFile
        (Sample.calls "manifest.json" Sample.manifestText) {} =
      [.ok .saved, .ok (.manifest Evidence.Sample.manifest)] ∧
    (MinioEvidenceRepository Sample.codec "zeroshield-evidence").answers execObject
        (Sample.calls "manifest.json" Sample.manifestText) Table.empty =
      [.ok .saved, .ok (.manifest Evidence.Sample.manifest)] := by
  have same := answers_eq Sample.codec Sample.root "zeroshield-evidence" (fun _ => rfl)
    Sample.escaped (Sample.calls_valid Sample.plainName_manifest _) Sample.calls_plain
  have loaded := Sample.minio_answers Sample.manifestText
  rw [Sample.minio_accepts_plain] at loaded
  exact ⟨same.trans loaded, loaded⟩

/-- The repositories differ on a manifest which starts with a byte order mark. -/
theorem not_answers_eq_of_mark :
    ¬ ∀ codec root bucketName calls, Codec.IgnoresLineEnds codec →
      (∀ report, '\r' ∉ (codec.dumpComparison report).toList) →
        (∀ call ∈ calls, RepositoryCall.Valid call) →
          (LocalEvidenceRepository codec root).answers execFile calls {} =
            (MinioEvidenceRepository codec bucketName).answers execObject calls Table.empty := by
  intro claim
  have same := claim Sample.codec Sample.root "zeroshield-evidence"
    (Sample.calls "manifest.json" Sample.markedText) (fun _ => rfl) Sample.escaped
    (Sample.calls_valid Sample.plainName_manifest _)
  rw [Sample.local_answers, Sample.minio_answers, Sample.local_rejects_marked,
    Sample.minio_accepts_marked] at same
  cases (List.cons.inj (List.cons.inj same).2).1

end ZeroShield.Repositories
