import ZeroShield.Repositories.Immutability

/-!
# The laws of a repository

What each method does to the archive which a backend represents, also when an exception ends it.
Both backends keep these laws, so that what follows from them holds of both.
-/

namespace ZeroShield.Repositories

open Foundation Models Evidence Program

/-- A repository on a backend which represents an archive. -/
structure LawfulRepository (codec : Codec) (I : Interface) where
  World : Type
  exec : Semantics I Unit World
  repository : EvidenceRepository I
  /-- The world holds the contents of the archive. -/
  Represents : World → Archive → Prop
  /-- A run is saved where it has no files, and an exception leaves some of its files. -/
  saveRunEvidence_ends : ∀ (bundle : EvidenceBundle) (archive : Archive),
    (RepositoryCall.saveRunEvidence bundle).Valid →
      let written := archive.putAll bundle.manifest.experimentId bundle.manifest.runId
      let occupied := archive.occupied bundle.manifest.experimentId bundle.manifest.runId
      Ends exec (Represents · archive) (repository.saveRunEvidence bundle)
        (fun result world => match result with
          | .ok _ => occupied = false ∧ Represents world (written bundle.artefacts.rows)
          | .error error => error = .evidenceAlreadyExists (evidenceAlreadyExists
              bundle.manifest.experimentId bundle.manifest.runId) ∧ Represents world archive)
        (fun world => Represents world archive ∨ occupied = false ∧
          ∃ part, part <+: bundle.artefacts.rows ∧ Represents world (written part))
  saveComparison_ends : ∀ (experimentId : String) (report : ComparisonReport) (archive : Archive),
    isExperimentId experimentId →
      let written := archive.put (.comparison experimentId)
        (encodeUtf8 (codec.dumpComparison report))
      Ends exec (Represents · archive) (repository.saveComparison experimentId report)
        (fun _ world => Represents world written)
        (fun world => Represents world archive ∨ Represents world written)
  loadManifest_ends : ∀ (experimentId runId : String) (archive : Archive),
    isExperimentId experimentId → isRunId runId →
      (∀ content, archive.get (.artefact experimentId runId "manifest.json") = some content →
        PlainText content) →
      Ends exec (Represents · archive) (repository.loadManifest experimentId runId)
        (fun result world => result =
          (archive.get (.artefact experimentId runId "manifest.json")).elim
          (.error .fileNotFound) (MinioEvidenceRepository.manifestOf codec) ∧
            Represents world archive)
        (Represents · archive)
  loadComparison_ends : ∀ (experimentId : String) (archive : Archive),
    isExperimentId experimentId →
      (∀ content, archive.get (.comparison experimentId) = some content →
        ∃ report, content = encodeUtf8 (codec.dumpComparison report)) →
      Ends exec (Represents · archive) (repository.loadComparison experimentId)
        (fun result world => result = (archive.get (.comparison experimentId)).elim (.ok none)
          (fun bytes => (MinioEvidenceRepository.comparisonOf codec bytes).map some) ∧
            Represents world archive)
        (Represents · archive)
  loadArtefact_ends : ∀ (experimentId runId filename : String) (archive : Archive),
    isExperimentId experimentId → isRunId runId → PlainName filename →
      Ends exec (Represents · archive) (repository.loadArtefact experimentId runId filename)
        (fun result world => result = (archive.get (.artefact experimentId runId filename)).elim
          (.error .fileNotFound) .ok ∧ Represents world archive)
        (Represents · archive)

/-! ## Saving a run -/

/-- A repository which checks before it writes keeps the law of saving. -/
theorem saveRunEvidence_ends_of_checked {I : Interface} {World : Type}
    {exec : Semantics I Unit World}
    {repository : EvidenceRepository I} {Represents : World → Archive → Prop}
    {experimentId runId : String} {archive : Archive} (call : RunBundle experimentId runId)
    (shape : CheckedWrites I (RunBundle experimentId runId) (Except RepositoryError PurePath))
    (code : repository.saves call = shape.program call)
    (checks : ∀ world, (exec () shape.check world).2 = world)
    (refuses : ∀ world, Represents world archive →
      shape.refuses (exec () shape.check world).1 = archive.occupied experimentId runId)
    (refusal : shape.refusal call =
      .error (.evidenceAlreadyExists (evidenceAlreadyExists experimentId runId)))
    (success : ∃ location, shape.success call = .ok location)
    (all : ∀ world, Represents world archive →
      Represents (CheckedWrites.effect exec (shape.operations call) world)
        (archive.putAll experimentId runId call.bundle.artefacts.rows))
    (parts : ∀ world operations, Represents world archive → operations <+: shape.operations call →
      ∃ part, part <+: call.bundle.artefacts.rows ∧
        Represents (CheckedWrites.effect exec operations world)
          (archive.putAll experimentId runId part)) :
    Ends exec (Represents · archive) (repository.saves call)
      (fun result world => match result with
        | .ok _ => archive.occupied experimentId runId = false ∧
            Represents world (archive.putAll experimentId runId call.bundle.artefacts.rows)
        | .error error => error = .evidenceAlreadyExists
            (evidenceAlreadyExists experimentId runId) ∧
            Represents world archive)
      (fun world => Represents world archive ∨ archive.occupied experimentId runId = false ∧
        ∃ part, part <+: call.bundle.artefacts.rows ∧
          Represents world (archive.putAll experimentId runId part)) := by
  intro input fate position world represents
  have ends := CheckedWrites.program_ends call (checks world) input fate position world rfl
  rw [← code, refuses world represents] at ends
  cases outcome : (repository.saves call).attempt exec
    (fun _ => none) input fate position world with
  | mk result rest =>
      rw [outcome] at ends
      cases result with
      | some value =>
          rcases ends with ⟨-, refused, same⟩ | ⟨free, saved, same⟩
          · obtain rfl := refused.trans refusal
            exact ⟨rfl, same ▸ represents⟩
          · obtain ⟨location, ok⟩ := success
            obtain rfl := saved.trans ok
            exact ⟨free, same ▸ all world represents⟩
      | none =>
          rcases ends with same | ⟨free, operations, some_, same⟩
          · exact Or.inl (same ▸ represents)
          · obtain ⟨part, first, left⟩ := parts world operations represents some_
            exact Or.inr ⟨free, part, first, same ▸ left⟩

/-! ## The local repository -/

section Local

variable {codec : Codec} {root : PurePath}

/-- Some of the operations of saving write some of the files. -/
theorem effect_part_represents {experimentId runId : String} {tree : Tree} {archive : Archive}
    {call : RunBundle experimentId runId} {operations : List FileOp}
    (represents : tree.Represents archive)
    (part : operations <+: (localWrites root experimentId runId).operations call) :
    ∃ artefacts, artefacts <+: call.bundle.artefacts.rows ∧
      (CheckedWrites.effect execFile operations tree).Represents
        (archive.putAll experimentId runId artefacts) := by
  rcases List.prefix_cons_iff.mp part with rfl | ⟨writes, rfl, some_⟩
  · exact ⟨[], List.nil_prefix, represents⟩
  · obtain ⟨artefacts, first, rfl⟩ := List.prefix_map_iff.mp some_
    exact ⟨artefacts, first, effect_represents experimentId runId represents artefacts⟩

/-- A single operation of reading. -/
theorem ends_of_read {I : Interface} {World : Type} {exec : Semantics I Unit World} {op : I.Op}
    {Represents : World → Prop} {α : Type} {answer : I.Result op → α} {result : α}
    (reads : ∀ world, Represents world → (exec () op world).2 = world ∧
      answer (exec () op world).1 = result) :
    Ends exec Represents (.perform op fun found => .done (answer found))
      (fun value world => value = result ∧ Represents world) Represents := by
  refine .perform (fun found world => answer found = result ∧ Represents world)
    (fun _ start => start) (fun _ world start => ?_) fun found => .of_done fun _ reached => reached
  obtain ⟨same, answered⟩ := reads world start
  exact ⟨⟨answered, same.symm ▸ start⟩, same.symm ▸ start⟩

/-- A comparison is written to its directory. -/
theorem local_saveComparison_ends (experimentId : String) (report : ComparisonReport)
    (archive : Archive) :
    Ends execFile (Tree.Represents · archive)
      (LocalEvidenceRepository.saveComparison codec root experimentId report)
      (fun _ tree => tree.Represents (archive.put (.comparison experimentId)
        (encodeUtf8 (codec.dumpComparison report))))
      (fun tree => tree.Represents archive ∨ tree.Represents (archive.put (.comparison experimentId)
        (encodeUtf8 (codec.dumpComparison report)))) := by
  refine .perform (fun _ tree => tree.Represents archive ∧ [experimentId] ∈ tree.directories)
    (fun _ represents => Or.inl represents) (fun _ tree represents => ?_) fun _ => ?_
  · have made : (tree.mkdir [experimentId]).Represents archive := represents.mkdir (by simp)
    exact ⟨⟨made, tree.mem_mkdir (by simp)⟩, Or.inl made⟩
  · refine .perform (fun _ tree => tree.Represents (archive.put (.comparison experimentId)
      (encodeUtf8 (codec.dumpComparison report)))) (fun _ start => Or.inl start.1)
      (fun _ tree start => ?_) fun _ => .of_done fun _ written => written
    have written := start.1.writeBytes (.comparison experimentId) start.2
      (encodeUtf8 (codec.dumpComparison report))
    exact ⟨written, Or.inr written⟩

/-- A comparison is read, if its file exists. -/
theorem local_loadComparison_ends {experimentId : String} {archive : Archive}
    (escaped : ∀ report, '\r' ∉ (codec.dumpComparison report).toList)
    (written : ∀ content, archive.get (.comparison experimentId) = some content →
      ∃ report, content = encodeUtf8 (codec.dumpComparison report)) :
    Ends execFile (Tree.Represents · archive)
      (LocalEvidenceRepository.loadComparison codec experimentId)
      (fun result tree => result = (archive.get (.comparison experimentId)).elim (.ok none)
        (fun bytes => (MinioEvidenceRepository.comparisonOf codec bytes).map some) ∧
          tree.Represents archive)
      (Tree.Represents · archive) := by
  refine .perform (fun present tree => present = (archive.get (.comparison experimentId)).isSome ∧
    tree.Represents archive) (fun _ start => start) (fun _ tree represents => ?_) fun present => ?_
  · have read : tree.read [experimentId, "comparison.json"] = _ :=
      represents.read_eq (.comparison experimentId)
    exact ⟨⟨congrArg Option.isSome read, represents⟩, represents⟩
  · cases stored : archive.get (.comparison experimentId) with
    | none =>
        cases present with
        | true => exact fun _ _ _ _ start => by cases start.1
        | false => exact .of_done fun _ start => ⟨rfl, start.2⟩
    | some content =>
        cases present with
        | false => exact fun _ _ _ _ start => by cases start.1
        | true =>
            refine .conseq (ends_of_read fun tree represents => ⟨rfl, ?_⟩)
              (fun _ start => start.2) (fun _ _ reached => reached) fun _ left => left
            have read : tree.read [experimentId, "comparison.json"] = _ :=
              represents.read_eq (.comparison experimentId)
            obtain ⟨report, rfl⟩ := written content stored
            rw [stored] at read
            change (tree.read [experimentId, "comparison.json"]).elim _ _ = _
            rw [read]
            exact congrArg (Except.map some) (comparisonOf_eq (escaped report))

/-- The local repository keeps the laws. -/
def localLaws (codec : Codec) (root : PurePath) (lineEnds : codec.IgnoresLineEnds)
    (escaped : ∀ report, '\r' ∉ (codec.dumpComparison report).toList) :
    LawfulRepository codec files where
  World := Tree
  exec := execFile
  repository := LocalEvidenceRepository codec root
  Represents := Tree.Represents
  saveRunEvidence_ends bundle archive valid :=
    saveRunEvidence_ends_of_checked ⟨bundle, valid, rfl, rfl⟩ (localWrites root _ _)
      (local_saves_eq _) (fun _ => rfl) (fun _ represents => represents.hasEntries_eq _ _) rfl
      ⟨_, rfl⟩ (fun _ represents => effect_represents _ _ represents _)
      fun _ _ represents part => effect_part_represents represents part
  saveComparison_ends experimentId report archive _ :=
    local_saveComparison_ends experimentId report archive
  loadManifest_ends experimentId runId archive _ _ plain := by
    refine ends_of_read fun tree represents => ⟨rfl, ?_⟩
    have read : tree.read [experimentId, runId, "manifest.json"] = _ :=
      represents.read_eq (.artefact experimentId runId "manifest.json")
    change (tree.read [experimentId, runId, "manifest.json"]).elim _ _ = _
    rw [read]
    cases stored : archive.get (.artefact experimentId runId "manifest.json") with
    | none => rfl
    | some content => exact manifestOf_eq lineEnds (plain content stored)
  loadComparison_ends experimentId archive _ written := local_loadComparison_ends escaped written
  loadArtefact_ends experimentId runId filename archive _ _ _ := by
    refine ends_of_read fun tree represents => ⟨rfl, ?_⟩
    have read : tree.read [experimentId, runId, filename] = _ :=
      represents.read_eq (.artefact experimentId runId filename)
    change (tree.read [experimentId, runId, filename]).elim _ _ = _
    rw [read]

end Local

/-! ## The repository in a bucket -/

section Minio

variable {codec : Codec} {bucketName : String}

/-- Some of the objects of a bundle are put. -/
theorem effect_part_mirrors {experimentId runId : String} {bucket : Bucket} {archive : Archive}
    {call : RunBundle experimentId runId} {operations : List ObjectOp}
    (mirrors : Mirrors bucket archive)
    (part : operations <+: (minioWrites bucketName experimentId runId).operations call) :
    ∃ artefacts, artefacts <+: call.bundle.artefacts.rows ∧
      Mirrors (CheckedWrites.effect execObject operations bucket)
        (archive.putAll experimentId runId artefacts) := by
  obtain ⟨artefacts, first, rfl⟩ := List.prefix_map_iff.mp part
  exact ⟨artefacts, first, effect_mirrors mirrors fun entry member =>
    call.plain entry (first.subset member)⟩

/-- The repository in a bucket keeps the laws. -/
def minioLaws (codec : Codec) (bucketName : String) : LawfulRepository codec objects where
  World := Bucket
  exec := execObject
  repository := MinioEvidenceRepository codec bucketName
  Represents := Mirrors
  saveRunEvidence_ends bundle archive valid := by
    let call : RunBundle bundle.manifest.experimentId bundle.manifest.runId :=
      ⟨bundle, valid, rfl, rfl⟩
    obtain ⟨plainExperiment, plainRun, -⟩ := call.noSlash
    exact saveRunEvidence_ends_of_checked call (minioWrites bucketName _ _)
      (minio_saves_eq _) (fun _ => rfl)
      (fun _ mirrors => mirrors.listObjects_eq plainExperiment plainRun) rfl ⟨_, rfl⟩
      (fun _ mirrors => effect_mirrors mirrors call.plain)
      fun _ _ mirrors part => effect_part_mirrors mirrors part
  saveComparison_ends experimentId report archive valid := by
    refine .perform (fun _ bucket => Mirrors bucket (archive.put (.comparison experimentId)
      (encodeUtf8 (codec.dumpComparison report)))) (fun _ mirrors => Or.inl mirrors)
      (fun _ bucket mirrors => ?_) fun _ => .of_done fun _ written => written
    have written := mirrors.set (.comparison experimentId) (noSlash_of_isExperimentId valid)
      (encodeUtf8 (codec.dumpComparison report))
    exact ⟨written, Or.inr written⟩
  loadManifest_ends experimentId runId archive experiment run _ := by
    refine ends_of_read fun bucket mirrors => ⟨rfl, ?_⟩
    have plain : (EvidencePath.artefact experimentId runId "manifest.json").Plain :=
      ⟨noSlash_of_isExperimentId experiment, noSlash_of_isRunId run, by decide⟩
    exact congrArg (Option.elim · _ _) (mirrors.get_eq plain)
  loadComparison_ends experimentId archive experiment _ := by
    refine ends_of_read fun bucket mirrors => ⟨rfl, ?_⟩
    have plain : (EvidencePath.comparison experimentId).Plain :=
      noSlash_of_isExperimentId experiment
    exact congrArg (Option.elim · _ _) (mirrors.get_eq plain)
  loadArtefact_ends experimentId runId filename archive experiment run name := by
    refine ends_of_read fun bucket mirrors => ⟨rfl, ?_⟩
    have plain : (EvidencePath.artefact experimentId runId filename).Plain :=
      ⟨noSlash_of_isExperimentId experiment, noSlash_of_isRunId run, name.noSlash⟩
    exact congrArg (Option.elim · _ _) (mirrors.get_eq plain)

end Minio

end ZeroShield.Repositories
