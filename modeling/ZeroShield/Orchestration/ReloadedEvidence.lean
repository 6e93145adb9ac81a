import ZeroShield.Foundation.CanonicalJson
import ZeroShield.Orchestration.DatasetReads
import ZeroShield.Services.CategoryBreakdown

/-!
# Evidence which is loaded again

A completed call leaves the files of both runs and its comparison.  Loading them again joins the
results of both runs case by case, as long as the dataset is still there.
-/

namespace ZeroShield.Orchestration

open Foundation Models Metrics Runners Evidence Repositories Services

/-! ## What a completed call leaves -/

section Leaves

variable {codec : Codec} {request : ExecutionRequest} {primitives : Primitives} {I : Interface}
  {laws : LawfulRepository codec I} {archive : Archive}

/-- All files of a bundle are stored. -/
def Holds (codec : Codec) (archive : Archive) (bundle : Evidence.EvidenceBundle) : Prop :=
  ∀ name content, (name, content) ∈ bundle.artefacts →
    archive.get (.artefact bundle.manifest.experimentId bundle.manifest.runId name) =
      some (encodeUtf8 (artefactText codec name content))

/-- The archive with the files of a bundle. -/
def withBundle (codec : Codec) (archive : Archive) (bundle : Evidence.EvidenceBundle) : Archive :=
  archive.putAll bundle.manifest.experimentId bundle.manifest.runId
    (encodeBundle codec bundle).artefacts.rows

theorem holds_withBundle {bundle : Evidence.EvidenceBundle}
    (formed : bundle.WellFormed primitives) :
    Holds codec (withBundle codec archive bundle) bundle := by
  intro name content member
  refine Archive.get_putAll_of_mem (encodeBundle codec bundle).artefacts.distinct ?_
  rw [rows_encodeBundle formed]
  exact List.mem_map.mpr ⟨_, member, rfl⟩

/-- A bundle which is stored keeps its files when those of a free run are written. -/
theorem Holds.withBundle {bundle other : Evidence.EvidenceBundle}
    (holds : Holds codec archive bundle) (formed : bundle.WellFormed primitives)
    (free : archive.occupied other.manifest.experimentId other.manifest.runId = false) :
    Holds codec (withBundle codec archive other) bundle := by
  intro name content member
  have kept := holds name content member
  rw [Orchestration.withBundle, Archive.get_putAll_of_ne, kept]
  intro later _ same
  obtain ⟨experiment, run, -⟩ := EvidencePath.artefact.inj same
  have occupied : archive.occupied bundle.manifest.experimentId bundle.manifest.runId = true := by
    refine Archive.occupied_iff.mpr ⟨"manifest.json", ?_⟩
    rw [holds _ _ formed.written]
    rfl
  rw [experiment, run, free] at occupied
  cases occupied

theorem Holds.put {bundle : Evidence.EvidenceBundle} (holds : Holds codec archive bundle)
    (experimentId : String) (content : Bytes) :
    Holds codec (archive.put (.comparison experimentId) content) bundle := by
  intro name stored member
  rw [Archive.get_put, if_neg nofun]
  exact holds name stored member

/-- Saving a bundle writes its files where the run had none. -/
theorem saves_bundle {bundle : Evidence.EvidenceBundle} (formed : bundle.WellFormed primitives) :
    Program.Ends laws.exec (laws.Represents · archive)
      ((·.mapError ExecutionError.repository) <$>
        laws.repository.saveRunEvidence (encodeBundle codec bundle))
      (fun result world => match result with
        | .ok _ => archive.occupied bundle.manifest.experimentId bundle.manifest.runId = false ∧
            laws.Represents world (withBundle codec archive bundle)
        | .error _ => True)
      fun _ => True := by
  refine Program.Ends.map ((laws.saveRunEvidence_ends _ archive (valid_encodeBundle formed)).conseq
    (fun _ start => start) (fun _ _ reached => reached) fun _ _ => trivial) fun result world => ?_
  cases result with
  | ok location => exact fun saved => saved
  | error error => exact fun _ => trivial

/-- The archive holds what was prepared. -/
structure Archived (codec : Codec) (request : ExecutionRequest) (prepared : Prepared)
    (archive : Archive) : Prop where
  baseline : Holds codec archive prepared.baselineBundle
  mitigation : Holds codec archive prepared.mitigationBundle
  comparison : archive.get (.comparison request.experiment.experimentId) =
    some (encodeUtf8 (codec.dumpComparison prepared.report))

/-- Writing what was prepared leaves an archive which holds it. -/
theorem persist_archives {prepared : Prepared} (coherent : prepared.Coherent primitives request) :
    Program.Ends laws.exec (laws.Represents · archive)
      (persist codec request laws.repository prepared).run
      (fun result world => ∀ value, result = .ok value →
        ∃ later, Archived codec request prepared later ∧ laws.Represents world later)
      fun _ => True := by
  obtain ⟨baselineFormed, mitigationFormed, baselineExperiment, -, -, -⟩ := coherent
  have valid : isExperimentId request.experiment.experimentId := by
    rw [← baselineExperiment]
    exact (valid_of_validate baselineFormed.valid).1
  refine Program.Ends.bindExcept (saves_bundle baselineFormed) (fun _ _ _ _ => nofun) fun _ => ?_
  refine Program.Ends.of_assumed fun _ => ?_
  refine Program.Ends.bindExcept (saves_bundle mitigationFormed) (fun _ _ _ _ => nofun) fun _ => ?_
  refine Program.Ends.of_assumed fun mitigationFree => ?_
  have first : Holds codec (withBundle codec (withBundle codec archive prepared.baselineBundle)
      prepared.mitigationBundle) prepared.baselineBundle :=
    (holds_withBundle baselineFormed).withBundle baselineFormed mitigationFree
  have second : Holds codec (withBundle codec (withBundle codec archive prepared.baselineBundle)
      prepared.mitigationBundle) prepared.mitigationBundle :=
    holds_withBundle mitigationFormed
  have written : Program.Ends laws.exec
      (laws.Represents · (withBundle codec (withBundle codec archive prepared.baselineBundle)
        prepared.mitigationBundle))
      (ExceptT.lift (laws.repository.saveComparison request.experiment.experimentId
        prepared.report) : ExceptT ExecutionError (Program I) PurePath).run
      (fun _ world => laws.Represents world
        ((withBundle codec (withBundle codec archive prepared.baselineBundle)
          prepared.mitigationBundle).put (.comparison request.experiment.experimentId)
            (encodeUtf8 (codec.dumpComparison prepared.report)))) fun _ => True :=
    Program.Ends.map ((laws.saveComparison_ends _ prepared.report _ valid).conseq
      (fun _ start => start) (fun _ _ reached => reached) fun _ _ => trivial)
        fun _ _ reached => reached
  refine Program.Ends.bindExcept written (fun _ _ _ _ => nofun) fun _ => ?_
  refine .of_done fun world reached _ _ => ⟨_, ⟨first.put _ _, second.put _ _, ?_⟩, reached⟩
  rw [Archive.get_put, if_pos rfl]

/-- The world after a completed call represents an archive which holds what was prepared. -/
theorem archived_of_completed {reader : DatasetReader} {call : ExecutionCall}
    {world after : laws.World} {position : ℕ} {result : ValidationResult}
    (represents : laws.Represents world archive)
    (completed : Program.run (Semantics.beside observe laws.exec) call.moments
      (executeAndGenerateEvidence codec reader call.request primitives
        laws.repository).run 0 world =
        (.ok result, position, after)) :
    ∃ prepared later, call.prepared codec reader primitives = .ok prepared ∧
      prepared.Coherent primitives call.request ∧ result.execution = prepared.execution ∧
      result.comparisonReport = prepared.report ∧
      Archived codec call.request prepared later ∧ laws.Represents after later := by
  obtain ⟨prepared, middle, computed, returned⟩ := exists_persisted completed
  have coherence : ∀ value, call.prepared codec reader primitives = .ok value →
      value.Coherent primitives call.request :=
    Program.Yields.run prepare_yields 0 ()
  have coherent := coherence prepared computed
  have written := (persist_archives coherent).run (fun _ => ()) middle represents
  rw [returned] at written
  obtain ⟨later, archived, reached⟩ := written result rfl
  obtain ⟨execution, report⟩ :=
    (persist_yields laws.repository call.request prepared).value returned
  exact ⟨prepared, later, computed, coherent, execution, report, archived, reached⟩

end Leaves

/-! ## Programs which return a value -/

section Returns

variable {reader : EvidenceReader} {I : Interface} (laws : LawfulRepository reader.codec I)
  (archive : Archive) (moments : ℕ → Moment)

/-- Where the world represents the archive the program returns a value and leaves such a world. -/
def Returns {α : Type} (program : Program (surroundings.sum I) α) (value : α) : Prop :=
  ∀ position world, laws.Represents world archive → ∃ later after,
    program.run (Semantics.beside observe laws.exec) moments position world =
        (value, later, after) ∧
      laws.Represents after archive

variable {laws} {archive} {moments} {α β : Type}

theorem Returns.done (value : α) : Returns laws archive moments (.done value) value :=
  fun position world represents => ⟨position, world, rfl, represents⟩

theorem Returns.bind {program : Program (surroundings.sum I) α} {value : α}
    {next : α → Program (surroundings.sum I) β} {result : β}
    (first : Returns laws archive moments program value)
    (continues : Returns laws archive moments (next value) result) :
    Returns laws archive moments (program >>= next) result := by
  intro position world represents
  obtain ⟨middle, between, returned, still⟩ := first position world represents
  obtain ⟨later, after, finished, kept⟩ := continues middle between still
  exact ⟨later, after, by rw [Program.run_bind, returned, finished], kept⟩

theorem Returns.bindOk {program : Serving I α} {value : α} {next : α → Serving I β}
    {result : Except EvidenceError β}
    (first : Returns laws archive moments program.run (.ok value))
    (continues : Returns laws archive moments (next value).run result) :
    Returns laws archive moments (program >>= next).run result :=
  Returns.bind first continues

theorem Returns.lift {program : Program (surroundings.sum I) α} {value : α}
    (returns : Returns laws archive moments program value) :
    Returns laws archive moments (ExceptT.lift program : Serving I α).run (.ok value) :=
  Returns.bind returns (Returns.done _)

theorem Returns.of_ends {program : Program (surroundings.sum I) α} {value : α}
    {cut : laws.World → Prop}
    (ends : Program.Ends (Semantics.beside observe laws.exec) (laws.Represents · archive) program
      (fun result world => result = value ∧ laws.Represents world archive) cut) :
    Returns laws archive moments program value := by
  intro position world represents
  obtain ⟨returned, still⟩ := ends.run moments position represents
  exact ⟨_, _, Prod.ext returned rfl, still⟩

/-- Using the repository to obtain a value. -/
theorem Returns.stored {program : Program I (Except RepositoryError α)} {value : α}
    {cut : laws.World → Prop}
    (ends : Program.Ends laws.exec (laws.Represents · archive) program
      (fun result world => result = .ok value ∧ laws.Represents world archive) cut) :
    Returns laws archive moments (stored program).run (.ok value) :=
  Returns.bind (Returns.of_ends ends.inr) (Returns.done _)

theorem Returns.checked {result : Except EvidenceError α} {value : α} (same : result = .ok value) :
    Returns laws archive moments (checked result).run (.ok value) :=
  same ▸ Returns.done _

/-- A file which a manifest names is loaded. -/
theorem Returns.readJsonArtefact {bundle : Evidence.EvidenceBundle} {manifest : EvidenceManifest}
    {primitives : Primitives} {name file : String} {content : Json}
    (holds : Holds reader.codec archive bundle) (formed : bundle.WellFormed primitives)
    (paths : manifest.artefactPaths = artefactPaths)
    (named : artefactPaths.lookup name = some (.ofString file))
    (plain : (PurePath.ofString file).str = file ∧ PlainName file)
    (member : (file, content) ∈ bundle.artefacts)
    (reads : loads reader.codec (encodeUtf8 (artefactText reader.codec file content)) =
      .ok content) :
    Returns laws archive moments (Services.readJsonArtefact reader laws.repository
      bundle.manifest.experimentId bundle.manifest.runId manifest name).run (.ok content) := by
  obtain ⟨experiment, run, -⟩ := valid_of_validate formed.valid
  have loaded := laws.loadArtefact_ends _ _ file archive experiment run plain.2
  rw [holds file content member] at loaded
  rw [Services.readJsonArtefact, paths, named]
  dsimp only
  rw [plain.1]
  exact Returns.bindOk (Returns.stored loaded) (Returns.checked (by rw [reads]; rfl))

end Returns

/-! ## Loading the latest evidence -/

/-- What a call has prepared is read as it was written: the manifests and the comparison, the
results of both runs and the description of the dataset. -/
structure ReadsBack (reader : EvidenceReader) (prepared : Prepared) : Prop where
  restorable : prepared.Restorable reader.codec
  files : ∀ bundle ∈ [prepared.baselineBundle, prepared.mitigationBundle],
    ∀ name ∈ ["results.json", "dataset_manifest.json"], ∀ content,
      (name, content) ∈ bundle.artefacts →
        loads reader.codec (encodeUtf8 (artefactText reader.codec name content)) = .ok content
  results : ∀ outcome ∈ [prepared.execution.baseline, prepared.execution.mitigation],
    ∀ result ∈ outcome.caseResults, reader.readResult (resultJson result) = .ok result

section Latest

variable {reader : EvidenceReader}

theorem mapM_readResult {results : List CaseResult}
    (reads : ∀ result ∈ results, reader.readResult (resultJson result) = .ok result) :
    readResults reader (.arr (results.map resultJson)) = .ok results := by
  change (results.map resultJson).mapM _ = _
  induction results with
  | nil => rfl
  | cons result results ih =>
      have rest := ih fun other member => reads other (List.mem_cons_of_mem _ member)
      rw [List.map_cons, List.mapM_cons, reads result List.mem_cons_self, rest]
      rfl

theorem mapM_readResultByCase {results : List CaseResult}
    (reads : ∀ result ∈ results, reader.readResult (resultJson result) = .ok result) :
    readResultsByCase reader (.arr (results.map resultJson)) = .ok (byCase results) := by
  change (results.map resultJson).mapM _ = _
  induction results with
  | nil => rfl
  | cons result results ih =>
      have rest := ih fun other member => reads other (List.mem_cons_of_mem _ member)
      have caseId : item "case_id" (resultJson result) = .ok (.str result.caseId) := rfl
      rw [List.map_cons, List.mapM_cons, rest, caseId, reads result List.mem_cons_self]
      rfl

/-- The files of a bundle. -/
theorem artefacts_of_build {primitives : Primitives} {experiment : ExperimentDefinition}
    {testSetId manifestVersion : String} {outcome : RunOutcome} {metrics : ExperimentMetrics}
    {safetyDecision : PolicyDecision} {bundle : Evidence.EvidenceBundle}
    (built : buildRunEvidence primitives experiment testSetId outcome metrics safetyDecision
      manifestVersion = .ok bundle) :
    bundle.artefacts = bundleFiles experiment outcome metrics bundle.manifest := by
  unfold buildRunEvidence at built
  split at built
  · cases built
  next completedAt _ =>
    obtain ⟨unhashed, -, built⟩ := bind_eq_ok.mp built
    obtain ⟨manifest, -, built⟩ := bind_eq_ok.mp built
    obtain rfl := Except.ok.inj built
    rfl

variable {directories : Directories} {request : ExecutionRequest} {primitives : Primitives}
  {I : Interface} {laws : LawfulRepository reader.codec I} {archive : Archive}
  {moments : ℕ → Moment} {prepared : Prepared} {testSet : TestSet}
  {execution : ExperimentExecutionResult}

theorem returns_loadManifest {bundle : Evidence.EvidenceBundle}
    (formed : bundle.WellFormed primitives) (holds : Holds reader.codec archive bundle)
    (restores : Restores reader.codec bundle.manifest) :
    Returns laws archive moments (stored (laws.repository.loadManifest
      bundle.manifest.experimentId bundle.manifest.runId)).run (.ok bundle.manifest) := by
  obtain ⟨experiment, run, -⟩ := valid_of_validate formed.valid
  have found : archive.get (.artefact bundle.manifest.experimentId bundle.manifest.runId
      "manifest.json") = some (encodeUtf8 (reader.codec.dumpModel bundle.manifest.json)) :=
    holds _ _ formed.written
  have loaded := laws.loadManifest_ends _ _ archive experiment run fun content stored =>
    Option.some.inj (found.symm.trans stored) ▸ restores.plain
  rw [found, Option.elim_some, manifestOf_restores restores formed.valid] at loaded
  exact Returns.stored loaded

/-- The dataset which is still there is read. -/
theorem returns_loadDatasetCases {bundle : Evidence.EvidenceBundle} {raw : Bytes} {hash : String}
    {path sha256 : String} (formed : bundle.WellFormed primitives)
    (holds : Holds reader.codec archive bundle)
    (member : ("dataset_manifest.json",
      .obj [("dataset_path", .str path), ("sha256", .str sha256)]) ∈
      bundle.artefacts)
    (reads : loads reader.codec (encodeUtf8 (artefactText reader.codec "dataset_manifest.json"
      (.obj [("dataset_path", .str path), ("sha256", .str sha256)]))) =
        .ok (.obj [("dataset_path", .str path), ("sha256", .str sha256)]))
    (parsed : parseTestSet reader.codec reader.dataset raw = .ok (testSet, hash))
    (unchanged : ∀ n, (moments n).dataset = some raw) :
    Returns laws archive moments (loadDatasetCases reader directories laws.repository
      bundle.manifest.experimentId bundle.manifest.runId bundle.manifest).run
        (.ok testSet.cases) := by
  have file : (PurePath.ofString "dataset_manifest.json").str = "dataset_manifest.json" ∧
      PlainName "dataset_manifest.json" :=
    ⟨by decide, by constructor <;> decide⟩
  refine Returns.bindOk
    (Returns.readJsonArtefact holds formed formed.paths rfl file member reads) ?_
  refine Returns.bindOk (Returns.checked rfl) ?_
  -- reading the file is the only operation which depends on the moment
  have read : Returns laws archive moments (Program.inl (Program.call (I := surroundings)
      (.readBytes (directories.workingDirectory.join (reader.str (.str path))))) :
        Program (surroundings.sum I) (Option Bytes)) (some raw) := by
    intro position world represents
    refine ⟨position + 1, world, ?_, represents⟩
    rw [← unchanged position]
    rfl
  have loaded : ((some raw).elim (.error .fileNotFound) (parseTestSet reader.codec
      reader.dataset)).mapError EvidenceError.dataset = .ok (testSet, hash) := by
    rw [Option.elim_some, parsed]
    rfl
  exact Returns.bindOk (Returns.lift read)
    (Returns.bindOk (Returns.checked loaded) (Returns.done _))

variable (laws) (directories) in
/-- Evidence which was prepared is loaded with the results of both runs joined. -/
theorem returns_loadLatestEvidence {raw : Bytes} {hash : String}
    (coherent : prepared.Coherent primitives request)
    (analyses : prepared.Analyses request primitives testSet execution)
    (archived : Archived reader.codec request prepared archive)
    (readsBack : ReadsBack reader prepared)
    (parsed : parseTestSet reader.codec reader.dataset raw = .ok (testSet, hash))
    (unchanged : ∀ n, (moments n).dataset = some raw) :
    ∃ view, Returns laws archive moments (loadLatestEvidence reader directories laws.repository
        request.experiment.experimentId).run (.ok (some view)) ∧
      view.comparison = prepared.report ∧
      view.caseComparisons = joinCases execution.baseline.caseResults
        (byCase execution.mitigation.caseResults) testSet.cases := by
  obtain ⟨baselineFormed, mitigationFormed, baselineExperiment, mitigationExperiment, baselineRun,
    mitigationRun⟩ := coherent
  obtain ⟨-, sameExecution, -, baselineBuilt, mitigationBuilt⟩ := analyses
  obtain ⟨⟨baselineRestores, mitigationRestores, reportRestores⟩, files, results⟩ := readsBack
  have baselineFiles := artefacts_of_build baselineBuilt
  have mitigationFiles := artefacts_of_build mitigationBuilt
  have valid : isExperimentId request.experiment.experimentId := by
    rw [← baselineExperiment]
    exact (valid_of_validate baselineFormed.valid).1
  have resultsFile : (PurePath.ofString "results.json").str = "results.json" ∧
      PlainName "results.json" :=
    ⟨by decide, by constructor <;> decide⟩
  have loaded := laws.loadComparison_ends request.experiment.experimentId archive valid
    fun content stored => ⟨_, Option.some.inj (stored.symm.trans archived.comparison)⟩
  rw [archived.comparison, Option.elim_some, comparisonOf_dump reportRestores] at loaded
  have manifestOf {bundle : Evidence.EvidenceBundle} (formed : bundle.WellFormed primitives)
      (holds : Holds reader.codec archive bundle)
        (restores : Restores reader.codec bundle.manifest) :
      Returns laws archive moments (stored (laws.repository.loadManifest
        bundle.manifest.experimentId bundle.manifest.runId)).run (.ok bundle.manifest) :=
    returns_loadManifest formed holds restores
  have baselineManifest := manifestOf baselineFormed archived.baseline baselineRestores
  have mitigationManifest := manifestOf mitigationFormed archived.mitigation mitigationRestores
  have resultsOf (outcome : RunOutcome) {bundle : Evidence.EvidenceBundle}
      (formed : bundle.WellFormed primitives) (holds : Holds reader.codec archive bundle)
      (member : ("results.json", .arr (outcome.caseResults.map resultJson)) ∈ bundle.artefacts)
      (listed : bundle ∈ [prepared.baselineBundle, prepared.mitigationBundle]) :
      Returns laws archive moments (Services.readJsonArtefact reader laws.repository
        bundle.manifest.experimentId bundle.manifest.runId bundle.manifest "results").run
          (.ok (.arr (outcome.caseResults.map resultJson))) :=
    Returns.readJsonArtefact holds formed formed.paths rfl resultsFile member
      (files bundle listed "results.json" List.mem_cons_self _ member)
  have baselineResults := resultsOf execution.baseline baselineFormed archived.baseline
    (by rw [baselineFiles, bundleFiles]; simp) List.mem_cons_self
  have mitigationResults := resultsOf execution.mitigation mitigationFormed archived.mitigation
    (by rw [mitigationFiles, bundleFiles]; simp) (List.mem_cons_of_mem _ List.mem_cons_self)
  have description : ("dataset_manifest.json", .obj
      [("dataset_path", .str request.experiment.datasetPath.str),
        ("sha256", .str execution.baseline.run.datasetHash)]) ∈
          prepared.baselineBundle.artefacts := by
    rw [baselineFiles, bundleFiles]
    simp
  have dataset : Returns laws archive moments (loadDatasetCases reader directories laws.repository
      _ _ prepared.baselineBundle.manifest).run (.ok testSet.cases) :=
    returns_loadDatasetCases baselineFormed archived.baseline description
      (files _ List.mem_cons_self "dataset_manifest.json" (by simp) _ description) parsed unchanged
  rw [baselineExperiment, baselineRun] at baselineManifest baselineResults dataset
  rw [mitigationExperiment, mitigationRun] at mitigationManifest mitigationResults
  refine ⟨{
    experimentId := request.experiment.experimentId
    baselineManifest := prepared.baselineBundle.manifest
    mitigationManifest := prepared.mitigationBundle.manifest
    comparison := prepared.report
    caseComparisons := joinCases execution.baseline.caseResults
      (byCase execution.mitigation.caseResults) testSet.cases
    resultsDir := directories.resultsRoot.join request.experiment.experimentId
    datasetNote := none }, ?_, rfl, rfl⟩
  refine Returns.bindOk (Returns.stored loaded) ?_
  refine Returns.bindOk baselineManifest (Returns.bindOk mitigationManifest ?_)
  refine Returns.bindOk baselineResults (Returns.bindOk (Returns.checked (mapM_readResult ?_)) ?_)
  · exact sameExecution ▸ results _ List.mem_cons_self
  refine Returns.bindOk mitigationResults
    (Returns.bindOk (Returns.checked (mapM_readResultByCase ?_)) ?_)
  · exact sameExecution ▸ results _ (List.mem_cons_of_mem _ List.mem_cons_self)
  exact Returns.bindOk (Returns.lift dataset) (Returns.done _)

end Latest

/-! ## The two block rates -/

section BlockRates

variable {primitives : Primitives} {I : Interface}

/-- The comparison holds the metrics of both runs. -/
theorem report_of_analyse {experiment : ExperimentDefinition} {testSet : TestSet}
    {request : RunRequest} {execution : ExperimentExecutionResult} {clock : ℕ → DateTime}
    {analysis : Analysis}
    (analysed : analyse experiment testSet request execution clock = .ok analysis) :
    analysis.report.baselineMetrics = analysis.baselineMetrics ∧
      analysis.report.mitigationMetrics = analysis.mitigationMetrics := by
  obtain ⟨baselineMetrics, -, analysed⟩ := bind_eq_ok.mp analysed
  obtain ⟨mitigationMetrics, -, analysed⟩ := bind_eq_ok.mp analysed
  obtain ⟨report, compared, analysed⟩ := bind_eq_ok.mp analysed
  cases analysed
  obtain ⟨-, rfl⟩ := ComparisonReport.validate_eq_ok.mp (mapError_eq_ok.mp compared)
  exact ⟨rfl, rfl⟩

/-- The rate of one side agrees with the metrics exactly when its errors are in proportion. -/
theorem rate_eq_iff {cases : List TestCase} {results : List CaseResult} {runId : String}
    {metrics : ExperimentMetrics} {now : DateTime} (distinct : (cases.map (·.caseId)).Nodup)
    (recorded : List.Forall₂ (Records runId) cases results)
    (exact_ : ∀ case ∈ cases, case.category = .malformed ↔ case.expectedOutcome = .blocked)
    (some_ : ∃ case ∈ cases, case.category = .malformed)
    (calculated : calculateMetrics runId results cases now = .ok metrics) :
    some (overallRate cases results) = some metrics.blockRate ↔
      ErrorsInProportion cases results := by
  rw [Option.some.injEq, blockRate_of_records distinct recorded exact_ calculated]
  exact overallRate_eq_iff (malformedResults_pos recorded some_)

variable {reader : EvidenceReader} (laws : LawfulRepository reader.codec I)
  (directories : Directories) {call : ExecutionCall} {raw : Bytes} {testSet : TestSet}
  {hash : String} {archive : Archive} {world after : laws.World} {position : ℕ}
  {result : ValidationResult} {moments : ℕ → Moment}

/-- The evidence of a completed call is loaded, and on each side the rate which is shown agrees with
the metrics exactly when the errors are in proportion. -/
theorem sideRates_iff
    (parsed : parseTestSet reader.codec reader.dataset raw = .ok (testSet, hash))
    (dataset : ∀ n, (call.moments n).dataset = some raw)
    (exact_ : ∀ case ∈ testSet.cases,
      case.category = .malformed ↔ case.expectedOutcome = .blocked)
    (some_ : ∃ case ∈ testSet.cases, case.category = .malformed)
    (represents : laws.Represents world archive)
    (completed : Program.run (Semantics.beside observe laws.exec) call.moments
      (executeAndGenerateEvidence reader.codec reader.dataset call.request primitives
        laws.repository).run 0 world = (.ok result, position, after))
    (readsBack : ∀ prepared, call.prepared reader.codec reader.dataset primitives = .ok prepared →
      ReadsBack reader prepared)
    (unchanged : ∀ n, (moments n).dataset = some raw) :
    ∃ view, latestEvidence reader directories laws.repository laws.exec moments after
        call.request.experiment.experimentId = .ok (some view) ∧
      view.comparison = result.comparisonReport ∧
      let breakdown := summariseCaseCategories view.caseComparisons
      (breakdown.baselineMalformedBlockRate = some view.comparison.baselineMetrics.blockRate ↔
          ErrorsInProportion testSet.cases result.execution.baseline.caseResults) ∧
        (breakdown.mitigationMalformedBlockRate =
            some view.comparison.mitigationMetrics.blockRate ↔
          ErrorsInProportion testSet.cases result.execution.mitigation.caseResults) := by
  obtain ⟨prepared, later, computed, coherent, sameExecution, sameReport, archived, reached⟩ :=
    archived_of_completed represents completed
  obtain ⟨first, second, scored, executed, execution, held, parsed', held', parsed'', executes,
    analyses⟩ := ExecutionCall.prepared_spec computed
  obtain rfl : raw = first := Option.some.inj ((dataset _).symm.trans held)
  obtain rfl : raw = second := Option.some.inj ((dataset _).symm.trans held')
  obtain ⟨rfl, -⟩ := Prod.mk.inj (Except.ok.inj (parsed.symm.trans parsed'))
  obtain ⟨rfl, -⟩ := Prod.mk.inj (Except.ok.inj (parsed.symm.trans parsed''))
  obtain ⟨view, returns, comparison, joined⟩ := returns_loadLatestEvidence directories laws
    coherent analyses archived (readsBack prepared computed) parsed unchanged
  obtain ⟨-, ofExecution, ⟨clock, analysed⟩, -, -⟩ := analyses
  obtain ⟨valid, -⟩ := parseTestSet_spec parsed
  have distinct := TestSet.nodup_of_errors_eq_nil valid
  obtain ⟨baselineRecords, mitigationRecords⟩ := executes.records
  obtain ⟨baselineScored, mitigationScored, -⟩ := analyse_spec analysed
  obtain ⟨baselineMetrics, mitigationMetrics⟩ := report_of_analyse analysed
  obtain ⟨baselineRate, mitigationRate⟩ := summariseCaseCategories_of_records distinct
    baselineRecords mitigationRecords some_
  refine ⟨view, ?_, comparison.trans sameReport.symm, ?_⟩
  · obtain ⟨_, _, loaded, -⟩ := returns 0 after reached
    rw [latestEvidence]
    exact congrArg Prod.fst loaded
  · dsimp only at baselineMetrics mitigationMetrics ⊢
    rw [joined, baselineRate, mitigationRate, comparison, baselineMetrics, mitigationMetrics,
      sameExecution, ofExecution]
    exact ⟨rate_eq_iff distinct baselineRecords exact_ some_ baselineScored,
      rate_eq_iff distinct mitigationRecords exact_ some_ mitigationScored⟩

/-- Where exactly the malformed cases are expected to be blocked, the rates shown for the evidence
of a completed call are the block rates of its metrics if and only if in both runs the errored
malformed cases were blocked in the same proportion as the processed ones. -/
theorem malformedRates_iff
    (parsed : parseTestSet reader.codec reader.dataset raw = .ok (testSet, hash))
    (dataset : ∀ n, (call.moments n).dataset = some raw)
    (exact_ : ∀ case ∈ testSet.cases,
      case.category = .malformed ↔ case.expectedOutcome = .blocked)
    (some_ : ∃ case ∈ testSet.cases, case.category = .malformed)
    (represents : laws.Represents world archive)
    (completed : Program.run (Semantics.beside observe laws.exec) call.moments
      (executeAndGenerateEvidence reader.codec reader.dataset call.request primitives
        laws.repository).run 0 world = (.ok result, position, after))
    (readsBack : ∀ prepared, call.prepared reader.codec reader.dataset primitives = .ok prepared →
      ReadsBack reader prepared)
    (unchanged : ∀ n, (moments n).dataset = some raw) :
    ∃ view, latestEvidence reader directories laws.repository laws.exec moments after
        call.request.experiment.experimentId = .ok (some view) ∧
      view.comparison = result.comparisonReport ∧
      let breakdown := summariseCaseCategories view.caseComparisons
      (breakdown.baselineMalformedBlockRate = some view.comparison.baselineMetrics.blockRate ∧
          breakdown.mitigationMalformedBlockRate =
            some view.comparison.mitigationMetrics.blockRate ↔
        ErrorsInProportion testSet.cases result.execution.baseline.caseResults ∧
          ErrorsInProportion testSet.cases result.execution.mitigation.caseResults) := by
  obtain ⟨view, loaded, comparison, baselineRate, mitigationRate⟩ := sideRates_iff laws directories
    parsed dataset exact_ some_ represents completed readsBack unchanged
  exact ⟨view, loaded, comparison, and_congr baselineRate mitigationRate⟩

end BlockRates

/-! ## Compact texts -/

namespace CompactSample

/-- A number with its denominator, if it is no integer. -/
def floatText (number : ℚ) : String :=
  String.ofList ((toString number.num).toList ++ '.' ::
    if number.den = 1 then ['0'] else 'e' :: (toString (number.den : ℤ)).toList)

theorem toList_floatText (number : ℚ) : (floatText number).toList =
    (toString number.num).toList ++ '.' ::
      if number.den = 1 then ['0'] else 'e' :: (toString (number.den : ℤ)).toList := by
  rw [floatText, String.toList_ofList]

theorem numbers : Json.NumberText floatText where
  injective := by
    intro left right same
    have lists := congrArg String.toList same
    rw [toList_floatText, toList_floatText] at lists
    have dotless (value : ℤ) : '.' ∉ (toString value).toList := fun member =>
      (Json.isNumberChar_of_mem_toString member).2.1 rfl
    have after (number : ℚ) :
        '.' ∉ if number.den = 1 then ['0'] else 'e' :: (toString (number.den : ℤ)).toList := by
      split
      · decide
      · simpa using dotless number.den
    obtain ⟨numerators, -, denominators⟩ :=
      (List.append_cons_inj_of_notMem (dotless _) (after _)).mp
      lists
    have numerator := Json.toString_int_injective (String.toList_inj.mp numerators)
    refine Rat.ext numerator ?_
    split at denominators <;> split at denominators
    next whole whole' => rw [whole, whole']
    next => cases denominators
    next => cases denominators
    next =>
      have texts := (List.cons.inj denominators).2
      exact_mod_cast Json.toString_int_injective (String.toList_inj.mp texts)
  numberChars := by
    intro number c member
    rw [toList_floatText] at member
    rcases List.mem_append.mp member with digit | member
    · exact (Json.isNumberChar_of_mem_toString digit).1
    · rcases List.mem_cons.mp member with rfl | member
      · decide
      · split at member
        · obtain rfl := List.mem_singleton.mp member
          decide
        · rcases List.mem_cons.mp member with rfl | digit
          · decide
          · exact (Json.isNumberChar_of_mem_toString digit).1
  marked := by
    intro number
    rw [toList_floatText]
    exact Or.inl (List.mem_append_right _ List.mem_cons_self)

def dump (json : Json) : String :=
  String.ofList (json.compact floatText)

/-- An object with a field is written as plain text. -/
theorem detectEncoding_dump (field : String × Json) (fields : List (String × Json)) :
    detectEncoding (encodeUtf8 (dump (.obj (field :: fields)))) = .utf8 := by
  obtain ⟨rest, text⟩ := Json.exists_compact_obj floatText field fields
  have split : dump (.obj (field :: fields)) = "\x7b\"" ++ String.ofList rest := by
    rw [dump, text, ← String.toList_inj]
    simp
  rw [split]
  apply @detectEncoding_of_bracket _ 0x7b 0x22
  · decide
  · exact Or.inl rfl
  · decide

/-- An array of objects is written as plain text. -/
theorem detectEncoding_dumpItems (field : String × Json) (fields : List (String × Json))
    (items : List Json) :
    detectEncoding (encodeUtf8 (dump (.arr (.obj (field :: fields) :: items)))) = .utf8 := by
  obtain ⟨rest, text⟩ := Json.exists_compact_arr floatText field fields items
  have split : dump (.arr (.obj (field :: fields) :: items)) = "[\x7b" ++ String.ofList rest := by
    rw [dump, text, ← String.toList_inj]
    simp
  rw [split]
  apply @detectEncoding_of_bracket _ 0x5b 0x7b
  · decide
  · exact Or.inr rfl
  · decide

theorem dump_injective : Function.Injective dump := by
  intro left right same
  exact Json.compact_injective numbers.leafText (String.ofList_injective same)

end CompactSample

/-! ## A call whose strategies raise -/

namespace RaisingSample

open CompactSample

def testSet : TestSet := Sample.testSet .blocked

/-- The content of the dataset file. -/
def raw : Bytes := encodeUtf8 (dump (Sample.datasetJson .blocked))

def dataset : DatasetReader where
  sha256 := DatasetSample.sha256
  readFields _ := .ok testSet

/-- Both strategies raise on the malformed case. -/
def call : ExecutionCall where
  request := Sample.call.request
  moments _ :=
    { time := 0
      dataset := some raw
      attempt := ⟨.error ⟨"unexpected token", "ValueError"⟩, 1⟩ }
  fates _ := .completes

/-- What the call prepares with a codec which reads everything. -/
def computed : Except ExecutionError Prepared :=
  call.prepared Sample.constantCodec dataset Sample.primitives

theorem computed_succeeds : succeedsWith (fun prepared =>
    prepared.baselineBundle.manifest.runId = "RUN-001" ∧
      prepared.mitigationBundle.manifest.runId = "RUN-002") computed = true := by
  decide +kernel

/-- The call prepares evidence of two runs. -/
theorem exists_computed : ∃ prepared, computed = .ok prepared ∧
    prepared.baselineBundle.manifest.runId = "RUN-001" ∧
      prepared.mitigationBundle.manifest.runId = "RUN-002" := by
  obtain ⟨prepared, ended, runs⟩ := succeedsWith_iff.mp computed_succeeds
  exact ⟨prepared, ended, of_decide_eq_true runs⟩

theorem computed_isSome : computed.toOption.isSome = true := by
  obtain ⟨prepared, ended, -⟩ := exists_computed
  rw [ended]
  rfl

def prepared : Prepared :=
  computed.toOption.get computed_isSome

theorem computed_eq : computed = .ok prepared := by
  have found : computed.toOption = some prepared := (Option.some_get computed_isSome).symm
  obtain ⟨value, ended, -⟩ := exists_computed
  rw [ended] at found ⊢
  rw [Option.some.inj found]

attribute [irreducible] prepared

/-- What the call stores, and its dataset. -/
def documents : List Json :=
  Sample.datasetJson .blocked ::
    (prepared.baselineBundle.artefacts ++ prepared.mitigationBundle.artefacts).map (·.2)

def results : List CaseResult :=
  prepared.execution.baseline.caseResults ++ prepared.execution.mitigation.caseResults

/-- The codec reads its own texts of these documents. -/
def codec : Codec where
  dumps := dump
  dumpModel := dump
  parse document := some ((documents.find? fun json => dump json = document).getD .null)
  parseEncoded _ _ := some .null
  readFields json :=
    if json = prepared.baselineBundle.manifest.json then .ok prepared.baselineBundle.manifest
    else .ok prepared.mitigationBundle.manifest
  dumpComparison report := dump (Sample.comparisonJson report)
  readComparison _ := .ok prepared.report

def reader : EvidenceReader where
  codec
  dataset
  readResult json :=
    (results.find? fun result => resultJson result = json).elim (.error ⟨"CaseResult", []⟩) .ok
  str json := json.canonical floatText

def directories : Directories := ⟨.ofString "/", .ofString "/results"⟩

/-- The call with evidence in an empty bucket. -/
def outcome : Except ExecutionError ValidationResult × ℕ × Bucket :=
  Program.run (Semantics.beside observe execObject) call.moments
    (executeAndGenerateEvidence codec dataset call.request Sample.primitives
      (MinioEvidenceRepository codec "zeroshield-evidence")).run 0 Table.empty

theorem outcome_succeeds : succeedsWith (fun result =>
    ¬ ErrorsInProportion testSet.cases result.execution.baseline.caseResults) outcome.1 = true := by
  decide +kernel

/-- The call completes, and its errors are out of proportion. -/
theorem exists_completed : ∃ result position after, outcome = (.ok result, position, after) ∧
    ¬ ErrorsInProportion testSet.cases result.execution.baseline.caseResults := by
  obtain ⟨result, ended, apart⟩ := succeedsWith_iff.mp outcome_succeeds
  exact ⟨result, outcome.2.1, outcome.2.2, Prod.ext ended Prod.mk.eta.symm, of_decide_eq_true apart⟩

theorem prepared_eq : call.prepared codec dataset Sample.primitives = .ok prepared := by
  have constant : ∀ content, dataset.readFields content = .ok testSet := fun _ => rfl
  have clean : testSet.errors = [] := by decide
  refine (Sample.prepared_eq constant clean call ?_ ?_).trans computed_eq
  · exact Sample.loads_isOk (fun _ => rfl) fun _ _ => rfl
  · exact Sample.loads_isOk (fun _ => rfl) fun _ _ => rfl

theorem codec_parse {json : Json} (listed : json ∈ documents) :
    codec.parse (dump json) = some json := by
  have found : (documents.find? fun other => dump other = dump json).isSome :=
    List.find?_isSome.mpr ⟨json, listed, decide_eq_true rfl⟩
  obtain ⟨other, first⟩ := Option.isSome_iff_exists.mp found
  have same : dump other = dump json := by simpa using List.find?_some first
  obtain rfl := dump_injective same
  simp only [codec, first, Option.getD_some]

theorem loads_dump {json : Json} (listed : json ∈ documents)
    (plain : detectEncoding (encodeUtf8 (dump json)) = .utf8) :
    loads codec (encodeUtf8 (dump json)) = .ok json := by
  rw [loads, plain, decodeUtf8_encodeUtf8]
  dsimp only
  rw [codec_parse listed]
  rfl

theorem parsed : parseTestSet codec dataset raw = .ok (testSet, dataset.sha256 raw) := by
  have plain : detectEncoding raw = .utf8 := detectEncoding_dump _ _
  have clean : testSet.errors = [] := by decide
  have read : loads codec raw = .ok (Sample.datasetJson .blocked) :=
    loads_dump List.mem_cons_self plain
  rw [parseTestSet, read]
  exact if_pos clean

theorem resultJson_injective : Function.Injective resultJson := by
  intro left right same
  simp only [resultJson, Json.obj.injEq, List.cons.injEq, Prod.mk.injEq, Json.str.injEq,
    Json.bool.injEq, Json.float.injEq, true_and, and_true] at same
  obtain ⟨runId, caseId, decision, parserReached, errored, message, logged, latency⟩ := same
  have messages : left.errorMessage = right.errorMessage := by
    cases first : left.errorMessage <;> cases second : right.errorMessage <;>
      rw [first, second] at message
    · cases message
    · cases message
    · exact congrArg some (Json.str.inj message)
  cases left
  cases right
  simp only [CaseResult.mk.injEq]
  exact ⟨runId, caseId, StringEnum.value_injective decision, parserReached, errored,
    messages, logged,
    latency⟩

/-- The manifest, the results and the description of the dataset are among what is stored. -/
theorem mem_documents {bundle : Evidence.EvidenceBundle} {entry : String × Json}
    (listed : bundle ∈ [prepared.baselineBundle, prepared.mitigationBundle])
    (member : entry ∈ bundle.artefacts) : entry.2 ∈ documents := by
  refine List.mem_cons_of_mem _ (List.mem_map_of_mem ?_)
  rcases List.mem_cons.mp listed with rfl | other
  · exact List.mem_append_left _ member
  · obtain rfl := List.mem_singleton.mp other
    exact List.mem_append_right _ member

theorem readResult_of_mem {result : CaseResult} (listed : result ∈ results) :
    reader.readResult (resultJson result) = .ok result := by
  have found : (results.find? fun other => resultJson other = resultJson result).isSome :=
    List.find?_isSome.mpr ⟨result, listed, decide_eq_true rfl⟩
  obtain ⟨other, first⟩ := Option.isSome_iff_exists.mp found
  have same : resultJson other = resultJson result := by simpa using List.find?_some first
  obtain rfl := resultJson_injective same
  change (results.find? _).elim _ _ = _
  rw [first]
  rfl

/-- Manifests of different runs are written differently. -/
theorem json_ne {left right : EvidenceManifest} (apart : left.runId ≠ right.runId) :
    left.json ≠ right.json := by
  intro same
  simp only [EvidenceManifest.json, EvidenceManifest.fields, List.cons_append, Json.obj.injEq,
    List.cons.injEq, Prod.mk.injEq, Json.str.injEq, true_and] at same
  exact apart same.2.2.2.1

theorem restores_of {bundle : Evidence.EvidenceBundle}
    (listed : bundle ∈ [prepared.baselineBundle, prepared.mitigationBundle])
    (formed : bundle.WellFormed Sample.primitives)
    (fields : codec.readFields bundle.manifest.json = .ok bundle.manifest) :
    Restores codec bundle.manifest where
  parses := codec_parse (mem_documents listed formed.written)
  fields
  plain := ⟨detectEncoding_dump _ _, by rw [decodeUtf8_encodeUtf8]; rfl⟩

/-- The files of a run are read as they were written. -/
theorem loads_files {bundle : Evidence.EvidenceBundle} {experiment : ExperimentDefinition}
    {testSetId : String} {outcome : RunOutcome} {metrics : ExperimentMetrics}
    {safetyDecision : PolicyDecision} {runId : String}
    (listed : bundle ∈ [prepared.baselineBundle, prepared.mitigationBundle])
    (built : buildRunEvidence Sample.primitives experiment testSetId outcome metrics safetyDecision
      = .ok bundle)
    (recorded : List.Forall₂ (Records runId) testSet.cases outcome.caseResults) {name : String}
    (named : name ∈ ["results.json", "dataset_manifest.json"]) {content : Json}
    (member : (name, content) ∈ bundle.artefacts) :
    loads codec (encodeUtf8 (artefactText codec name content)) = .ok content := by
  have text : artefactText codec name content = dump content := by
    rw [artefactText]
    split <;> rfl
  rw [text]
  refine loads_dump (mem_documents listed member) ?_
  rw [artefacts_of_build built, bundleFiles] at member
  rcases List.mem_cons.mp named with rfl | named
  · have results : content = .arr (outcome.caseResults.map resultJson) := by
      simpa using member
    rw [results]
    cases found : outcome.caseResults with
    | nil =>
        rw [found] at recorded
        cases recorded
    | cons result others => exact detectEncoding_dumpItems _ _ _
  · obtain rfl := List.mem_singleton.mp named
    have description : content = .obj [("dataset_path", .str experiment.datasetPath.str),
        ("sha256", .str outcome.run.datasetHash)] := by
      simpa using member
    rw [description]
    exact detectEncoding_dump _ _

theorem codec_readFields (json : Json) : codec.readFields json =
    if json = prepared.baselineBundle.manifest.json then .ok prepared.baselineBundle.manifest
    else .ok prepared.mitigationBundle.manifest :=
  rfl

/-- What the call has prepared is read again. -/
theorem readsBack : ReadsBack reader prepared := by
  obtain ⟨first, second, scored, executed, execution, held, -, held', parsed', executes,
    analyses⟩ := ExecutionCall.prepared_spec prepared_eq
  obtain rfl : raw = second := Option.some.inj held'
  obtain ⟨rfl, -⟩ := Prod.mk.inj (Except.ok.inj (parsed.symm.trans parsed'))
  obtain ⟨baselineRecords, mitigationRecords⟩ := executes.records
  obtain ⟨-, rfl, -, baselineBuilt, mitigationBuilt⟩ := analyses
  obtain ⟨value, ended, baselineRun, mitigationRun⟩ := exists_computed
  obtain rfl : prepared = value := Except.ok.inj (computed_eq.symm.trans ended)
  have apart : prepared.mitigationBundle.manifest.json ≠ prepared.baselineBundle.manifest.json := by
    apply json_ne
    rw [baselineRun, mitigationRun]
    decide
  have baselineFormed := wellFormed_of_build _ baselineBuilt
  have mitigationFormed := wellFormed_of_build _ mitigationBuilt
  refine ⟨⟨?_, ?_, rfl⟩, ?_, ?_⟩
  · apply restores_of List.mem_cons_self baselineFormed
    rw [codec_readFields, if_pos rfl]
  · apply restores_of (List.mem_cons_of_mem _ List.mem_cons_self) mitigationFormed
    rw [codec_readFields, if_neg apart]
  · intro bundle listed name named content member
    rcases List.mem_cons.mp listed with rfl | other
    · exact loads_files listed baselineBuilt baselineRecords named member
    · obtain rfl := List.mem_singleton.mp other
      exact loads_files listed mitigationBuilt mitigationRecords named member
  · intro outcome listed result member
    apply readResult_of_mem
    rcases List.mem_cons.mp listed with rfl | other
    · exact List.mem_append_left _ member
    · exact List.mem_append_right _ (List.mem_singleton.mp other ▸ member)

theorem dataset_moments (n : ℕ) : (call.moments n).dataset = some raw := rfl

theorem exact_of_sample : (∀ case ∈ testSet.cases,
      case.category = .malformed ↔ case.expectedOutcome = .blocked) ∧
    ∃ case ∈ testSet.cases, case.category = .malformed := by
  decide

theorem readsBack_of_prepared {value : Prepared}
    (computed : call.prepared codec dataset Sample.primitives = .ok value) :
    ReadsBack reader value := by
  obtain rfl := Except.ok.inj (prepared_eq.symm.trans computed)
  exact readsBack

end RaisingSample

/-- The evidence of a call whose strategies raise is loaded, and its rates agree exactly when the
errors are in proportion. -/
theorem malformedRates_iff_of_raising : ∃ result position after view,
    RaisingSample.outcome = (.ok result, position, after) ∧
      latestEvidence RaisingSample.reader RaisingSample.directories
          (MinioEvidenceRepository RaisingSample.codec "zeroshield-evidence") execObject
            RaisingSample.call.moments after "ZC-VPN-EXP-001" = .ok (some view) ∧
        view.comparison = result.comparisonReport ∧
        let breakdown := summariseCaseCategories view.caseComparisons
        (breakdown.baselineMalformedBlockRate = some view.comparison.baselineMetrics.blockRate ∧
            breakdown.mitigationMalformedBlockRate =
              some view.comparison.mitigationMetrics.blockRate ↔
          ErrorsInProportion RaisingSample.testSet.cases result.execution.baseline.caseResults ∧
            ErrorsInProportion RaisingSample.testSet.cases
              result.execution.mitigation.caseResults) := by
  obtain ⟨result, position, after, completed, -⟩ := RaisingSample.exists_completed
  obtain ⟨view, loaded⟩ := @malformedRates_iff _ _ RaisingSample.reader
    (minioLaws RaisingSample.codec "zeroshield-evidence") RaisingSample.directories
    RaisingSample.call _ _ _ _ _ _ _ _ RaisingSample.call.moments RaisingSample.parsed
    RaisingSample.dataset_moments RaisingSample.exact_of_sample.1 RaisingSample.exact_of_sample.2
    mirrors_empty completed (fun _ => RaisingSample.readsBack_of_prepared)
    RaisingSample.dataset_moments
  exact ⟨result, position, after, view, completed, loaded⟩

/-- Where both strategies raise on the malformed case, it is shown as blocked, but not in the block
rate. -/
theorem malformedRates_of_raising : ∃ result position after view,
    RaisingSample.outcome = (.ok result, position, after) ∧
      latestEvidence RaisingSample.reader RaisingSample.directories
          (MinioEvidenceRepository RaisingSample.codec "zeroshield-evidence") execObject
            RaisingSample.call.moments after "ZC-VPN-EXP-001" = .ok (some view) ∧
        view.comparison = result.comparisonReport ∧
        (summariseCaseCategories view.caseComparisons).baselineMalformedBlockRate ≠
          some view.comparison.baselineMetrics.blockRate := by
  obtain ⟨result, position, after, completed, apart⟩ := RaisingSample.exists_completed
  obtain ⟨view, loaded, comparison, baselineRate, -⟩ := @sideRates_iff _ _ RaisingSample.reader
    (minioLaws RaisingSample.codec "zeroshield-evidence") RaisingSample.directories
    RaisingSample.call _ _ _ _ _ _ _ _ RaisingSample.call.moments RaisingSample.parsed
    RaisingSample.dataset_moments RaisingSample.exact_of_sample.1 RaisingSample.exact_of_sample.2
    mirrors_empty completed (fun _ => RaisingSample.readsBack_of_prepared)
    RaisingSample.dataset_moments
  exact ⟨result, position, after, view, completed, loaded, comparison, mt baselineRate.mp apart⟩

end ZeroShield.Orchestration
