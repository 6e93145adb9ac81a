import ZeroShield.Repositories.Laws
import ZeroShield.Services.ExperimentService

/-!
# The comparison points to complete evidence

The comparison is written after both runs, and runs are written once.  So whatever exception ends a
call, the comparison which is stored names two runs whose files are all there.
-/

namespace ZeroShield.Orchestration

open Foundation Models Metrics Runners Evidence Repositories Services

/-! ## What a call has prepared -/

section Prepared

variable {codec : Codec} {reader : DatasetReader} {request : ExecutionRequest}
  {primitives : Primitives}

/-- The manifest names the experiment, the run and the digest of its dataset. -/
theorem manifest_of_build {experiment : ExperimentDefinition} {testSetId manifestVersion : String}
    {outcome : RunOutcome} {metrics : ExperimentMetrics Number} {safetyDecision : PolicyDecision}
    {bundle : Evidence.EvidenceBundle}
    (built : buildRunEvidence primitives experiment testSetId outcome metrics safetyDecision
      manifestVersion = .ok bundle) :
    bundle.manifest.experimentId = experiment.experimentId ∧
      bundle.manifest.runId = outcome.run.runId ∧
        bundle.manifest.testSetSha256 = outcome.run.datasetHash ∧
          bundle.manifest.metrics.value = metrics := by
  unfold buildRunEvidence at built
  split at built
  · cases built
  next completedAt _ =>
    obtain ⟨unhashed, -, built⟩ := bind_eq_ok.mp built
    obtain ⟨manifest, second, built⟩ := bind_eq_ok.mp built
    obtain rfl := EvidenceManifest.validate_eq_self (mapError_eq_ok.mp second)
    obtain rfl := Except.ok.inj built
    exact ⟨rfl, rfl, rfl, rfl⟩

/-- A valid manifest has valid identifiers, and those of its metrics. -/
theorem valid_of_validate {manifest : EvidenceManifest}
    (valid : manifest.validate = .ok manifest) :
    isExperimentId manifest.experimentId ∧ isRunId manifest.runId ∧
      manifest.metrics.value.runId = manifest.runId := by
  unfold EvidenceManifest.validate at valid
  dsimp only at valid
  split at valid
  · cases valid
  next fields =>
    have clean := not_not.mp fields
    have same : checkMetricsRunIdMatches manifest = [] := by
      by_contra different
      rw [if_pos different] at valid
      split at valid <;> cases valid
    simp only [EvidenceManifest.fieldErrors, requireRunId, List.append_eq_nil_iff,
      require_eq_nil] at clean
    rw [checkMetricsRunIdMatches, require_eq_nil, decide_eq_true_eq] at same
    obtain ⟨⟨⟨⟨⟨⟨⟨⟨⟨⟨⟨-, experiment⟩, -⟩, run⟩, -⟩, -⟩, -⟩, -⟩, -⟩, -⟩, -⟩, -⟩ := clean
    exact ⟨experiment, run, same⟩

/-- The bundles of a prepared call are well formed, of its experiment, and of the runs which its
comparison names. -/
structure Prepared.Coherent (prepared : Prepared) (primitives : Primitives)
    (request : ExecutionRequest) : Prop where
  baselineFormed : prepared.baselineBundle.WellFormed primitives
  mitigationFormed : prepared.mitigationBundle.WellFormed primitives
  baselineExperiment :
    prepared.baselineBundle.manifest.experimentId = request.experiment.experimentId
  mitigationExperiment :
    prepared.mitigationBundle.manifest.experimentId = request.experiment.experimentId
  baselineRun : prepared.baselineBundle.manifest.runId = prepared.report.baselineRunId
  mitigationRun : prepared.mitigationBundle.manifest.runId = prepared.report.mitigationRunId

theorem Prepared.Analyses.coherent {prepared : Prepared} {testSet : TestSet}
    {execution : ExperimentExecutionResult}
    (analyses : prepared.Analyses request primitives testSet execution) :
    prepared.Coherent primitives request := by
  obtain ⟨-, -, ⟨clock, analysed⟩, baselineBuilt, mitigationBuilt⟩ := analyses
  have baselineFormed := wellFormed_of_build primitives baselineBuilt
  have mitigationFormed := wellFormed_of_build primitives mitigationBuilt
  obtain ⟨baselineExperiment, -, -, baselineMetrics⟩ := manifest_of_build baselineBuilt
  obtain ⟨mitigationExperiment, -, -, mitigationMetrics⟩ := manifest_of_build mitigationBuilt
  obtain ⟨-, -, baselineRun⟩ := valid_of_validate baselineFormed.valid
  obtain ⟨-, -, mitigationRun⟩ := valid_of_validate mitigationFormed.valid
  obtain ⟨_, -, analysed⟩ := bind_eq_ok.mp analysed
  obtain ⟨_, -, analysed⟩ := bind_eq_ok.mp analysed
  obtain ⟨_, compared, analysed⟩ := bind_eq_ok.mp analysed
  obtain ⟨-, rfl⟩ := ComparisonReport.validate_eq_ok.mp (mapError_eq_ok.mp compared)
  obtain ⟨rfl, rfl, same⟩ := Analysis.mk.inj (Except.ok.inj analysed)
  refine ⟨baselineFormed, mitigationFormed, baselineExperiment, mitigationExperiment, ?_, ?_⟩
  · rw [← baselineRun, baselineMetrics, ExperimentMetrics.measured_runId, ← same]
  · rw [← mitigationRun, mitigationMetrics, ExperimentMetrics.measured_runId, ← same]

theorem prepare_yields : Program.YieldsOk (fun prepared => prepared.Coherent primitives request)
    (prepare codec reader request primitives) := by
  refine Program.YieldsOk.andThen fun loaded => Program.YieldsOk.andThen fun execution => ?_
  refine Program.YieldsOk.bind (evaluate_yields loaded.1 execution) fun prepared analyses => ?_
  exact Program.YieldsOk.andThen fun _ => Program.YieldsOk.pure analyses.coherent

/-- Writing a manifest and reading it gives the manifest. -/
structure Restores (codec : Codec) (manifest : EvidenceManifest) : Prop where
  parses : codec.parse (codec.dumpModel manifest.json) = some manifest.json
  fields : codec.readFields manifest.json = .ok manifest
  plain : PlainText (encodeUtf8 (codec.dumpModel manifest.json))

/-- What a call has prepared is read as it was written. -/
structure Prepared.Restorable (prepared : Prepared) (codec : Codec) : Prop where
  baseline : Restores codec prepared.baselineBundle.manifest
  mitigation : Restores codec prepared.mitigationBundle.manifest
  report : codec.readComparison (codec.dumpComparison prepared.report) = .ok prepared.report

end Prepared

/-! ## Consistent archives -/

section Archive

variable {codec : Codec} {primitives : Primitives} {archive : Archive}
  {experimentId runId : String}

/-- All files of a bundle of the run are stored. -/
def Complete (codec : Codec) (primitives : Primitives) (archive : Archive)
    (experimentId runId : String) : Prop :=
  ∃ bundle : Evidence.EvidenceBundle, bundle.WellFormed primitives ∧
    bundle.manifest.experimentId = experimentId ∧ bundle.manifest.runId = runId ∧
      Restores codec bundle.manifest ∧ ∀ name content, (name, content) ∈ bundle.artefacts →
        archive.get (.artefact experimentId runId name) =
          some (encodeUtf8 (artefactText codec name content))

/-- The comparison of every experiment names two complete runs. -/
def Consistent (codec : Codec) (primitives : Primitives) (archive : Archive) : Prop :=
  ∀ experimentId content, archive.get (.comparison experimentId) = some content →
    ∃ report, content = encodeUtf8 (codec.dumpComparison report) ∧
      codec.readComparison (codec.dumpComparison report) = .ok report ∧
        Complete codec primitives archive experimentId report.baselineRunId ∧
          Complete codec primitives archive experimentId report.mitigationRunId

/-- A complete run has files. -/
theorem Complete.occupied (complete : Complete codec primitives archive experimentId runId) :
    archive.occupied experimentId runId = true := by
  obtain ⟨bundle, formed, -, -, -, stored⟩ := complete
  refine Archive.occupied_iff.mpr ⟨"manifest.json", ?_⟩
  rw [stored _ _ formed.written]
  rfl

theorem Complete.of_same {later : Archive}
    (complete : Complete codec primitives archive experimentId runId)
    (same : ∀ name, later.get (.artefact experimentId runId name) =
      archive.get (.artefact experimentId runId name)) :
    Complete codec primitives later experimentId runId := by
  obtain ⟨bundle, formed, experiment, run, restores, stored⟩ := complete
  refine ⟨bundle, formed, experiment, run, restores, fun name content member => ?_⟩
  rw [same, stored name content member]

theorem Complete.named (complete : Complete codec primitives archive experimentId runId)
    {experimentId' runId' : String} (experiment : experimentId = experimentId')
    (run : runId = runId') : Complete codec primitives archive experimentId' runId' :=
  experiment ▸ run ▸ complete

/-- Writing files of a run which had none leaves complete runs. -/
theorem Complete.putAll (complete : Complete codec primitives archive experimentId runId)
    {experimentId' runId' : String} (free : archive.occupied experimentId' runId' = false)
    (part : List (String × Bytes)) :
    Complete codec primitives (archive.putAll experimentId' runId' part) experimentId runId := by
  refine complete.of_same fun name => Archive.get_putAll_of_ne fun other _ same => ?_
  obtain ⟨rfl, rfl, -⟩ := EvidencePath.artefact.inj same
  have occupied := complete.occupied
  rw [free] at occupied
  cases occupied

theorem Consistent.putAll (consistent : Consistent codec primitives archive)
    (free : archive.occupied experimentId runId = false) (part : List (String × Bytes)) :
    Consistent codec primitives (archive.putAll experimentId runId part) := by
  intro experiment content stored
  rw [Archive.get_putAll_of_ne fun _ _ same => by cases same] at stored
  obtain ⟨report, written, read, baseline, mitigation⟩ := consistent experiment content stored
  exact ⟨report, written, read, baseline.putAll free part, mitigation.putAll free part⟩

theorem Consistent.put (consistent : Consistent codec primitives archive)
    {report : ComparisonReport}
    (read : codec.readComparison (codec.dumpComparison report) = .ok report)
    (baseline : Complete codec primitives archive experimentId report.baselineRunId)
    (mitigation : Complete codec primitives archive experimentId report.mitigationRunId) :
    Consistent codec primitives (archive.put (.comparison experimentId)
      (encodeUtf8 (codec.dumpComparison report))) := by
  have kept : ∀ {experiment run : String}, Complete codec primitives archive experiment run →
      Complete codec primitives (archive.put (.comparison experimentId)
        (encodeUtf8 (codec.dumpComparison report))) experiment run := by
    intro experiment run complete
    refine complete.of_same fun name => ?_
    rw [Archive.get_put, if_neg nofun]
  intro experiment content stored
  rw [Archive.get_put] at stored
  split at stored
  next same =>
    obtain rfl := EvidencePath.comparison.inj same
    obtain rfl := Option.some.inj stored
    exact ⟨report, rfl, read, kept baseline, kept mitigation⟩
  next =>
    obtain ⟨other, written, read, first, second⟩ := consistent experiment content stored
    exact ⟨other, written, read, kept first, kept second⟩

/-- The files of a bundle as they are written. -/
theorem rows_encodeBundle {bundle : Evidence.EvidenceBundle}
    (formed : bundle.WellFormed primitives) :
    (encodeBundle codec bundle).artefacts.rows = bundle.artefacts.map fun artefact =>
      (artefact.1, encodeUtf8 (artefactText codec artefact.1 artefact.2)) := by
  have names : (bundle.artefacts.map fun artefact =>
      (artefact.1, encodeUtf8 (artefactText codec artefact.1 artefact.2))).map Prod.fst =
        ["experiment.json", "dataset_manifest.json", "results.json", "metrics.json",
          "manifest.json"] := by
    rw [List.map_map, ← formed.names]
    rfl
  refine Dict.rows_update ?_
  rw [Table.rows_empty, List.nil_append, names]
  decide

theorem valid_encodeBundle {bundle : Evidence.EvidenceBundle}
    (formed : bundle.WellFormed primitives) :
    (RepositoryCall.saveRunEvidence (encodeBundle codec bundle)).Valid := by
  obtain ⟨experiment, run, -⟩ := valid_of_validate formed.valid
  refine ⟨experiment, run, fun entry member => ?_⟩
  rw [rows_encodeBundle formed] at member
  obtain ⟨artefact, stored, rfl⟩ := List.mem_map.mp member
  have name : artefact.1 ∈ bundle.artefacts.map (·.1) := List.mem_map_of_mem stored
  rw [formed.names] at name
  generalize artefact.1 = name_ at name
  simp only [List.mem_cons, List.not_mem_nil, or_false] at name
  rcases name with rfl | rfl | rfl | rfl | rfl <;> constructor <;> decide

/-- A bundle whose files were written where none were is complete. -/
theorem complete_putAll {bundle : Evidence.EvidenceBundle} (formed : bundle.WellFormed primitives)
    (restores : Restores codec bundle.manifest) (archive : Archive) :
    Complete codec primitives (archive.putAll bundle.manifest.experimentId bundle.manifest.runId
      (encodeBundle codec bundle).artefacts.rows) bundle.manifest.experimentId
        bundle.manifest.runId := by
  refine ⟨bundle, formed, rfl, rfl, restores, fun name content member => ?_⟩
  refine Archive.get_putAll_of_mem (encodeBundle codec bundle).artefacts.distinct ?_
  rw [rows_encodeBundle formed]
  exact List.mem_map.mpr ⟨_, member, rfl⟩

end Archive

/-! ## Worlds which are left -/

section Ends

variable {codec : Codec} {reader : DatasetReader} {request : ExecutionRequest}
  {primitives : Primitives} {I : Interface} {laws : LawfulRepository codec I}

/-- The world represents a consistent archive. -/
def Sound (laws : LawfulRepository codec I) (primitives : Primitives) (world : laws.World) : Prop :=
  ∃ archive, Consistent codec primitives archive ∧ laws.Represents world archive

/-- Saving a run leaves a consistent archive, and the run is complete where it was saved. -/
theorem save_ends {bundle : Evidence.EvidenceBundle} {archive : Archive}
    (formed : bundle.WellFormed primitives) (consistent : Consistent codec primitives archive) :
    Program.Ends laws.exec (laws.Represents · archive)
      ((·.mapError ExecutionError.repository) <$>
        laws.repository.saveRunEvidence (encodeBundle codec bundle))
      (fun result world => match result with
        | .ok _ => archive.occupied bundle.manifest.experimentId bundle.manifest.runId = false ∧
            laws.Represents world (archive.putAll bundle.manifest.experimentId
              bundle.manifest.runId (encodeBundle codec bundle).artefacts.rows)
        | .error _ => laws.Represents world archive)
      (Sound laws primitives) := by
  refine Program.Ends.map ((laws.saveRunEvidence_ends _ archive (valid_encodeBundle formed)).conseq
    (fun _ start => start) (fun _ _ reached => reached) fun world left => ?_) fun result world => ?_
  · rcases left with same | ⟨free, part, -, written⟩
    · exact ⟨archive, consistent, same⟩
    · exact ⟨_, consistent.putAll free part, written⟩
  · cases result with
    | ok location => exact fun saved => saved
    | error error => exact fun refused => refused.2

/-- Writing a comparison of complete runs leaves a consistent archive. -/
theorem compare_ends {archive : Archive} {experimentId : String} {report : ComparisonReport}
    (valid : isExperimentId experimentId) (consistent : Consistent codec primitives archive)
    (read : codec.readComparison (codec.dumpComparison report) = .ok report)
    (baseline : Complete codec primitives archive experimentId report.baselineRunId)
    (mitigation : Complete codec primitives archive experimentId report.mitigationRunId) :
    Program.Ends laws.exec (laws.Represents · archive)
      (ExceptT.lift (laws.repository.saveComparison experimentId report) :
        ExceptT ExecutionError (Program I) PurePath).run
      (fun _ => Sound laws primitives) (Sound laws primitives) := by
  have later := consistent.put read baseline mitigation
  refine Program.Ends.map ((laws.saveComparison_ends experimentId report archive valid).conseq
    (fun _ start => start) (fun _ _ written => ⟨_, later, written⟩) fun world left => ?_)
      fun _ _ reached => reached
  rcases left with same | written
  · exact ⟨archive, consistent, same⟩
  · exact ⟨_, later, written⟩

/-- Writing what was prepared leaves a consistent archive. -/
theorem persist_ends {prepared : Prepared} (coherent : prepared.Coherent primitives request)
    (restorable : prepared.Restorable codec) :
    Program.Ends laws.exec (Sound laws primitives)
      (persist codec request laws.repository prepared).run (fun _ => Sound laws primitives)
      (Sound laws primitives) := by
  obtain ⟨baselineFormed, mitigationFormed, baselineExperiment, mitigationExperiment, baselineRun,
    mitigationRun⟩ := coherent
  refine Program.Ends.of_exists fun archive => Program.Ends.of_assumed fun consistent => ?_
  refine Program.Ends.bindExcept (save_ends baselineFormed consistent)
    (fun _ world same => ⟨archive, consistent, same⟩) fun _ => ?_
  refine Program.Ends.of_assumed fun baselineFree => ?_
  have second := consistent.putAll baselineFree
    (encodeBundle codec prepared.baselineBundle).artefacts.rows
  refine Program.Ends.bindExcept (save_ends mitigationFormed second)
    (fun _ world same => ⟨_, second, same⟩) fun _ => ?_
  refine Program.Ends.of_assumed fun mitigationFree => ?_
  have third := second.putAll mitigationFree
    (encodeBundle codec prepared.mitigationBundle).artefacts.rows
  -- both runs are complete before the comparison is written
  have baseline := ((complete_putAll baselineFormed restorable.baseline archive).putAll
    mitigationFree (encodeBundle codec prepared.mitigationBundle).artefacts.rows).named
      baselineExperiment baselineRun
  have mitigation := (complete_putAll mitigationFormed restorable.mitigation
    (archive.putAll prepared.baselineBundle.manifest.experimentId
      prepared.baselineBundle.manifest.runId
      (encodeBundle codec prepared.baselineBundle).artefacts.rows)).named
        mitigationExperiment mitigationRun
  have valid : isExperimentId request.experiment.experimentId := by
    rw [← baselineExperiment]
    exact (valid_of_validate baselineFormed.valid).1
  exact Program.Ends.bindExcept (compare_ends valid third restorable.report baseline mitigation)
    (fun _ _ reached => reached) fun _ => .of_done fun _ reached => reached

end Ends

/-! ## Sequences of calls -/

/-- A call, with what it finds outside and how its operations end. -/
structure ExecutionCall where
  request : ExecutionRequest
  moments : ℕ → Moment
  fates : ℕ → Fate

section Calls

variable (codec : Codec) (reader : DatasetReader) (primitives : Primitives)

/-- What a call prepares when no operation fails. -/
def ExecutionCall.prepared (call : ExecutionCall) : Except ExecutionError Prepared :=
  (Program.run (Semantics.observing observe) call.moments
    (prepare codec reader call.request primitives).run 0 ()).1

/-- What a call prepares, if anything, is read as it was written. -/
def ExecutionCall.Restorable (call : ExecutionCall) : Prop :=
  ∀ prepared, call.prepared codec reader primitives = .ok prepared → prepared.Restorable codec

variable {I : Interface} {World : Type} (repository : EvidenceRepository I)
  (exec : Semantics I Unit World)

/-- The world which a call leaves, however it ends. -/
def ExecutionCall.leaves (call : ExecutionCall) (world : World) : World :=
  ((executeAndGenerateEvidence codec reader call.request primitives repository).run.attempt
    (Semantics.beside observe exec) (fun _ => none) call.moments call.fates 0 world).2.2

/-- The world after a sequence of calls. -/
def afterCalls (calls : List ExecutionCall) (world : World) : World :=
  calls.foldl (fun world call => call.leaves codec reader primitives repository exec world) world

end Calls

section Calls

variable {codec : Codec} {reader : DatasetReader} {primitives : Primitives} {I : Interface}
  {laws : LawfulRepository codec I}

/-- However a call ends, it leaves a consistent archive. -/
theorem Sound.leaves {call : ExecutionCall} {world : laws.World}
    (sound : Sound laws primitives world) (restorable : call.Restorable codec reader primitives) :
    Sound laws primitives
      (call.leaves codec reader primitives laws.repository laws.exec world) := by
  rw [ExecutionCall.leaves, executeAndGenerateEvidence, ExceptT.run_bind]
  change Sound laws primitives (Program.attempt _ _ _ _ (Program.inl _ >>= _) _ _).2.2
  rw [Program.attempt_bind, Program.attempt_inl]
  cases outcome : (prepare codec reader call.request primitives).run.attempt
      (Semantics.observing observe) (fun _ => none) call.moments call.fates 0 () with
  | mk result rest =>
      cases result with
      | none => exact sound
      | some result =>
          cases result with
          | error error => exact sound
          | ok prepared =>
              have computed : call.prepared codec reader primitives = .ok prepared :=
                congrArg Prod.fst (Program.run_of_attempt outcome)
              have yields : ∀ value, call.prepared codec reader primitives = .ok value →
                  value.Coherent primitives call.request :=
                Program.Yields.run prepare_yields 0 ()
              have ends : Program.Ends (Semantics.beside (I := surroundings) observe laws.exec)
                  (Sound laws primitives)
                    (Program.inr (persist codec call.request laws.repository prepared).run)
                    (fun _ => Sound laws primitives) (Sound laws primitives) :=
                (persist_ends (yields prepared computed) (restorable prepared computed)).inr
              exact ends.leaves call.moments call.fates rest.1 sound

theorem Sound.afterCalls {calls : List ExecutionCall} {world : laws.World}
    (sound : Sound laws primitives world)
    (restorable : ∀ call ∈ calls, call.Restorable codec reader primitives) :
    Sound laws primitives
      (afterCalls codec reader primitives laws.repository laws.exec calls world) := by
  induction calls generalizing world with
  | nil => exact sound
  | cons call calls ih =>
      exact ih (sound.leaves (restorable call List.mem_cons_self)) fun other member =>
        restorable other (List.mem_cons_of_mem _ member)

end Calls

/-! ## What is found -/

section Found

variable {codec : Codec} {reader : EvidenceReader} {primitives : Primitives} {I : Interface}
  {laws : LawfulRepository codec I} {experimentId runId : String} {archive : Archive}

/-- What a method returns. -/
def answer {I : Interface} {World α : Type} (exec : Semantics I Unit World) (world : World)
    (program : Program I α) : α :=
  (program.run exec (fun _ => ()) 0 world).1

/-- The manifest of a run and all files which it names are found, and the manifest has its
digest. -/
def Available {I : Interface} {World : Type} (primitives : Primitives)
    (repository : EvidenceRepository I) (exec : Semantics I Unit World) (world : World)
    (experimentId runId : String) : Prop :=
  ∃ manifest, answer exec world (repository.loadManifest experimentId runId) = .ok manifest ∧
    manifest.experimentId = experimentId ∧ manifest.runId = runId ∧
      manifest.manifestSha256 = manifestDigest primitives manifest ∧
        ∀ artefact ∈ manifest.artefactPaths, ∃ content,
          answer exec world (repository.loadArtefact experimentId runId artefact.2.str) =
            .ok content

/-- There is no comparison, or one whose runs are both available. -/
def PointsToEvidence {I : Interface} {World : Type} (primitives : Primitives)
    (repository : EvidenceRepository I) (exec : Semantics I Unit World) (world : World)
    (experimentId : String) : Prop :=
  answer exec world (repository.loadComparison experimentId) = .ok none ∨
    ∃ report, answer exec world (repository.loadComparison experimentId) = .ok (some report) ∧
      Available primitives repository exec world experimentId report.baselineRunId ∧
        Available primitives repository exec world experimentId report.mitigationRunId

/-- The stored comparison is read. -/
theorem comparisonOf_dump {report : ComparisonReport}
    (read : codec.readComparison (codec.dumpComparison report) = .ok report) :
    MinioEvidenceRepository.comparisonOf codec (encodeUtf8 (codec.dumpComparison report)) =
      .ok report := by
  rw [MinioEvidenceRepository.comparisonOf, decodeUtf8_encodeUtf8]
  exact congrArg (Except.mapError RepositoryError.validation) read

/-- The stored manifest is read. -/
theorem manifestOf_restores {manifest : EvidenceManifest} (restores : Restores codec manifest)
    (valid : manifest.validate = .ok manifest) :
    MinioEvidenceRepository.manifestOf codec (encodeUtf8 (codec.dumpModel manifest.json)) =
      .ok manifest := by
  obtain ⟨parses, fields, detected, -⟩ := restores
  have loaded : loads codec (encodeUtf8 (codec.dumpModel manifest.json)) = .ok manifest.json := by
    rw [loads, detected, decodeUtf8_encodeUtf8]
    dsimp only
    rw [parses]
    rfl
  rw [MinioEvidenceRepository.manifestOf, loaded]
  change modelValidateManifest codec manifest.json = _
  rw [modelValidateManifest, fields]
  dsimp only
  rw [valid]
  rfl

/-- The bundle of a complete run, with valid identifiers. -/
theorem Complete.valid (complete : Complete codec primitives archive experimentId runId) :
    isExperimentId experimentId ∧ isRunId runId := by
  obtain ⟨bundle, formed, rfl, rfl, -⟩ := complete
  exact (valid_of_validate formed.valid).imp id And.left

/-- The content of the manifest of a complete run is read as a manifest. -/
theorem Complete.manifest (complete : Complete codec primitives archive experimentId runId) :
    ∃ manifest content, archive.get (.artefact experimentId runId "manifest.json") = some content ∧
      PlainText content ∧ MinioEvidenceRepository.manifestOf codec content = .ok manifest ∧
        manifest.experimentId = experimentId ∧ manifest.runId = runId ∧
          manifest.manifestSha256 = manifestDigest primitives manifest ∧
            manifest.artefactPaths = artefactPaths := by
  obtain ⟨bundle, formed, experiment, run, restores, stored⟩ := complete
  refine ⟨bundle.manifest, _, stored _ _ formed.written, restores.plain,
    manifestOf_restores restores formed.valid, experiment, run, formed.digest, formed.paths⟩

/-- Manifests name files of the bundle. -/
theorem str_of_mem_artefactPaths {artefact : String × PurePath} (named : artefact ∈ artefactPaths) :
    artefact.2.str ∈ ["experiment.json", "dataset_manifest.json", "results.json", "metrics.json",
      "manifest.json"] ∧ PlainName artefact.2.str := by
  have texts : ∀ name ∈ ["experiment.json", "dataset_manifest.json", "results.json",
      "metrics.json"], (PurePath.ofString name).str = name ∧ PlainName name := by
    intro name member
    simp only [List.mem_cons, List.not_mem_nil, or_false] at member
    rcases member with rfl | rfl | rfl | rfl
    all_goals exact ⟨by decide, by constructor <;> decide⟩
  have paths : ∃ name ∈ ["experiment.json", "dataset_manifest.json", "results.json",
      "metrics.json"], artefact.2 = .ofString name := by
    simp only [artefactPaths, List.mem_cons, List.not_mem_nil, or_false] at named
    rcases named with rfl | rfl | rfl | rfl <;> simp
  obtain ⟨name, member, path⟩ := paths
  obtain ⟨same, plain⟩ := texts name member
  rw [path, same]
  exact ⟨List.mem_append_left ["manifest.json"] member, plain⟩

/-- The files which manifests name are stored. -/
theorem Complete.artefact (complete : Complete codec primitives archive experimentId runId)
    {artefact : String × PurePath} (named : artefact ∈ artefactPaths) :
    PlainName artefact.2.str ∧
      ∃ content, archive.get (.artefact experimentId runId artefact.2.str) = some content := by
  obtain ⟨bundle, formed, -, -, -, stored⟩ := complete
  obtain ⟨listed, plain⟩ := str_of_mem_artefactPaths named
  have written : artefact.2.str ∈ bundle.artefacts.map (·.1) := formed.names ▸ listed
  obtain ⟨⟨name, content⟩, member, same⟩ := List.mem_map.mp written
  rw [← same]
  exact ⟨by rw [same]; exact plain, _, stored name content member⟩

/-- What a complete run answers. -/
theorem Complete.available (complete : Complete codec primitives archive experimentId runId)
    {world : laws.World} (represents : laws.Represents world archive) :
    Available primitives laws.repository laws.exec world experimentId runId := by
  obtain ⟨experiment, run⟩ := complete.valid
  obtain ⟨manifest, content, stored, plain, read, ofExperiment, ofRun, digest, paths⟩ :=
    complete.manifest
  have loaded := (laws.loadManifest_ends experimentId runId archive experiment run
    (fun other found => Option.some.inj (stored.symm.trans found) ▸ plain)).run (fun _ => ()) 0
      represents
  rw [stored] at loaded
  refine ⟨manifest, loaded.1.trans read, ofExperiment, ofRun, digest, fun artefact named => ?_⟩
  rw [paths] at named
  obtain ⟨name, content, found⟩ := complete.artefact named
  have loaded := (laws.loadArtefact_ends experimentId runId artefact.2.str archive experiment run
    name).run (fun _ => ()) 0 represents
  rw [found] at loaded
  exact ⟨content, loaded.1⟩

/-- The comparison which is stored is loaded. -/
theorem Consistent.comparison (consistent : Consistent codec primitives archive)
    (experimentId : String) :
    (∀ content, archive.get (.comparison experimentId) = some content →
      ∃ report, content = encodeUtf8 (codec.dumpComparison report)) ∧
    ((archive.get (.comparison experimentId)).elim (.ok none) (fun bytes =>
        (MinioEvidenceRepository.comparisonOf codec bytes).map some) = .ok none ∨
      ∃ report, (archive.get (.comparison experimentId)).elim (.ok none) (fun bytes =>
          (MinioEvidenceRepository.comparisonOf codec bytes).map some) = .ok (some report) ∧
        Complete codec primitives archive experimentId report.baselineRunId ∧
          Complete codec primitives archive experimentId report.mitigationRunId) := by
  cases stored : archive.get (.comparison experimentId) with
  | none => exact ⟨nofun, Or.inl rfl⟩
  | some content =>
      obtain ⟨report, rfl, read, baseline, mitigation⟩ := consistent experimentId content stored
      refine ⟨fun other same => ⟨report, (Option.some.inj same).symm⟩,
        Or.inr ⟨report, ?_, baseline, mitigation⟩⟩
      exact congrArg (Except.map some) (comparisonOf_dump read)

theorem Sound.pointsToEvidence {world : laws.World} (sound : Sound laws primitives world)
    (valid : isExperimentId experimentId) :
    PointsToEvidence primitives laws.repository laws.exec world experimentId := by
  obtain ⟨archive, consistent, represents⟩ := sound
  obtain ⟨written, found⟩ := consistent.comparison experimentId
  have loaded := (laws.loadComparison_ends experimentId archive valid written).run (fun _ => ()) 0
    represents
  rcases found with absent | ⟨report, present, baseline, mitigation⟩
  · exact Or.inl (loaded.1.trans absent)
  · exact Or.inr ⟨report, loaded.1.trans present, baseline.available represents,
      mitigation.available represents⟩

end Found

/-! ## Loading the latest evidence -/

section Latest

variable {reader : EvidenceReader} {directories : Directories} {primitives : Primitives}
  {I : Interface} {laws : LawfulRepository reader.codec I} {experimentId runId : String}
  {archive : Archive}

/-- Using the repository to obtain a value. -/
theorem stored_bind {α β : Type} {program : Program I (Except RepositoryError α)} {value : α}
    {next : α → Serving I β} {post : Except EvidenceError β → laws.World → Prop}
    (ends : Program.Ends laws.exec (laws.Represents · archive) program
      (fun result world => result = .ok value ∧ laws.Represents world archive)
      (laws.Represents · archive))
    (continues : Program.Ends (Semantics.beside (I := surroundings) observe laws.exec)
      (laws.Represents · archive) (next value).run post fun _ => True) :
    Program.Ends (Semantics.beside (I := surroundings) observe laws.exec)
      (laws.Represents · archive) (stored program >>= next).run post fun _ => True := by
  have lifted : Program.Ends (Semantics.beside (I := surroundings) observe laws.exec)
      (laws.Represents · archive) (stored program).run
      (fun result world => result = .ok value ∧ laws.Represents world archive) fun _ => True := by
    refine Program.Ends.map (ends.inr.conseq (fun _ start => start) (fun _ _ reached => reached)
      fun _ _ => trivial) ?_
    rintro _ world ⟨rfl, represents⟩
    exact ⟨rfl, represents⟩
  refine Program.Ends.bindExcept lifted (fun _ _ reached => by cases reached.1) fun other => ?_
  refine Program.Ends.of_assumed fun same => ?_
  obtain rfl := Except.ok.inj same
  exact continues

theorem elim_eq_error {ε α : Type} {found : Option α} {first second : ε}
    (failed : found.elim (.error first) Except.ok = .error second) : second = first := by
  cases found with
  | none => exact (Except.error.inj failed).symm
  | some value => cases failed

/-- Bytes which cannot be parsed are not missing. -/
theorem loads_eq_error {codec : Codec} {bytes : Bytes} {error : RepositoryError}
    (failed : loads codec bytes = .error error) : error = .jsonDecode := by
  unfold loads at failed
  split at failed
  · exact elim_eq_error failed
  · exact elim_eq_error failed

section Values

variable {α β : Type} {error : RepositoryError}

theorem bind_ne {first : Except EvidenceError α} {next : α → Except EvidenceError β}
    (present : first ≠ .error (.repository error))
    (continues : ∀ value, next value ≠ .error (.repository error)) :
    (first >>= next) ≠ .error (.repository error) := by
  cases first with
  | ok value => exact continues value
  | error other => exact fun same => present (congrArg Except.error (Except.error.inj same))

theorem mapM_ne {f : α → Except EvidenceError β} {items : List α}
    (present : ∀ item, f item ≠ .error (.repository error)) :
    items.mapM f ≠ .error (.repository error) := by
  induction items with
  | nil => exact nofun
  | cons item items ih =>
      rw [List.mapM_cons]
      exact bind_ne (present item) fun _ => bind_ne ih fun _ => nofun

theorem iterate_ne {value : Json} : iterate value ≠ .error (.repository error) := by
  cases value <;> exact nofun

theorem readResult_ne {result : Json} :
    (reader.readResult result).mapError EvidenceError.validation ≠ .error (.repository error) := by
  cases reader.readResult result <;> exact nofun

theorem item_ne {name : String} {value : Json} : item name value ≠ .error (.repository error) := by
  cases value with
  | obj fields =>
      rw [item]
      cases fields.lookup name <;> exact nofun
  | _ => exact nofun

/-- Reading results does not use the repository. -/
theorem readResults_ne {results : Json} :
    readResults reader results ≠ .error (.repository error) :=
  bind_ne iterate_ne fun _ => mapM_ne fun _ => readResult_ne

theorem readResultsByCase_ne {results : Json} :
    readResultsByCase reader results ≠ .error (.repository error) := by
  refine bind_ne iterate_ne fun _ => mapM_ne fun _ => bind_ne item_ne fun caseId =>
    bind_ne readResult_ne fun _ => ?_
  cases caseId <;> exact nofun

end Values

/-- Loading a file which a manifest of a complete run names does not find it missing. -/
theorem readJsonArtefact_ends {manifest : EvidenceManifest} {name : String}
    (complete : Complete reader.codec primitives archive experimentId runId)
    (paths : manifest.artefactPaths = artefactPaths) :
    Program.Ends (Semantics.beside (I := surroundings) observe laws.exec)
      (laws.Represents · archive)
      (readJsonArtefact reader laws.repository experimentId runId manifest name).run
      (fun result world => result ≠ .error (.repository .fileNotFound) ∧
        laws.Represents world archive) fun _ => True := by
  rw [readJsonArtefact, paths]
  cases found : artefactPaths.lookup name with
  | none => exact .of_done fun _ represents => ⟨nofun, represents⟩
  | some path =>
      obtain ⟨experiment, run⟩ := complete.valid
      have named : (name, path) ∈ artefactPaths := by
        obtain ⟨before, after, same, -⟩ := List.lookup_eq_some_iff.mp found
        simp [same]
      obtain ⟨plain, content, stored⟩ := complete.artefact named
      have loads_ := laws.loadArtefact_ends experimentId runId path.str archive experiment run plain
      rw [stored] at loads_
      refine stored_bind loads_ (.of_done fun _ represents => ⟨?_, represents⟩)
      cases parsed : loads reader.codec content with
      | ok json => exact nofun
      | error error =>
          obtain rfl := loads_eq_error parsed
          exact nofun

/-- Values which are not missing may be used in what follows. -/
theorem checked_bind {α β : Type} {result : Except EvidenceError α} {next : α → Serving I β}
    (present : result ≠ .error (.repository .fileNotFound))
    (continues : ∀ value, Program.Ends (Semantics.beside (I := surroundings) observe laws.exec)
      (laws.Represents · archive) (next value).run
      (fun result _ => result ≠ .error (.repository .fileNotFound)) fun _ => True) :
    Program.Ends (Semantics.beside (I := surroundings) observe laws.exec)
      (laws.Represents · archive) (checked result >>= next).run
      (fun result _ => result ≠ .error (.repository .fileNotFound)) fun _ => True := by
  cases result with
  | ok value => exact continues value
  | error error =>
      refine .of_done fun _ _ raised => present ?_
      rw [Except.error.inj raised]

/-- The latest evidence is not found missing. -/
theorem loadLatestEvidence_ends (valid : isExperimentId experimentId) :
    Program.Ends (Semantics.beside (I := surroundings) observe laws.exec) (Sound laws primitives)
      (loadLatestEvidence reader directories laws.repository experimentId).run
      (fun result _ => result ≠ .error (.repository .fileNotFound)) fun _ => True := by
  refine Program.Ends.of_exists fun archive => Program.Ends.of_assumed fun consistent => ?_
  obtain ⟨written, found⟩ := consistent.comparison experimentId
  have loads_ := laws.loadComparison_ends experimentId archive valid written
  rcases found with absent | ⟨report, present, baseline, mitigation⟩
  · rw [absent] at loads_
    exact stored_bind loads_ (.of_done fun _ _ => nofun)
  rw [present] at loads_
  refine stored_bind loads_ ?_
  obtain ⟨-, baselineRun⟩ := baseline.valid
  obtain ⟨-, mitigationRun⟩ := mitigation.valid
  obtain ⟨manifest, content, stored, plain, read, -, -, -, paths⟩ := baseline.manifest
  obtain ⟨manifest', content', stored', plain', read', -, -, -, paths'⟩ := mitigation.manifest
  have loads_ := laws.loadManifest_ends experimentId report.baselineRunId archive valid baselineRun
    fun other found => Option.some.inj (stored.symm.trans found) ▸ plain
  have loads_' := laws.loadManifest_ends experimentId report.mitigationRunId archive valid
    mitigationRun fun other found => Option.some.inj (stored'.symm.trans found) ▸ plain'
  rw [stored, Option.elim_some, read] at loads_
  rw [stored', Option.elim_some, read'] at loads_'
  refine stored_bind loads_ (stored_bind loads_' ?_)
  refine Program.Ends.bindExcept (readJsonArtefact_ends baseline paths)
    (fun _ _ reached same => reached.1 (congrArg Except.error (Except.error.inj same)))
    fun baselineJson => .of_assumed fun _ => ?_
  refine checked_bind readResults_ne fun baselineResults => ?_
  refine Program.Ends.bindExcept (readJsonArtefact_ends mitigation paths')
    (fun _ _ reached same => reached.1 (congrArg Except.error (Except.error.inj same)))
    fun mitigationJson => .of_assumed fun _ => ?_
  refine checked_bind readResultsByCase_ne fun mitigationResults => ?_
  -- an exception of loading the dataset is told in the note where it means that a file is missing
  have dataset : Program.Ends (Semantics.beside (I := surroundings) observe laws.exec)
      (laws.Represents · archive)
      (ExceptT.lift (loadDatasetCases reader directories laws.repository experimentId
        report.baselineRunId manifest).run : Serving I _).run
      (fun result _ => ∃ outcome, result = .ok outcome) fun _ => True :=
    Program.Ends.map .trivial fun outcome _ _ => ⟨outcome, rfl⟩
  refine Program.Ends.bindExcept dataset (fun _ _ impossible => by cases impossible.choose_spec)
    fun outcome => ?_
  cases outcome with
  | ok cases => exact .of_done fun _ _ => nofun
  | error error =>
      dsimp only
      split
      · exact .of_done fun _ _ => nofun
      next raised =>
        refine .of_done fun _ _ same => ?_
        rw [Except.error.inj same] at raised
        exact raised rfl

end Latest

/-! ## Refused calls -/

section Refused

variable {codec : Codec} {reader : DatasetReader} {request : ExecutionRequest}
  {primitives : Primitives}

/-- The safety policy does not allow the call. -/
def ExecutionRequest.Refused (request : ExecutionRequest) : Prop :=
  ∃ time, (SafetyPolicy.evaluate request.experiment request.run.executionContext
    time).allowed = false

/-- An operation which neither executes a strategy nor uses the repository. -/
def Harmless {I : Interface} : (surroundings.sum I).Op → Prop
  | .inl (.process _ _) => False
  | .inl _ => True
  | .inr _ => False

variable {I : Interface}

theorem performs_outside {op : SurroundingsOp} (harmless : Harmless (I := I) (.inl op)) :
    Program.Performs (fun op => Harmless (I := I) (.inl op)) (fun _ _ => True) (outside op).run :=
  Program.Performs.bind (Program.Performs.of_call harmless) fun _ => trivial

theorem performs_notify {event : RunEventType} :
    Program.Performs (fun op => Harmless (I := I) (.inl op)) (fun _ _ => True)
      (notify request event).run := by
  unfold notify
  split
  · exact performs_outside trivial
  · trivial

theorem yields_anything {α : Type} {program : Observing α} :
    Program.YieldsOk (fun _ => True) program := by
  rw [Program.YieldsOk]
  generalize program.run = first
  induction first with
  | done value => exact fun _ _ => trivial
  | perform op rest ih => exact fun result => ih result

/-- The runner raises before it executes a strategy. -/
theorem run_refused (refused : request.Refused) :
    Program.YieldsOk (fun _ => False) (run codec reader request) ∧
      Program.Performs (fun op => Harmless (I := I) (.inl op)) (fun _ _ => True)
        (run codec reader request).run := by
  obtain ⟨instant, denied⟩ := refused
  -- the decision does not depend on the time
  have always : ∀ time, (SafetyPolicy.evaluate request.experiment request.run.executionContext
      time).allowed = false := fun _ => denied
  constructor
  · refine Program.YieldsOk.andThen fun _ => Program.YieldsOk.andThen fun time => ?_
    dsimp only
    rw [if_pos (always time)]
    exact Program.YieldsOk.throw _
  · refine Program.Performs.bindExcept performs_notify yields_anything fun _ _ => ?_
    refine Program.Performs.bindExcept (performs_outside trivial) yields_anything fun time _ => ?_
    rw [if_pos (always time)]
    trivial

/-- A refused call executes no strategy and does not use the repository. -/
theorem performs_of_refused (refused : request.Refused) (repository : EvidenceRepository I) :
    Program.Performs Harmless (fun _ _ => True)
      (executeAndGenerateEvidence codec reader request primitives repository).run := by
  obtain ⟨never, harmless⟩ : _ ∧ Program.Performs (fun op => Harmless (I := I) (.inl op))
    (fun _ _ => True) (run codec reader request).run := run_refused refused
  have prepared : Program.YieldsOk (fun _ => False) (prepare codec reader request primitives) :=
    Program.YieldsOk.andThen fun _ => Program.YieldsOk.bind never fun _ impossible =>
      impossible.elim
  refine Program.Performs.bind_yields ?_ (Program.Yields.inl prepared) fun result raised => ?_
  · refine Program.Performs.inl (Program.Performs.bindExcept ?_ yields_anything fun _ _ => ?_)
    · exact Program.Performs.bindExcept (performs_outside trivial) yields_anything
        fun _ _ => trivial
    · exact Program.Performs.bindExcept harmless never fun _ impossible => impossible.elim
  · cases result with
    | ok value => exact (raised value rfl).elim
    | error error => trivial

end Refused

/-! ## Both repositories -/

/-- What loading the latest evidence returns. -/
def latestEvidence {I : Interface} {World : Type} (reader : EvidenceReader)
    (directories : Directories) (repository : EvidenceRepository I) (exec : Semantics I Unit World)
    (moments : ℕ → Moment) (world : World) (experimentId : String) :
    Except EvidenceError (Option EvidenceView) :=
  ((loadLatestEvidence reader directories repository experimentId).run.run
    (Semantics.beside observe exec) moments 0 world).1

section Both

variable {codec : Codec} {primitives : Primitives}

theorem Consistent.empty : Consistent codec primitives Table.empty := by
  intro experimentId content stored
  cases stored

variable (reader : EvidenceReader) (directories : Directories) (primitives : Primitives)
  (root : PurePath) (bucketName : String)

/-- After every step of every sequence of calls there is no comparison or one whose runs are both
complete, in both repositories, and a refused call executes and writes nothing.  The last step of a
sequence is one after which its last call is ended by an exception. -/
theorem pointsToEvidence_afterCalls (lineEnds : reader.codec.IgnoresLineEnds)
    (escaped : ∀ report, '\r' ∉ (reader.codec.dumpComparison report).toList) :
    (∀ calls : List ExecutionCall,
      (∀ call ∈ calls, call.Restorable reader.codec reader.dataset primitives) →
        ∀ experimentId, isExperimentId experimentId →
          let tree := afterCalls reader.codec reader.dataset primitives
            (LocalEvidenceRepository reader.codec root) execFile calls {}
          let bucket := afterCalls reader.codec reader.dataset primitives
            (MinioEvidenceRepository reader.codec bucketName) execObject calls Table.empty
          (PointsToEvidence primitives (LocalEvidenceRepository reader.codec root) execFile tree
              experimentId ∧
            PointsToEvidence primitives (MinioEvidenceRepository reader.codec bucketName) execObject
              bucket experimentId) ∧
          ∀ moments,
            latestEvidence reader directories (LocalEvidenceRepository reader.codec root) execFile
                moments tree experimentId ≠ .error (.repository .fileNotFound) ∧
              latestEvidence reader directories (MinioEvidenceRepository reader.codec bucketName)
                execObject moments bucket experimentId ≠ .error (.repository .fileNotFound)) ∧
    ∀ request : ExecutionRequest, request.Refused →
      (executeAndGenerateEvidence reader.codec reader.dataset request primitives
          (LocalEvidenceRepository reader.codec root)).run.Performs Harmless (fun _ _ => True) ∧
        (executeAndGenerateEvidence reader.codec reader.dataset request primitives
          (MinioEvidenceRepository reader.codec bucketName)).run.Performs Harmless
            (fun _ _ => True) := by
  refine ⟨fun calls restorable experimentId valid => ?_, fun request refused =>
    ⟨performs_of_refused refused _, performs_of_refused refused _⟩⟩
  have tree : Sound (localLaws reader.codec root lineEnds escaped) primitives ({} : Tree) :=
    ⟨_, Consistent.empty, represents_empty⟩
  have bucket : Sound (minioLaws reader.codec bucketName) primitives (Table.empty : Bucket) :=
    ⟨_, Consistent.empty, mirrors_empty⟩
  have later := tree.afterCalls restorable
  have later' := bucket.afterCalls restorable
  refine ⟨⟨later.pointsToEvidence valid, later'.pointsToEvidence valid⟩, fun moments => ⟨?_, ?_⟩⟩
  · exact (loadLatestEvidence_ends valid).run moments 0 later
  · exact (loadLatestEvidence_ends valid).run moments 0 later'

end Both

namespace Sample

open Json Verdict.Sample

/-- A test set with one case. -/
def testSet (expected : Decision) : TestSet where
  testSetId := "TS-001"
  version := "1.0.0"
  domain := .vpn
  cases :=
    [{ caseId := "TC-001"
       category := .malformed
       inputData := .obj []
       expectedOutcome := expected
       provenance := "synthetic"
       version := "1.0.0" }]

def datasetJson (expected : Decision) : Json :=
  .obj
    [("test_set_id", .str "TS-001"), ("version", .str "1.0.0"), ("domain", .str "VPN"),
      ("cases", .arr [.obj
        [("case_id", .str "TC-001"), ("category", .str "malformed"), ("input_data", .obj []),
          ("expected_outcome", .str (StringEnum.value expected)), ("provenance", .str "synthetic"),
          ("version", .str "1.0.0")]])]

/-- The text of the fields of an object, in their order. -/
def fieldsText (separator : String) : List (String × Json) → String
  | [] => "\x7d"
  | (name, content) :: fields => separator ++ (quoted name ++ (":" ++
      (content.canonical Evidence.Sample.floatText ++ fieldsText "," fields)))

def objectText : Json → String
  | .obj fields => fieldsText "\x7b" fields
  | other => other.canonical Evidence.Sample.floatText

def datasetText : String :=
  objectText (datasetJson .blocked)

/-- A call which completes; every input is accepted. -/
def call : ExecutionCall where
  request :=
    { experiment
      datasetPath := experiment.datasetPath
      baseline := "vpn_baseline"
      mitigation := "vpn_mitigation"
      run := request
      notifies := false }
  moments := fun _ =>
    { time := 0
      dataset := some (encodeUtf8 datasetText)
      attempt := ⟨.ok { decision := .accepted, parserReached := true }, 1⟩ }
  fates := fun _ => .completes

def dataset : DatasetReader where
  sha256 _ := datasetHash
  readFields _ := .ok (testSet .blocked)

def primitives : Primitives where
  sha256 _ := datasetHash
  floatText := Evidence.Sample.floatText
  dumpNumber := .float
  readFields _ := .error ⟨"EvidenceManifest", []⟩

def comparisonJson (report : ComparisonReport) : Json :=
  .obj
    [("experiment_id", .str report.experimentId),
      ("baseline_run_id", .str report.baselineRunId),
      ("mitigation_run_id", .str report.mitigationRunId),
      ("total_cases", .int report.totalCases),
      ("baseline_metrics", metricsJson writtenNumber (utc report.baselineMetrics.measured)),
      ("mitigation_metrics", metricsJson writtenNumber (utc report.mitigationMetrics.measured)),
      ("block_rate_improvement", .float report.blockRateImprovement),
      ("latency_overhead_ms", .float report.latencyOverheadMs),
      ("limitations", .arr (report.limitations.map .str)),
      ("generated_at", timeJson report.generatedAt (some 0))]

/-- The codec which reads the dataset and the evidence of a prepared call. -/
def codecOf (prepared : Prepared) : Codec where
  dumps := objectText
  dumpModel := objectText
  parse text :=
    if withoutLineEnds text = withoutLineEnds datasetText then some (datasetJson .blocked)
    else if withoutLineEnds text =
        withoutLineEnds (objectText prepared.mitigationBundle.manifest.json) then
      some prepared.mitigationBundle.manifest.json
    else some prepared.baselineBundle.manifest.json
  parseEncoded _ _ := some .null
  readFields json :=
    if json = prepared.mitigationBundle.manifest.json then .ok prepared.mitigationBundle.manifest
    else .ok prepared.baselineBundle.manifest
  dumpComparison report :=
    String.ofList ((objectText (comparisonJson report)).toList.filter (· ≠ '\r'))
  readComparison _ := .ok prepared.report

/-- A codec which reads everything as the same value. -/
def constantCodec : Codec where
  dumps := objectText
  dumpModel := objectText
  parse _ := some .null
  parseEncoded _ _ := some .null
  readFields _ := .error ⟨"EvidenceManifest", []⟩
  dumpComparison _ := ""
  readComparison _ := .error ⟨"ComparisonReport", []⟩

/-- A dataset whose fields are always the same is read alike by codecs which read everything. -/
theorem prepared_eq {codec codec' : Codec} {reader : DatasetReader} {testSet : TestSet}
    (constant : ∀ content, reader.readFields content = .ok testSet) (valid : testSet.errors = [])
    (call : ExecutionCall) (reads : ∀ bytes, (loads codec bytes).isOk)
    (reads' : ∀ bytes, (loads codec' bytes).isOk) :
    call.prepared codec reader primitives = call.prepared codec' reader primitives := by
  have parsed : ∀ {codec : Codec}, (∀ bytes, (loads codec bytes).isOk) →
      parseTestSet codec reader = fun raw => .ok (testSet, reader.sha256 raw) := by
    intro codec reads
    funext raw
    specialize reads raw
    rw [parseTestSet]
    cases loaded : loads codec raw with
    | error error =>
        rw [loaded] at reads
        cases reads
    | ok data =>
        dsimp only
        rw [constant]
        exact if_pos valid
  have same : loadTestSet codec reader call.request = loadTestSet codec' reader call.request := by
    rw [loadTestSet, loadTestSet, parsed reads, parsed reads']
  rw [ExecutionCall.prepared, ExecutionCall.prepared, prepare, prepare, run, run, same]

theorem loads_isOk {codec : Codec} (parses : ∀ text, (codec.parse text).isSome)
    (parses' : ∀ encoding bytes, (codec.parseEncoded encoding bytes).isSome) (bytes : Bytes) :
    (loads codec bytes).isOk := by
  have parsed : ∀ {found : Option Json}, found.isSome →
      (found.elim (.error RepositoryError.jsonDecode) Except.ok).isOk := by
    rintro (_ | json) present
    · cases present
    · rfl
  unfold loads
  split
  · exact parsed (parses _)
  · exact parsed (parses' _ _)

theorem codecOf_loads (prepared : Prepared) (bytes : Bytes) :
    (loads (codecOf prepared) bytes).isOk := by
  refine loads_isOk (fun text => ?_) (fun _ _ => rfl) bytes
  rw [codecOf]
  dsimp only
  split
  · rfl
  · split <;> rfl

theorem prepared_succeeds : succeedsWith (fun prepared =>
    prepared.baselineBundle.manifest.runId = "RUN-001" ∧
      prepared.mitigationBundle.manifest.runId = "RUN-002" ∧
      prepared.baselineBundle.manifest.manifestVersion =
        prepared.mitigationBundle.manifest.manifestVersion ∧
      prepared.baselineBundle.manifest.experimentId =
        prepared.mitigationBundle.manifest.experimentId ∧
      prepared.baselineBundle.manifest.experimentVersion =
        prepared.mitigationBundle.manifest.experimentVersion)
    (call.prepared constantCodec dataset primitives) = true := by
  decide +kernel

/-- What a manifest starts with. -/
def lead (manifest : EvidenceManifest) : String :=
  "\x7b" ++ (quoted "manifest_version" ++ (":" ++ (quoted manifest.manifestVersion ++
    ("," ++ (quoted "experiment_id" ++ (":" ++ (quoted manifest.experimentId ++
      ("," ++ (quoted "experiment_version" ++ (":" ++ (quoted manifest.experimentVersion ++
        ("," ++ (quoted "run_id" ++ (":" ++ "\"RUN-00"))))))))))))))

theorem fieldsText_cons (separator name text : String) (fields : List (String × Json)) :
    fieldsText separator ((name, .str text) :: fields) =
      separator ++ (quoted name ++ (":" ++ (quoted text ++ fieldsText "," fields))) := by
  rw [fieldsText, canonical]

theorem objectText_eq {manifest : EvidenceManifest} {number : String}
    (named : quoted manifest.runId = "\"RUN-00" ++ number) :
    ∃ rest, objectText manifest.json = lead manifest ++ (number ++ rest) := by
  obtain ⟨fields, json⟩ : ∃ fields, manifest.json =
      .obj (("manifest_version", .str manifest.manifestVersion) ::
        ("experiment_id", .str manifest.experimentId) ::
          ("experiment_version", .str manifest.experimentVersion) ::
            ("run_id", .str manifest.runId) :: fields) := ⟨_, rfl⟩
  refine ⟨fieldsText "," fields, ?_⟩
  rw [json, objectText, fieldsText_cons, fieldsText_cons, fieldsText_cons, fieldsText_cons, named]
  simp only [lead, String.append_assoc]

/-- The manifests of a call are told apart by the number of their runs. -/
theorem objectText_ne {baseline mitigation : EvidenceManifest}
    (same : lead baseline = lead mitigation)
    (first : baseline.runId = "RUN-001") (second : mitigation.runId = "RUN-002") :
    withoutLineEnds (objectText baseline.json) ≠ withoutLineEnds (objectText mitigation.json) := by
  have numbered : quoted "RUN-001" = "\"RUN-00" ++ "1\"" ∧
    quoted "RUN-002" = "\"RUN-00" ++ "2\"" := by
    decide
  obtain ⟨rest, text⟩ := objectText_eq (first.symm ▸ numbered.1)
  obtain ⟨rest', text'⟩ := objectText_eq (second.symm ▸ numbered.2)
  intro equal
  rw [text, text', same, withoutLineEnds_append, withoutLineEnds_append (lead mitigation)] at equal
  have numbers := List.append_cancel_left equal
  rw [withoutLineEnds_append, withoutLineEnds_append] at numbers
  have one : withoutLineEnds "1\"" = ['1', '"'] := by decide
  have two : withoutLineEnds "2\"" = ['2', '"'] := by decide
  rw [one, two] at numbers
  cases numbers

/-- The text of a manifest starts with the name of its first field. -/
theorem exists_objectText (manifest : EvidenceManifest) :
    ∃ rest, objectText manifest.json = "\x7b\"" ++ ("manifest_version" ++ rest) := by
  obtain ⟨fields, json⟩ : ∃ fields, manifest.json =
      .obj (("manifest_version", .str manifest.manifestVersion) :: fields) := ⟨_, rfl⟩
  have name : quoted "manifest_version" = "\"" ++ ("manifest_version" ++ "\"") := by decide
  rw [json, objectText, fieldsText_cons, name, String.append_assoc, ← String.append_assoc,
    @String.append_assoc "manifest_version"]
  exact ⟨_, rfl⟩

/-- Manifests are told apart from the dataset by the name of their first field. -/
theorem objectText_ne_datasetText (manifest : EvidenceManifest) :
    withoutLineEnds (objectText manifest.json) ≠ withoutLineEnds datasetText := by
  obtain ⟨rest, text⟩ := exists_objectText manifest
  obtain ⟨rest', text'⟩ : ∃ rest, datasetText = "\x7b\"" ++ ("test_set_id" ++ rest) := by
    have name : quoted "test_set_id" = "\"" ++ ("test_set_id" ++ "\"") := by decide
    rw [datasetText, datasetJson, objectText, fieldsText_cons, name, String.append_assoc,
      ← String.append_assoc, @String.append_assoc "test_set_id"]
    exact ⟨_, rfl⟩
  intro equal
  rw [text, text', withoutLineEnds_append, withoutLineEnds_append "\x7b\""] at equal
  have names := List.append_cancel_left equal
  rw [withoutLineEnds_append, withoutLineEnds_append] at names
  have first : withoutLineEnds "manifest_version" = 'm' :: "anifest_version".toList := by decide
  have second : withoutLineEnds "test_set_id" = 't' :: "est_set_id".toList := by decide
  rw [first, second] at names
  exact absurd (List.cons.inj names).1 (by decide)

theorem plainText_objectText (manifest : EvidenceManifest) :
    PlainText (encodeUtf8 (objectText manifest.json)) := by
  obtain ⟨rest, text⟩ := exists_objectText manifest
  refine ⟨?_, by rw [decodeUtf8_encodeUtf8]; rfl⟩
  rw [text]
  apply @detectEncoding_of_bracket "\x7b\"" 0x7b 0x22
  · decide
  · exact Or.inl rfl
  · decide

theorem codecOf_parse (prepared : Prepared) (manifest : EvidenceManifest) :
    (codecOf prepared).parse ((codecOf prepared).dumpModel manifest.json) =
      if withoutLineEnds (objectText manifest.json) =
          withoutLineEnds (objectText prepared.mitigationBundle.manifest.json) then
        some prepared.mitigationBundle.manifest.json
      else some prepared.baselineBundle.manifest.json := by
  rw [codecOf]
  dsimp only
  rw [if_neg (objectText_ne_datasetText manifest)]

theorem codecOf_readFields (prepared : Prepared) (json : Json) :
    (codecOf prepared).readFields json =
      if json = prepared.mitigationBundle.manifest.json then
        .ok prepared.mitigationBundle.manifest
      else .ok prepared.baselineBundle.manifest :=
  rfl

/-- What the call prepares is read by its codec. -/
theorem exists_prepared : ∃ prepared, call.prepared (codecOf prepared) dataset primitives =
    .ok prepared ∧ prepared.Restorable (codecOf prepared) := by
  obtain ⟨prepared, computed, checked⟩ := succeedsWith_iff.mp prepared_succeeds
  obtain ⟨first, second, version, experiment, experimentVersion⟩ := of_decide_eq_true checked
  have apart := objectText_ne
    (by rw [lead, lead, version, experiment, experimentVersion]) first second
  have apart' : prepared.baselineBundle.manifest.json ≠ prepared.mitigationBundle.manifest.json :=
    fun same => apart (by rw [same])
  have reads : ∀ bytes, (loads constantCodec bytes).isOk :=
    loads_isOk (fun _ => rfl) fun _ _ => rfl
  have constant : ∀ content, dataset.readFields content = .ok (testSet .blocked) := fun _ => rfl
  have same := prepared_eq constant (by decide) call (codecOf_loads prepared) reads
  refine ⟨prepared, same.trans computed, ⟨?_, ?_, plainText_objectText _⟩,
    ⟨?_, ?_, plainText_objectText _⟩, rfl⟩
  · rw [codecOf_parse, if_neg apart]
  · rw [codecOf_readFields, if_neg apart']
  · rw [codecOf_parse, if_pos rfl]
  · rw [codecOf_readFields, if_pos rfl]

end Sample

/-- The runs of a sample call are both found where it wrote a comparison. -/
theorem pointsToEvidence_of_sample : ∃ prepared,
    Sample.call.prepared (Sample.codecOf prepared) Sample.dataset Sample.primitives = .ok prepared ∧
      PointsToEvidence Sample.primitives
        (LocalEvidenceRepository (Sample.codecOf prepared) (.ofString "/results")) execFile
          (afterCalls (Sample.codecOf prepared) Sample.dataset Sample.primitives
            (LocalEvidenceRepository (Sample.codecOf prepared) (.ofString "/results")) execFile
              [Sample.call] {}) "ZC-VPN-EXP-001" := by
  obtain ⟨prepared, computed, restorable⟩ := Sample.exists_prepared
  let reader : EvidenceReader :=
    { codec := Sample.codecOf prepared
      dataset := Sample.dataset
      readResult := fun _ => .error ⟨"CaseResult", []⟩
      str := fun json => json.canonical Sample.primitives.floatText }
  have lineEnds : (Sample.codecOf prepared).IgnoresLineEnds := by
    intro text
    rw [Sample.codecOf]
    dsimp only
    rw [withoutLineEnds_universalNewlines]
  have escaped : ∀ report, '\r' ∉ ((Sample.codecOf prepared).dumpComparison report).toList := by
    intro report
    change '\r' ∉ (String.ofList _).toList
    rw [String.toList_ofList]
    simp
  refine ⟨prepared, computed, ?_⟩
  exact ((pointsToEvidence_afterCalls reader ⟨.ofString "/", .ofString "/results"⟩ Sample.primitives
    (.ofString "/results") "zeroshield-evidence" lineEnds escaped).1 [Sample.call]
      (List.forall_mem_singleton.mpr fun other returned =>
        Except.ok.inj (computed.symm.trans returned) ▸ restorable) "ZC-VPN-EXP-001"
      (by decide)).1.1

end ZeroShield.Orchestration
