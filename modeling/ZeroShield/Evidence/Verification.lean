import ZeroShield.Evidence.Builder
import ZeroShield.Verdict.Coverage
import Mathlib.Data.List.Induction

/-!
# Verifying evidence

Verification compares the manifest with its own digest and looks for the files it names, but never
reads them.  A change of the files goes unnoticed exactly when it is not a change of the manifest,
or when the changed manifest is genuine on its own.
-/

namespace ZeroShield.Evidence

open Foundation Models Runners

section Verification

variable (primitives : Primitives)

/-- How verification ends with an exception. -/
inductive VerifyFailure
  | runDirectoryNotFound (path : String)
  | manifestNotFound (path : String)
  | notValidJson (message : String)
  | schemaViolation (error : ValidationError)
  /-- An exception which is not caught. -/
  | typeError (message : String)

/-- The exception of the command line for a manifest which cannot be loaded. -/
def verifyFailure (runDir : String) : LoadFailure → VerifyFailure
  | .fileNotFound => .manifestNotFound runDir
  | .jsonDecodeError message => .notValidJson message
  | .manifest (.validation error) => .schemaViolation error
  | .manifest (.typeError message) => .typeError message

/-- The artefacts of a manifest which are not files. -/
def missingArtefacts (root : EvidenceRoot) (experimentId runId : String)
    (manifest : EvidenceManifest) : List String :=
  (manifest.artefactPaths.filter fun (_, path) => !root.isFile experimentId runId path).map (·.1)

/-- Load the manifest of a run directory, compare its names with those of the directory, look for
its artefacts and check its digest. -/
def verifyEvidence (root : EvidenceRoot) (experimentId runId : String) :
    Except VerifyFailure Bool :=
  if root.isDir experimentId runId then
    match loadManifest primitives root experimentId runId with
    | .error failure => .error (verifyFailure (root.runDir experimentId runId) failure)
    | .ok manifest =>
        .ok (manifest.experimentId = experimentId && manifest.runId = runId &&
          (missingArtefacts root experimentId runId manifest).isEmpty &&
          verifyManifestIntegrity primitives manifest)
  else .error (.runDirectoryNotFound (root.runDir experimentId runId))

/-- A manifest of the run which carries its own digest and names existing files. -/
structure Genuine (root : EvidenceRoot) (experimentId runId : String)
    (manifest : EvidenceManifest) : Prop where
  ofExperiment : manifest.experimentId = experimentId
  ofRun : manifest.runId = runId
  present : ∀ artefact ∈ manifest.artefactPaths, root.isFile experimentId runId artefact.2 = true
  digest : manifestDigest primitives manifest = manifest.manifestSha256

/-- The content is read as a genuine manifest. -/
def ReadsGenuine (root : EvidenceRoot) (experimentId runId : String) (content : Json) : Prop :=
  ∃ manifest, validateManifest primitives content = .ok manifest ∧
    Genuine primitives root experimentId runId manifest

section Verify

variable {primitives} {root : EvidenceRoot} {experimentId runId : String}

theorem missingArtefacts_isEmpty {manifest : EvidenceManifest} :
    (missingArtefacts root experimentId runId manifest).isEmpty = true ↔
      ∀ artefact ∈ manifest.artefactPaths, root.isFile experimentId runId artefact.2 = true := by
  simp [missingArtefacts]

theorem isDir_of_lookup {path : List String} {file : StoredFile}
    (found : root.files.lookup (experimentId, runId, path) = some file) :
    root.isDir experimentId runId = true := by
  have key : file.key = (experimentId, runId, path) := Table.key_of_lookup found
  simp only [StoredFile.key, Prod.mk.injEq] at key
  exact List.any_eq_true.mpr ⟨file, Table.mem_rows_of_lookup found, by simp [key.1, key.2.1]⟩

/-- A directory is verified exactly when its manifest is genuine. -/
theorem verifyEvidence_eq_true {file : StoredFile} {content : Json}
    (found : root.files.lookup (experimentId, runId, ["manifest.json"]) = some file)
    (parsed : file.content = .ok content) :
    verifyEvidence primitives root experimentId runId = .ok true ↔
      ReadsGenuine primitives root experimentId runId content := by
  have loaded : loadManifest primitives root experimentId runId =
      (validateManifest primitives content).mapError .manifest := by
    simp only [loadManifest, found, parsed]
  unfold verifyEvidence ReadsGenuine
  rw [if_pos (isDir_of_lookup found), loaded]
  cases read : validateManifest primitives content with
  | error failure => simp [Except.mapError]
  | ok manifest =>
      simp only [Except.mapError, Except.ok.injEq, Bool.and_eq_true, decide_eq_true_eq,
        missingArtefacts_isEmpty, verifyManifestIntegrity, exists_eq_left']
      constructor
      · rintro ⟨⟨⟨ofExperiment, ofRun⟩, present⟩, digest⟩
        exact ⟨ofExperiment, ofRun, present, digest⟩
      · rintro ⟨ofExperiment, ofRun, present, digest⟩
        exact ⟨⟨⟨ofExperiment, ofRun⟩, present⟩, digest⟩

/-! ## Written bundles -/

/-- Writing a file replaces its content and nothing else. -/
theorem lookup_write {name : String} {content : Json} {path : List String} :
    (root.write experimentId runId name content).files.lookup (experimentId, runId, path) =
      if path = [name] then some ⟨experimentId, runId, [name], .ok content⟩
      else root.files.lookup (experimentId, runId, path) := by
  split
  next same =>
    subst same
    exact Table.lookup_upsert _ _
  next other =>
    refine Table.lookup_upsert_ne fun same => other ?_
    simpa [StoredFile.key, eq_comm] using same

/-- The last file of a name is found after writing a list of files. -/
theorem lookup_writeAll {artefacts : List (String × Json)} {name : String} {content : Json}
    (distinct : (artefacts.map (·.1)).Nodup) (listed : (name, content) ∈ artefacts) :
    (artefacts.foldl (fun written (name, content) => written.write experimentId runId name content)
        root).files.lookup (experimentId, runId, [name]) =
      some ⟨experimentId, runId, [name], .ok content⟩ := by
  induction artefacts using List.reverseRecOn with
  | nil => cases listed
  | append_singleton artefacts last ih =>
      rw [List.foldl_append, List.foldl_cons, List.foldl_nil, lookup_write]
      rw [List.map_append, List.nodup_append] at distinct
      rcases List.mem_append.mp listed with earlier | final
      · have other : name ≠ last.1 := distinct.2.2 name (List.mem_map.mpr ⟨_, earlier, rfl⟩) last.1
          (by simp)
        rw [if_neg (by simpa using other)]
        exact ih distinct.1 earlier
      · obtain rfl := List.mem_singleton.mp final
        rw [if_pos rfl]

end Verify

/-- A bundle which was built and saved. -/
structure Saved (root : EvidenceRoot) (bundle : EvidenceBundle) : Prop where
  wellFormed : bundle.WellFormed primitives
  saved : ∃ before, saveRunEvidence before bundle = .ok root

section Saved

variable {primitives} {root : EvidenceRoot} {bundle : EvidenceBundle}

theorem Saved.lookup (saved : Saved primitives root bundle) {name : String} {content : Json}
    (listed : (name, content) ∈ bundle.artefacts) :
    root.files.lookup (bundle.manifest.experimentId, bundle.manifest.runId, [name]) =
      some ⟨bundle.manifest.experimentId, bundle.manifest.runId, [name], .ok content⟩ := by
  obtain ⟨before, written⟩ := saved.saved
  unfold saveRunEvidence at written
  dsimp only at written
  split at written
  · cases written
  · obtain rfl := Except.ok.inj written
    have distinct : (bundle.artefacts.map (·.1)).Nodup := by
      rw [saved.wellFormed.names]
      decide
    exact lookup_writeAll distinct listed

/-- The artefacts which the manifest of a saved bundle names are files. -/
theorem Saved.isFile (saved : Saved primitives root bundle) {artefact : String × PurePath}
    (named : artefact ∈ bundle.manifest.artefactPaths) :
    root.isFile bundle.manifest.experimentId bundle.manifest.runId artefact.2 = true := by
  rw [saved.wellFormed.paths] at named
  have listed : ∃ name ∈ bundle.artefacts.map (·.1), artefact.2.parts = [name] := by
    rw [saved.wellFormed.names]
    revert named artefact
    decide
  obtain ⟨name, member, parts⟩ := listed
  obtain ⟨⟨_, content⟩, found, rfl⟩ := List.mem_map.mp member
  rw [EvidenceRoot.isFile, parts, saved.lookup found]
  rfl

/-- Replacing the content of a file keeps it a file. -/
theorem Saved.isFile_write (saved : Saved primitives root bundle) {name : String} {content : Json}
    (listed : name ∈ bundle.artefacts.map (·.1)) (path : PurePath) :
    (root.write bundle.manifest.experimentId bundle.manifest.runId name content).isFile
        bundle.manifest.experimentId bundle.manifest.runId path =
      root.isFile bundle.manifest.experimentId bundle.manifest.runId path := by
  obtain ⟨⟨_, old⟩, member, rfl⟩ := List.mem_map.mp listed
  unfold EvidenceRoot.isFile
  rw [lookup_write]
  split
  next same => rw [same, saved.lookup member]; rfl
  next => rfl

/-- The manifest of a saved bundle is genuine. -/
theorem Saved.genuine (saved : Saved primitives root bundle) :
    Genuine primitives root bundle.manifest.experimentId bundle.manifest.runId bundle.manifest where
  ofExperiment := rfl
  ofRun := rfl
  present := fun _ named => saved.isFile named
  digest := saved.wellFormed.digest.symm

variable (reads : primitives.readFields bundle.manifest.json = .ok bundle.manifest)

include reads in
theorem Saved.readsGenuine (saved : Saved primitives root bundle) :
    ReadsGenuine primitives root bundle.manifest.experimentId bundle.manifest.runId
      bundle.manifest.json := by
  refine ⟨bundle.manifest, ?_, saved.genuine⟩
  simp only [validateManifest, reads]
  exact saved.wellFormed.valid

include reads in
/-- The unchanged bundle is verified. -/
theorem Saved.verifies (saved : Saved primitives root bundle) :
    verifyEvidence primitives root bundle.manifest.experimentId bundle.manifest.runId =
      .ok true :=
  (verifyEvidence_eq_true (saved.lookup saved.wellFormed.written) rfl).mpr
    (saved.readsGenuine reads)

include reads in
/-- A bundle with a changed file is verified unless the file is the manifest and not genuine. -/
theorem Saved.verifies_write (saved : Saved primitives root bundle) {name : String}
    (listed : name ∈ bundle.artefacts.map (·.1)) (content : Json) :
    verifyEvidence primitives
        (root.write bundle.manifest.experimentId bundle.manifest.runId name content)
        bundle.manifest.experimentId bundle.manifest.runId = .ok true ↔
      (name = "manifest.json" → ReadsGenuine primitives root bundle.manifest.experimentId
        bundle.manifest.runId content) := by
  have sameFiles {manifest : EvidenceManifest} :
      Genuine primitives
          (root.write bundle.manifest.experimentId bundle.manifest.runId name content)
          bundle.manifest.experimentId bundle.manifest.runId manifest ↔
        Genuine primitives root bundle.manifest.experimentId bundle.manifest.runId manifest := by
    constructor
    · rintro ⟨ofExperiment, ofRun, present, digest⟩
      refine ⟨ofExperiment, ofRun, fun artefact named => ?_, digest⟩
      rw [← saved.isFile_write listed artefact.2]
      exact present artefact named
    · rintro ⟨ofExperiment, ofRun, present, digest⟩
      refine ⟨ofExperiment, ofRun, fun artefact named => ?_, digest⟩
      rw [saved.isFile_write listed artefact.2]
      exact present artefact named
  by_cases changed : name = "manifest.json"
  · subst changed
    rw [verifyEvidence_eq_true (lookup_write.trans (if_pos rfl)) rfl]
    simp only [ReadsGenuine, sameFiles, forall_const]
  · have kept := saved.lookup saved.wellFormed.written
    rw [← (lookup_write.trans (if_neg (by simpa [eq_comm] using changed)) :
      (root.write bundle.manifest.experimentId bundle.manifest.runId name content).files.lookup
        (bundle.manifest.experimentId, bundle.manifest.runId, ["manifest.json"]) = _)] at kept
    rw [verifyEvidence_eq_true kept rfl]
    have genuine := saved.readsGenuine reads
    simp only [ReadsGenuine, sameFiles, changed, false_implies, iff_true]
    exact genuine

/-- A verified manifest with the digest of another genuine one has the same other fields. -/
theorem hashable_eq_of_genuine {experimentId runId : String} {manifest other : EvidenceManifest}
    (injective : Function.Injective primitives.sha256)
    (genuine : Genuine primitives root experimentId runId manifest)
    (genuine' : Genuine primitives root experimentId runId other)
    (same : manifest.manifestSha256 = other.manifestSha256) :
    hashedText primitives manifest = hashedText primitives other :=
  injective (genuine.digest.trans (same.trans genuine'.digest.symm))

end Saved

/-- The evidence of a run is verified after it was saved.  A change of one of its files is detected
exactly when it leaves the manifest without a genuine reading; the digest of the saved manifest is
only genuine for the same other fields. -/
theorem verifyEvidence_of_saved (injective : Function.Injective primitives.sha256)
    {experiment : ExperimentDefinition} {testSetId manifestVersion : String} {outcome : RunOutcome}
    {metrics : ExperimentMetrics Number} {safetyDecision : PolicyDecision} {bundle : EvidenceBundle}
    {before root : EvidenceRoot}
    (built : buildRunEvidence primitives experiment testSetId outcome metrics safetyDecision
      manifestVersion = .ok bundle)
    (written : saveRunEvidence before bundle = .ok root)
    (reads : primitives.readFields bundle.manifest.json = .ok bundle.manifest) :
    verifyEvidence primitives root bundle.manifest.experimentId bundle.manifest.runId = .ok true ∧
      ∀ name ∈ bundle.artefacts.map (·.1), ∀ content,
        (verifyEvidence primitives
            (root.write bundle.manifest.experimentId bundle.manifest.runId name content)
            bundle.manifest.experimentId bundle.manifest.runId ≠ .ok true ↔
          name = "manifest.json" ∧ ¬ ReadsGenuine primitives root bundle.manifest.experimentId
            bundle.manifest.runId content) ∧
        ∀ manifest, validateManifest primitives content = .ok manifest →
          Genuine primitives root bundle.manifest.experimentId bundle.manifest.runId manifest →
          manifest.manifestSha256 = bundle.manifest.manifestSha256 →
          hashedText primitives manifest = hashedText primitives bundle.manifest := by
  have saved : Saved primitives root bundle :=
    ⟨wellFormed_of_build primitives built, before, written⟩
  refine ⟨saved.verifies reads, fun name listed content => ⟨?_, fun manifest _ genuine same => ?_⟩⟩
  · rw [ne_eq, saved.verifies_write reads listed, Classical.not_imp]
  · exact hashable_eq_of_genuine injective genuine saved.genuine same

end Verification

/-! ## A sample run -/

namespace Sample

open Verdict.Sample

/-- A completed run with one result. -/
def outcome : RunOutcome where
  run :=
    { runId := "RUN-001"
      experimentId := "ZC-VPN-EXP-001"
      mode := .baseline
      datasetHash := datasetHash
      gitCommit := "0123abc"
      environment := [("python_version", "3.12.0")]
      startedAt := 0
      completedAt := some 1000000
      status := .completed }
  strategyId := "vpn_baseline"
  caseResults :=
    [{ runId := "RUN-001"
       caseId := "TC-0"
       decision := .accepted
       parserReached := true
       errored := false
       errorMessage := none
       logged := true
       latencyMs := 1 }]

def metrics : ExperimentMetrics where
  runId := "RUN-001"
  processingSuccessRate := 1
  blockRate := 0
  validAcceptanceRate := 1
  falsePositiveRate := 0
  falseNegativeRate := 1
  parserReachRate := 1
  meanLatencyMs := 1
  logCompletenessRate := 1
  calculatedAt := 2000000
  calculationVersion := "1.0.0"

def safetyDecision : PolicyDecision :=
  SafetyPolicy.evaluate experiment .localUnitTest 0

def floatText (number : ℚ) : String :=
  if number = 0 then "0.0" else if number = 1 then "1.0" else toString number

def unhashed : EvidenceManifest :=
  draftManifest experiment "TS-001" outcome metrics safetyDecision "1.0.0" 1000000 ""

/-- The text whose digest the sample manifest carries. -/
def hashed : String :=
  (unhashed.hashable .float).canonical (Number.text floatText)

def digest : String := "383e6329eaaceb54fcfad35056997db71b940ef19e6c51960489f9b44c6adee5"

/-- The digests of other texts are kept apart from it by their first character. -/
def sha256 (text : String) : String :=
  if text = hashed then digest else "x" ++ text

/-- Marking every text but one keeps texts apart. -/
theorem marked_injective (special : String) :
    Function.Injective fun text => if text = special then digest else "x" ++ text := by
  have apart (text : String) : digest ≠ "x" ++ text := by
    intro same
    have first := congrArg (fun text : String => text.toList.head?) same
    simp [digest, String.toList_append] at first
  intro left right same
  dsimp only at same
  split at same <;> split at same
  next leftHashed rightHashed => rw [leftHashed, rightHashed]
  next => exact absurd same (apart _)
  next => exact absurd same.symm (apart _)
  next => exact String.toList_inj.mp (by simpa using congrArg String.toList same)

theorem sha256_injective : Function.Injective sha256 :=
  marked_injective hashed

def manifest : EvidenceManifest :=
  { unhashed with manifestSha256 := digest }

def primitives : Primitives where
  sha256
  floatText
  dumpNumber := .float
  readFields := fun content =>
    if content = manifest.json then .ok manifest else .error ⟨"EvidenceManifest", []⟩

theorem reads : primitives.readFields manifest.json = .ok manifest := by
  simp only [primitives, if_true]

def bundle : EvidenceBundle where
  manifest
  artefacts := bundleFiles experiment outcome metrics manifest

def emptyRoot : EvidenceRoot where
  path := "/results"
  files := .empty

def savedRoot : EvidenceRoot :=
  bundle.artefacts.foldl (fun written (name, content) =>
    written.write "ZC-VPN-EXP-001" "RUN-001" name content) emptyRoot

theorem sha256_hashed : sha256 hashed = digest := by
  rw [sha256, if_pos (rfl : hashed = hashed)]

theorem manifestDigest_of_hashable {manifest : EvidenceManifest}
    (same : manifest.hashable .float = unhashed.hashable .float) :
    manifestDigest primitives manifest = digest := by
  have sameText : (manifest.hashable .float).canonical (Number.text floatText) = hashed := by
    rw [same, hashed]
  have atSample : primitives.sha256 = sha256 ∧ primitives.floatText = floatText ∧
      primitives.dumpNumber = .float := ⟨rfl, rfl, rfl⟩
  rw [manifestDigest, hashedText, atSample.1, atSample.2.1, atSample.2.2, sameText, sha256_hashed]

/-- The sample manifest with a placeholder for its digest. -/
def placeheld : EvidenceManifest :=
  draftManifest experiment "TS-001" outcome metrics safetyDecision "1.0.0" 1000000
    (String.ofList (List.replicate 64 '0'))

theorem placeheld_valid : placeheld.validate = .ok placeheld :=
  EvidenceManifest.validate_of_clean (by decide +kernel) (by decide) rfl

theorem manifest_valid : manifest.validate = .ok manifest :=
  EvidenceManifest.validate_of_clean (by decide +kernel) (by decide) rfl

/-- The sample bundle is built wherever its text has the sample digest. -/
theorem built_of_digest {primitives : Primitives}
    (digested : manifestDigest primitives placeheld = digest) :
    buildRunEvidence primitives experiment "TS-001" outcome metrics safetyDecision =
      .ok bundle := by
  have unhashed : (placeheld.validate).mapError BuildFailure.manifest = .ok placeheld := by
    rw [placeheld_valid]
    rfl
  have hashed : (manifest.validate).mapError BuildFailure.manifest = .ok manifest := by
    rw [manifest_valid]
    rfl
  refine bind_eq_ok.mpr ⟨placeheld, unhashed, bind_eq_ok.mpr ⟨manifest, ?_, rfl⟩⟩
  rw [digested]
  exact hashed

theorem built :
    buildRunEvidence primitives experiment "TS-001" outcome metrics safetyDecision = .ok bundle :=
  built_of_digest (manifestDigest_of_hashable rfl)

theorem written : saveRunEvidence emptyRoot bundle = .ok savedRoot := by
  have empty : emptyRoot.isDir bundle.manifest.experimentId bundle.manifest.runId = false := rfl
  simp only [saveRunEvidence, empty]
  rfl

end Sample

/-- The sample run is verified, also without its results, but not without its manifest. -/
theorem verifyEvidence_of_sample :
    verifyEvidence Sample.primitives Sample.savedRoot "ZC-VPN-EXP-001" "RUN-001" = .ok true ∧
      verifyEvidence Sample.primitives
        (Sample.savedRoot.write "ZC-VPN-EXP-001" "RUN-001" "manifest.json" .null)
        "ZC-VPN-EXP-001" "RUN-001" ≠ .ok true := by
  obtain ⟨verified, changed⟩ := verifyEvidence_of_saved Sample.primitives Sample.sha256_injective
    Sample.built Sample.written Sample.reads
  refine ⟨verified, (changed "manifest.json" (by decide) .null).1.mpr ⟨rfl, ?_⟩⟩
  rintro ⟨manifest, read, -⟩
  cases read

/-- The results of a run are removed and its evidence is still verified. -/
theorem not_detected_of_results :
    ¬ ∀ (primitives : Primitives) (experiment : ExperimentDefinition)
      (testSetId manifestVersion : String) (outcome : RunOutcome)
        (metrics : ExperimentMetrics Number)
      (safetyDecision : PolicyDecision) (bundle : EvidenceBundle) (before root : EvidenceRoot),
      Function.Injective primitives.sha256 →
      buildRunEvidence primitives experiment testSetId outcome metrics safetyDecision
        manifestVersion = .ok bundle →
      saveRunEvidence before bundle = .ok root →
      primitives.readFields bundle.manifest.json = .ok bundle.manifest →
      ∀ name content changed, (name, content) ∈ bundle.artefacts → changed ≠ content →
        verifyEvidence primitives
          (root.write bundle.manifest.experimentId bundle.manifest.runId name changed)
          bundle.manifest.experimentId bundle.manifest.runId ≠ .ok true := by
  intro claim
  have detected := claim _ _ _ _ _ _ _ _ _ _ Sample.sha256_injective Sample.built Sample.written
    Sample.reads "results.json" (.arr (Sample.outcome.caseResults.map resultJson)) (.arr [])
    (by simp [Sample.bundle, bundleFiles]) (by decide)
  have saved : Saved Sample.primitives Sample.savedRoot Sample.bundle :=
    ⟨wellFormed_of_build _ Sample.built, _, Sample.written⟩
  refine detected ((saved.verifies_write Sample.reads (by decide) _).mpr ?_)
  exact fun changed => absurd changed (by decide)

end ZeroShield.Evidence
