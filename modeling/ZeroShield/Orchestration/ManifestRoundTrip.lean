import ZeroShield.Foundation.CanonicalJson
import ZeroShield.Orchestration.ReloadedEvidence

/-!
# The digest of a manifest which is read again

A manifest is hashed before it is written and verified after it was read.  Its canonical text does
not depend on the order in which the names of an object are read, and determines all fields of the
dump.  A mean latency which is not finite is accepted, but its file has no number for it, so that
the manifest cannot be read again.
-/

namespace ZeroShield.Orchestration

open Foundation Models Evidence Repositories

/-! ## Mappings in another order -/

section Reordered

/-- The manifest with the entries of its mappings as they are given. -/
def withEntries (manifest : EvidenceManifest) (paths : List (String × PurePath))
    (rules : List (String × Bool)) : EvidenceManifest :=
  { manifest with
    artefactPaths := paths
    safetyDecision :=
      ⟨{ manifest.safetyDecision.value with ruleResults := rules },
        manifest.safetyDecision.offset⟩ }

/-- Equal manifests: the entries of their mappings may be listed in another order. -/
def SameManifest (manifest other : EvidenceManifest) : Prop :=
  ∃ paths rules, paths.Perm manifest.artefactPaths ∧
    rules.Perm manifest.safetyDecision.value.ruleResults ∧ other = withEntries manifest paths rules

/-- No mapping of the manifest has two entries of one name. -/
structure Keyed (manifest : EvidenceManifest) : Prop where
  paths : (manifest.artefactPaths.map (·.1)).Nodup
  rules : (manifest.safetyDecision.value.ruleResults.map (·.1)).Nodup

variable {manifest other : EvidenceManifest}

/-- A mapping is written with its entries in their order. -/
theorem sameUpToOrder_map {α ν : Type} {entries entries' : List (String × α)} (write : α → Json ν)
    (distinct : (entries.map (·.1)).Nodup) (permuted : entries'.Perm entries) :
    (Json.obj (entries'.map fun entry => (entry.1, write entry.2))).SameUpToOrder
      (.obj (entries.map fun entry => (entry.1, write entry.2))) := by
  apply Json.sameUpToOrder_of_perm
  · have names : (entries'.map fun entry => (entry.1, write entry.2)).map Prod.fst =
        entries'.map (·.1) := by
      rw [List.map_map]
      rfl
    rw [names]
    exact (permuted.map _).nodup_iff.mpr distinct
  · exact permuted.map _

theorem sortKeys_map {α ν : Type} {entries entries' : List (String × α)} (write : α → Json ν)
    (distinct : (entries.map (·.1)).Nodup) (permuted : entries'.Perm entries) :
    (Json.obj (entries'.map fun (name, value) => (name, write value))).sortKeys =
      (Json.obj (entries.map fun (name, value) => (name, write value))).sortKeys :=
  sameUpToOrder_map write distinct permuted

/-- Equal manifests have the same other fields. -/
theorem SameManifest.hashable (same : SameManifest manifest other) (keyed : Keyed manifest)
    (number : Number → Json Number) :
    (other.hashable number).SameUpToOrder (manifest.hashable number) := by
  obtain ⟨paths, rules, permuted, permuted', rfl⟩ := same
  have files := sortKeys_map (fun path : PurePath => (Json.str path.str : Json Number)) keyed.paths
    permuted
  have results :=
    sortKeys_map (fun passed => (Json.bool passed : Json Number)) keyed.rules permuted'
  have decision :
      (decisionJson (withEntries manifest paths rules).safetyDecision : Json Number).sortKeys =
        (decisionJson manifest.safetyDecision).sortKeys := by
    rw [decisionJson, decisionJson, Json.sortKeys, Json.sortKeys]
    simp only [Json.sortKeysFields]
    rw [withEntries, results]
  have fields : Json.sortKeysFields ((withEntries manifest paths rules).fields number) =
      Json.sortKeysFields (manifest.fields number) := by
    simp only [EvidenceManifest.fields, Json.sortKeysFields, decision]
    rw [withEntries, files]
  rw [Json.SameUpToOrder, EvidenceManifest.hashable, EvidenceManifest.hashable, Json.sortKeys,
    Json.sortKeys, fields]

/-- Equal manifests have the same digest. -/
theorem SameManifest.digest {primitives : Primitives} (same : SameManifest manifest other)
    (keyed : Keyed manifest) :
    manifestDigest primitives other = manifestDigest primitives manifest := by
  rw [manifestDigest, manifestDigest, hashedText, hashedText,
    Json.canonical_eq_of_sameUpToOrder (same.hashable keyed _)]

/-! ## Validation -/

theorem validate_eq_ok : manifest.validate = .ok other ↔
    other = manifest ∧ manifest.fieldErrors = [] ∧
      manifest.completedAt.isBefore manifest.startedAt = some false ∧
        manifest.metrics.value.runId = manifest.runId := by
  constructor
  · intro valid
    have self := EvidenceManifest.validate_eq_self valid
    unfold EvidenceManifest.validate at valid
    dsimp only at valid
    split at valid
    · cases valid
    next clean =>
      split at valid
      · cases valid
      · cases valid
      next ordered =>
        split at valid
        · cases valid
        next measured =>
          have same := require_eq_nil.mp (not_not.mp measured)
          exact ⟨self, not_not.mp clean, ordered, of_decide_eq_true same⟩
  · rintro ⟨rfl, clean, ordered, measured⟩
    exact EvidenceManifest.validate_of_clean clean ordered measured

theorem pathErrors_eq_nil {paths : List (String × PurePath)} :
    (if paths = [] then [⟨["artefact_paths"], .tooShort⟩]
      else artefactPathsMustBeRelative paths) = [] ↔
      paths ≠ [] ∧ ∀ entry ∈ paths, isUnsafeRelativePath entry.2 = false := by
  by_cases empty : paths = []
  · simp [empty]
  · simp [empty, artefactPathsMustBeRelative]

/-- Whether a decision is accepted does not depend on the order of its rules. -/
theorem decisionErrors_perm {decision : PolicyDecision} {rules : List (String × Bool)}
    (permuted : rules.Perm decision.ruleResults) (clean : decisionErrors decision = []) :
    decisionErrors { decision with ruleResults := rules } = [] := by
  have consistent : checkAllowedConsistentWithRuleResults { decision with ruleResults := rules } =
      checkAllowedConsistentWithRuleResults decision := by
    simp only [checkAllowedConsistentWithRuleResults, permuted.all_eq]
  unfold decisionErrors at clean ⊢
  simp only [fieldsThenModel_eq_nil, List.append_eq_nil_iff, List.flatMap_eq_nil_iff,
    List.forall_mem_cons, require_eq_nil, decide_eq_true_eq, consistent] at clean ⊢
  obtain ⟨⟨⟨present, named⟩, version⟩, checks⟩ := clean
  refine ⟨⟨⟨fun empty => present ?_, fun rule member => named rule (permuted.subset member)⟩,
    version⟩, checks⟩
  exact List.nil_perm.mp (empty ▸ permuted)

theorem SameManifest.valid (same : SameManifest manifest other)
    (valid : manifest.validate = .ok manifest) : other.validate = .ok other := by
  obtain ⟨paths, rules, permuted, permuted', rfl⟩ := same
  obtain ⟨-, clean, ordered, measured⟩ := validate_eq_ok.mp valid
  refine validate_eq_ok.mpr ⟨rfl, ?_, ordered, measured⟩
  unfold EvidenceManifest.fieldErrors at clean ⊢
  simp only [List.append_eq_nil_iff, pathErrors_eq_nil, nestedErrors,
    List.map_eq_nil_iff] at clean ⊢
  obtain ⟨⟨⟨front, present, safe⟩, decision⟩, digest⟩ := clean
  refine ⟨⟨⟨front, fun empty => present ?_,
    fun entry member => safe entry (permuted.subset member)⟩,
    decisionErrors_perm permuted' decision⟩, digest⟩
  exact List.nil_perm.mp (empty ▸ permuted)

end Reordered

/-! ## Reading a manifest -/

/-- Bytes which are read as a JSON value, whatever the white space and the order of the names. -/
def Serialises (codec : Codec) (bytes : Bytes) (json : Json) : Prop :=
  PlainText bytes ∧ ∃ content, loads codec bytes = .ok content ∧ content.SameUpToOrder json

/-- The mean latency of a manifest is null. -/
def LatencyIsNull (content : Json) : Prop :=
  Json.At .null ["metrics", "mean_latency_ms"] content

/-- How the fields of a manifest are read. -/
structure ReadsDumps (codec : Codec) (manifest : EvidenceManifest) : Prop where
  /-- What was written of finite numbers is read as an equal manifest. -/
  finite : manifest.metrics.value.meanLatencyMs.isFinite → ∀ content,
    content.SameUpToOrder manifest.json →
      ∃ other, codec.readFields content = .ok other ∧ SameManifest manifest other
  /-- A null is no number. -/
  null : ∀ content, LatencyIsNull content → ∃ error, codec.readFields content = .error error

/-- A manifest was returned which is verified. -/
def Verified (primitives : Primitives) (result : Except RepositoryError EvidenceManifest) : Prop :=
  ∃ manifest, result = .ok manifest ∧ verifyManifestIntegrity primitives manifest = true

section Reading

variable {codec : Codec} {primitives : Primitives} {I : Interface}
  {laws : LawfulRepository codec I} {archive : Archive} {bundle : Evidence.EvidenceBundle}

/-- What loading the manifest of a run returns. -/
def Loads (laws : LawfulRepository codec I) (experimentId runId : String) (archive : Archive)
    (post : Except RepositoryError EvidenceManifest → Prop) : Prop :=
  Program.Ends laws.exec (laws.Represents · archive)
    (laws.repository.loadManifest experimentId runId) (fun result _ => post result)
    (laws.Represents · archive)

theorem writtenNumber_eq_null {number : Number} :
    writtenNumber number = .null ↔ number.isFinite = false := by
  cases number <;> simp [writtenNumber, Number.isFinite]

/-- The mean latency is written as null exactly if it is not finite. -/
theorem latencyIsNull_json {manifest : EvidenceManifest} :
    LatencyIsNull manifest.json ↔ manifest.metrics.value.meanLatencyMs.isFinite = false := by
  rw [← writtenNumber_eq_null]
  constructor
  · rintro ⟨fields, _, object, member, fields', _, object', member', rfl⟩
    obtain rfl := Json.obj.inj object
    obtain rfl : _ = metricsJson writtenNumber manifest.metrics := by
      simpa [EvidenceManifest.fields] using member
    obtain rfl := Json.obj.inj object'
    simpa [eq_comm] using member'
  · intro written
    refine ⟨_, metricsJson writtenNumber manifest.metrics, rfl, ?_, _, _, rfl, ?_, rfl⟩
    · simp [EvidenceManifest.fields]
    · simp [written]

theorem LatencyIsNull.of_sameUpToOrder {content content' : Json} (null : LatencyIsNull content)
    (same : content.SameUpToOrder content') : LatencyIsNull content' := by
  obtain ⟨value, found, equal⟩ := same.exists_at null
  rwa [equal.symm.eq_null] at found

/-- What is read from a serialisation of a manifest with its own digest. -/
theorem verified_iff {content : Json} (formed : bundle.WellFormed primitives)
    (keyed : Keyed bundle.manifest) (reads : ReadsDumps codec bundle.manifest)
    (same : content.SameUpToOrder bundle.manifest.json) :
    Verified primitives (modelValidateManifest codec content) ↔
      bundle.manifest.metrics.value.meanLatencyMs.isFinite := by
  cases finite : bundle.manifest.metrics.value.meanLatencyMs.isFinite with
  | true =>
      obtain ⟨manifest, read, equal⟩ := reads.finite finite content same
      have validated : modelValidateManifest codec content = .ok manifest := by
        rw [modelValidateManifest, read]
        dsimp only
        rw [equal.valid formed.valid]
        rfl
      have digest : manifest.manifestSha256 = bundle.manifest.manifestSha256 := by
        obtain ⟨paths, rules, -, -, rfl⟩ := equal
        rfl
      refine iff_of_true ⟨manifest, validated, ?_⟩ rfl
      rw [verifyManifestIntegrity, decide_eq_true_eq, equal.digest keyed, digest, formed.digest]
  | false =>
      obtain ⟨error, refused⟩ := reads.null content
        ((latencyIsNull_json.mpr finite).of_sameUpToOrder same.symm)
      refine iff_of_false ?_ Bool.false_ne_true
      rintro ⟨manifest, returned, -⟩
      rw [modelValidateManifest, refused] at returned
      cases returned

/-- A serialisation of a manifest with its own digest is loaded and verified if its latency is
finite. -/
theorem loads_of_serialises {bytes : Bytes} (formed : bundle.WellFormed primitives)
    (keyed : Keyed bundle.manifest) (reads : ReadsDumps codec bundle.manifest)
    (serialises : Serialises codec bytes bundle.manifest.json)
    (stored : archive.get (.artefact bundle.manifest.experimentId bundle.manifest.runId
      "manifest.json") = some bytes) :
    Loads laws bundle.manifest.experimentId bundle.manifest.runId archive fun result =>
      Verified primitives result ↔ bundle.manifest.metrics.value.meanLatencyMs.isFinite := by
  obtain ⟨plain, content, parsed, same⟩ := serialises
  obtain ⟨experiment, run, -⟩ := valid_of_validate formed.valid
  have loaded := laws.loadManifest_ends _ _ archive experiment run fun other found =>
    Option.some.inj (stored.symm.trans found) ▸ plain
  rw [stored, Option.elim_some, MinioEvidenceRepository.manifestOf, parsed] at loaded
  refine loaded.conseq (fun _ start => start) (fun value world reached => ?_) fun _ left => left
  rw [reached.1]
  exact verified_iff formed keyed reads same

theorem safetyDecision_of_build {experiment : ExperimentDefinition}
    {testSetId manifestVersion : String} {outcome : Runners.RunOutcome}
    {metrics : ExperimentMetrics Number} {safetyDecision : PolicyDecision}
    (built : buildRunEvidence primitives experiment testSetId outcome metrics safetyDecision
      manifestVersion = .ok bundle) : bundle.manifest.safetyDecision.value = safetyDecision := by
  unfold buildRunEvidence at built
  split at built
  · cases built
  next completedAt _ =>
    obtain ⟨unhashed, -, built⟩ := bind_eq_ok.mp built
    obtain ⟨manifest, second, built⟩ := bind_eq_ok.mp built
    obtain rfl := EvidenceManifest.validate_eq_self (mapError_eq_ok.mp second)
    obtain rfl := Except.ok.inj built
    rfl

theorem keyed_of_build {experiment : ExperimentDefinition} {testSetId manifestVersion : String}
    {outcome : Runners.RunOutcome} {metrics : ExperimentMetrics Number}
    {safetyDecision : PolicyDecision}
    (built : buildRunEvidence primitives experiment testSetId outcome metrics safetyDecision
      manifestVersion = .ok bundle)
    (rules : (safetyDecision.ruleResults.map (·.1)).Nodup) : Keyed bundle.manifest where
  paths := by
    rw [(wellFormed_of_build primitives built).paths]
    decide
  rules := by
    rw [safetyDecision_of_build built]
    exact rules

variable (laws) in
/-- The manifest of a bundle is loaded and verified after it was saved if its latency is finite. -/
theorem saveRunEvidence_loads (formed : bundle.WellFormed primitives)
    (keyed : Keyed bundle.manifest)
    (reads : ReadsDumps codec bundle.manifest)
    (written : Serialises codec (encodeUtf8 (codec.dumpModel bundle.manifest.json))
      bundle.manifest.json) (archive : Archive) :
    Program.Ends laws.exec (laws.Represents · archive)
      (laws.repository.saveRunEvidence (encodeBundle codec bundle))
      (fun result world => ∀ location, result = .ok location →
        ∃ later, laws.Represents world later ∧
          Loads laws bundle.manifest.experimentId bundle.manifest.runId later (fun result =>
            Verified primitives result ↔ bundle.manifest.metrics.value.meanLatencyMs.isFinite) ∧
          ∀ bytes, Serialises codec bytes bundle.manifest.json →
            Loads laws bundle.manifest.experimentId bundle.manifest.runId
              (later.put (.artefact bundle.manifest.experimentId bundle.manifest.runId
                "manifest.json") bytes) fun result =>
              Verified primitives result ↔ bundle.manifest.metrics.value.meanLatencyMs.isFinite)
      fun _ => True := by
  refine (laws.saveRunEvidence_ends _ archive (valid_encodeBundle formed)).conseq
    (fun _ start => start) (fun result world saved location success => ?_) fun _ _ => trivial
  subst success
  have holds : Holds codec (withBundle codec archive bundle) bundle := holds_withBundle formed
  have stored := holds _ _ formed.written
  refine ⟨_, saved.2, loads_of_serialises formed keyed reads written stored,
    fun bytes serialises => ?_⟩
  apply loads_of_serialises formed keyed reads serialises
  rw [Archive.get_put, if_pos rfl]

variable (laws) in
/-- The manifest of a bundle which was built is verified after it was saved, also when its file is
written anew with other white space and another order of names, exactly if its mean latency is
finite; a manifest with the same digest whose other fields are dumped differently is not. -/
theorem manifest_roundTrips_iff (injective : Function.Injective primitives.sha256)
    (numbers : Json.NumberText primitives.floatText) {experiment : ExperimentDefinition}
    {testSetId manifestVersion : String} {outcome : Runners.RunOutcome}
    {metrics : ExperimentMetrics Number} {safetyDecision : PolicyDecision}
    (built : buildRunEvidence primitives experiment testSetId outcome metrics safetyDecision
      manifestVersion = .ok bundle)
    (rules : (safetyDecision.ruleResults.map (·.1)).Nodup)
    (reads : ReadsDumps codec bundle.manifest)
    (written : Serialises codec (encodeUtf8 (codec.dumpModel bundle.manifest.json))
      bundle.manifest.json) :
    (∀ archive, Program.Ends laws.exec (laws.Represents · archive)
      (laws.repository.saveRunEvidence (encodeBundle codec bundle))
      (fun result world => ∀ location, result = .ok location →
        ∃ later, laws.Represents world later ∧
          Loads laws bundle.manifest.experimentId bundle.manifest.runId later (fun result =>
            Verified primitives result ↔ metrics.meanLatencyMs.isFinite) ∧
          ∀ bytes, Serialises codec bytes bundle.manifest.json →
            Loads laws bundle.manifest.experimentId bundle.manifest.runId
              (later.put (.artefact bundle.manifest.experimentId bundle.manifest.runId
                "manifest.json") bytes) fun result =>
              Verified primitives result ↔ metrics.meanLatencyMs.isFinite)
      fun _ => True) ∧
    ∀ other : EvidenceManifest, other.manifestSha256 = bundle.manifest.manifestSha256 →
      ¬ (other.hashable primitives.dumpNumber).SameUpToOrder
        (bundle.manifest.hashable primitives.dumpNumber) →
        verifyManifestIntegrity primitives other = false := by
  have formed := wellFormed_of_build primitives built
  refine ⟨fun archive => ?_, fun other digest differs => ?_⟩
  · obtain ⟨-, -, -, measured⟩ := manifest_of_build built
    rw [← measured]
    exact saveRunEvidence_loads laws formed (keyed_of_build built rules) reads written archive
  · refine decide_eq_false fun same => differs ?_
    have texts := injective (same.trans (digest.trans formed.digest))
    exact (Json.canonical_eq_iff numbers.leafText_text).mp texts

end Reading

/-! ## A sample run with any metrics -/

namespace RoundTripSample

open Evidence.Sample Verdict.Sample CompactSample

def noDigest : String :=
  String.ofList (List.replicate 64 '0')

/-- The manifest of the sample run with a digest. -/
def manifestOf (metrics : ExperimentMetrics Number) (manifestSha256 : String) : EvidenceManifest :=
  draftManifest experiment "TS-001" outcome metrics safetyDecision "1.0.0" 1000000 manifestSha256

/-- The sample metrics with an infinite latency. -/
def infinite : ExperimentMetrics Number :=
  { metrics.measured with meanLatencyMs := .infinity false }

section Run

variable (metrics : ExperimentMetrics Number)

def manifest : EvidenceManifest :=
  manifestOf metrics digest

def bundle : Evidence.EvidenceBundle where
  manifest := manifest metrics
  artefacts := bundleFiles experiment outcome metrics (manifest metrics)

/-- A codec which reads the sample manifest if its latency is finite. -/
def codec : Codec where
  dumps := dump
  dumpModel := dump
  parse document :=
    if document = dump (manifest metrics).json then some (manifest metrics).json else none
  parseEncoded _ _ := none
  readFields content :=
    if content.SameUpToOrder (manifest metrics).json ∧ metrics.meanLatencyMs.isFinite then
      .ok (manifest metrics)
    else .error ⟨"EvidenceManifest", []⟩
  dumpComparison report := dump (Sample.comparisonJson report)
  readComparison _ := .error ⟨"ComparisonReport", []⟩

/-- The text which is hashed. -/
def hashed : String :=
  ((manifestOf metrics noDigest).hashable .float).canonical (Number.text CompactSample.floatText)

def primitives : Primitives where
  sha256 text := if text = hashed metrics then digest else "x" ++ text
  floatText := CompactSample.floatText
  dumpNumber := .float
  readFields := (codec metrics).readFields

variable {metrics}

theorem built (valid : ∀ sha256 ∈ [noDigest, digest], (manifestOf metrics sha256).fieldErrors = [])
    (measured : metrics.runId = "RUN-001") :
    buildRunEvidence (primitives metrics) experiment "TS-001" outcome metrics safetyDecision =
      .ok (bundle metrics) := by
  have ordered : Zoned.isBefore (utc 1000000) (utc 0) = some false := by decide
  have validated (sha256 : String) (member : sha256 ∈ [noDigest, digest]) :
      (manifestOf metrics sha256).validate.mapError BuildFailure.manifest =
        .ok (manifestOf metrics sha256) :=
    mapError_eq_ok.mpr
      (EvidenceManifest.validate_of_clean (valid sha256 member) ordered measured)
  have digested : manifestDigest (primitives metrics) (manifestOf metrics noDigest) = digest := by
    simp only [manifestDigest, hashedText, primitives, hashed, if_true]
  have first := validated noDigest List.mem_cons_self
  have second := validated digest (List.mem_cons_of_mem _ List.mem_cons_self)
  refine bind_eq_ok.mpr ⟨manifestOf metrics noDigest, first,
    bind_eq_ok.mpr ⟨manifest metrics, ?_, rfl⟩⟩
  rw [digested]
  exact second

theorem codec_readFields (content : Json) : (codec metrics).readFields content =
    if content.SameUpToOrder (manifest metrics).json ∧ metrics.meanLatencyMs.isFinite then
      .ok (manifest metrics)
    else .error ⟨"EvidenceManifest", []⟩ :=
  rfl

theorem codec_parse (document : String) : (codec metrics).parse document =
    if document = dump (manifest metrics).json then some (manifest metrics).json else none := by
  simp only [codec]

theorem reads : ReadsDumps (codec metrics) (manifest metrics) where
  finite finite content same := by
    refine ⟨manifest metrics, ?_, _, _, List.Perm.refl _, List.Perm.refl _, rfl⟩
    rw [codec_readFields]
    exact if_pos ⟨same, finite⟩
  null content null := by
    refine ⟨⟨"EvidenceManifest", []⟩, ?_⟩
    rw [codec_readFields]
    apply if_neg
    rintro ⟨same, finite⟩
    exact Bool.false_ne_true
      ((latencyIsNull_json.mp (null.of_sameUpToOrder same)).symm.trans finite)

theorem written : Serialises (codec metrics)
    (encodeUtf8 ((codec metrics).dumpModel (manifest metrics).json)) (manifest metrics).json := by
  have plain : detectEncoding (encodeUtf8 ((codec metrics).dumpModel (manifest metrics).json)) =
      .utf8 := detectEncoding_dump _ _
  refine ⟨⟨plain, by rw [decodeUtf8_encodeUtf8]; rfl⟩, (manifest metrics).json, ?_,
    Json.SameUpToOrder.refl _⟩
  have parsed : (codec metrics).parse ((codec metrics).dumpModel (manifest metrics).json) =
      some (manifest metrics).json := by
    rw [codec_parse]
    exact if_pos rfl
  rw [loads, plain, decodeUtf8_encodeUtf8]
  dsimp only
  rw [parsed]
  rfl

end Run

theorem built_measured : buildRunEvidence (primitives metrics.measured) experiment "TS-001" outcome
    metrics.measured safetyDecision = .ok (bundle metrics.measured) :=
  built (by decide +kernel) rfl

theorem built_infinite : buildRunEvidence (primitives infinite) experiment "TS-001" outcome infinite
    safetyDecision = .ok (bundle infinite) :=
  built (by decide +kernel) rfl

/-- Evidence is saved in an empty bucket. -/
theorem saved_of_empty (codec : Codec) (bucketName : String) {bundle : Repositories.EvidenceBundle}
    (valid : (RepositoryCall.saveRunEvidence bundle).Valid) :
    ((MinioEvidenceRepository.saveRunEvidence bucketName bundle).run execObject (fun _ => ()) 0
      Table.empty).1 = .ok (MinioEvidenceRepository.label bucketName
        [bundle.manifest.experimentId, bundle.manifest.runId]) := by
  let call : RunBundle bundle.manifest.experimentId bundle.manifest.runId :=
    ⟨bundle, valid, rfl, rfl⟩
  have alone :=
    (@CheckedWrites.program_ends _ _ _ _ (minioWrites bucketName _ _) execObject Table.empty call
    rfl).run (fun _ => ()) 0 rfl
  rw [← @minio_saves_eq codec] at alone
  rcases alone with ⟨refused, -⟩ | ⟨-, saved, -⟩
  · cases refused
  · exact saved

end RoundTripSample

open RoundTripSample

/-- The manifest of the sample run is verified after it was saved, and no other manifest with its
digest is. -/
theorem manifest_roundTrips_of_sample :
    (∀ archive, Program.Ends execObject (Mirrors · archive)
      (MinioEvidenceRepository.saveRunEvidence "zeroshield-evidence"
        (encodeBundle (codec Evidence.Sample.metrics) (bundle Evidence.Sample.metrics)))
      (fun result bucket => ∀ location, result = .ok location → ∃ later, Mirrors bucket later ∧
        Loads (minioLaws (codec Evidence.Sample.metrics) "zeroshield-evidence") "ZC-VPN-EXP-001"
          "RUN-001" later (Verified (primitives Evidence.Sample.metrics)))
      fun _ => True) ∧
    ∀ other : EvidenceManifest, other.manifestSha256 = Evidence.Sample.digest →
      ¬ (other.hashable .float).SameUpToOrder
        ((manifest Evidence.Sample.metrics).hashable .float) →
        verifyManifestIntegrity (primitives Evidence.Sample.metrics) other = false := by
  obtain ⟨saved, altered⟩ := manifest_roundTrips_iff
    (minioLaws (codec Evidence.Sample.metrics) "zeroshield-evidence")
    (Evidence.Sample.marked_injective _) CompactSample.numbers built_measured
    (by decide) reads written
  refine ⟨fun archive => (saved archive).conseq (fun _ start => start) ?_ fun _ left =>
    left, altered⟩
  intro result bucket reached location success
  obtain ⟨later, mirrors, loads, -⟩ := reached location success
  exact ⟨later, mirrors, loads.conseq (fun _ start => start) (fun _ _ verified => verified.mpr rfl)
    fun _ left => left⟩

/-- A run is saved whose mean latency is infinite, and its manifest is not loaded again. -/
theorem not_roundTrips_of_infinity :
    ¬ ∀ (I : Interface) (codec : Codec) (laws : LawfulRepository codec I) (primitives : Primitives)
      (experiment : ExperimentDefinition) (testSetId manifestVersion : String)
      (outcome : Runners.RunOutcome) (metrics : ExperimentMetrics Number)
      (safetyDecision : PolicyDecision) (bundle : Evidence.EvidenceBundle),
      Function.Injective primitives.sha256 → Json.NumberText primitives.floatText →
      buildRunEvidence primitives experiment testSetId outcome metrics safetyDecision
        manifestVersion = .ok bundle →
      (safetyDecision.ruleResults.map (·.1)).Nodup → ReadsDumps codec bundle.manifest →
      Serialises codec (encodeUtf8 (codec.dumpModel bundle.manifest.json)) bundle.manifest.json →
      ∀ archive, Program.Ends laws.exec (laws.Represents · archive)
        (laws.repository.saveRunEvidence (encodeBundle codec bundle))
        (fun result world => ∀ location, result = .ok location →
          ∃ later, laws.Represents world later ∧
            Loads laws bundle.manifest.experimentId bundle.manifest.runId later
              (Verified primitives))
        fun _ => True := by
  intro claim
  let laws := minioLaws (codec infinite) "zeroshield-evidence"
  have formed := wellFormed_of_build _ built_infinite
  have loads := (claim objects _ laws (primitives infinite) _ _ _ _ _ _ _
    (Evidence.Sample.marked_injective _) CompactSample.numbers built_infinite (by decide) reads
    written Table.empty).run (fun _ => ()) 0 mirrors_empty
  have fails := (saveRunEvidence_loads laws formed (keyed_of_build built_infinite (by decide)) reads
    written Table.empty).run (fun _ => ()) 0 mirrors_empty
  have saved := saved_of_empty (codec infinite) "zeroshield-evidence"
    (@valid_encodeBundle (codec infinite) _ _ formed)
  obtain ⟨later, mirrors, verified⟩ := loads _ saved
  obtain ⟨later', mirrors', unverified, -⟩ := fails _ saved
  have returned := verified.run (fun _ => ()) 0 mirrors
  have refused := unverified.run (fun _ => ()) 0 mirrors'
  exact absurd (refused.mp returned) (by decide)

end ZeroShield.Orchestration
