import ZeroShield.Foundation.Attempt
import ZeroShield.Generators.Telecom
import ZeroShield.Generators.Vpn
import ZeroShield.Orchestration.EvidenceGeneration
import ZeroShield.Studio.Runs

/-!
# Generated datasets on disk

A draft writes its dataset under a name which comes from its digest, unless there is a file already.
A write which is interrupted leaves the start of the text, which no later draft replaces.
-/

namespace ZeroShield.Studio

open Foundation Models Platform Repositories Orchestration

/-! ## Generating -/

/-- Libraries which generate a dataset and write it as text. -/
structure DatasetLibraries where
  source : Generators.Random
  /-- Read the configuration of a generator. -/
  readVpnConfig : Json → Option Generators.VPNGeneratorConfig
  readTelecomConfig : Json → Option Generators.TelecomGeneratorConfig
  /-- The digest of the canonical JSON of a test set. -/
  canonicalSha256 : TestSet → String
  /-- The text of a test set, indented. -/
  dumpTestSet : TestSet → String

section Generate

variable (libraries : DatasetLibraries)

/-- Generate with a generator, whose configuration must be its own. -/
def generateWith {Config : Type}
    (generator : Generators.DatasetGenerator libraries.source Config)
    (readConfig : Json → Option Config) (seed : ℤ) (config : Json) :
    Except BuildError (TestSet × DatasetProvenance) :=
  match readConfig config with
  | none => .error (.internal "")
  | some own =>
      -- The time of the generation is not kept in the version.
      match generator.generate libraries.canonicalSha256 seed own 0 with
      | .error error => .error (.validation error)
      | .ok generated => .ok
          (generated.testSet,
            { generatorId := generated.provenance.generatorId
              generatorVersion := generated.provenance.generatorVersion
              seed := generated.provenance.seed
              config
              sha256 := generated.provenance.sha256 })

/-- Generate a test set with a registered generator. -/
def generateTestSet (generatorId : String) (seed : ℤ) (config : Json) :
    Except BuildError (TestSet × DatasetProvenance) :=
  let vpn := Generators.vpnDatasetGenerator libraries.source
  let telecom := Generators.telecomDatasetGenerator libraries.source
  if generatorId = vpn.generatorId then
    generateWith libraries vpn libraries.readVpnConfig seed config
  else if generatorId = telecom.generatorId then
    generateWith libraries telecom libraries.readTelecomConfig seed config
  else
    .error (.internal (s!"no registered generator for id '{generatorId}'; known generators: " ++
      ExperimentDefinition.listText (sortTexts [vpn.generatorId, telecom.generatorId])))

/-- A generated test set as it is written. -/
def generateDataset (generatorId : String) (seed : ℤ) (config : Json) :
    Except BuildError GeneratedDataset :=
  (generateTestSet libraries generatorId seed config).map fun (testSet, provenance) =>
    ⟨libraries.dumpTestSet testSet, provenance⟩

variable {libraries}

theorem valid_of_generateWith {Config : Type}
    {generator : Generators.DatasetGenerator libraries.source Config}
    {readConfig : Json → Option Config} {seed : ℤ} {config : Json}
    {generated : TestSet × DatasetProvenance}
    (generates : generateWith libraries generator readConfig seed config = .ok generated) :
    generated.1.errors = [] ∧ generated.2.sha256 = libraries.canonicalSha256 generated.1 := by
  unfold generateWith Generators.DatasetGenerator.generate at generates
  split at generates
  · cases generates
  dsimp only at generates
  split_ifs at generates with valid
  · cases generates
    exact ⟨valid, rfl⟩

/-- A generated test set is valid and its digest is the one of its provenance. -/
theorem valid_of_generateTestSet {generatorId : String} {seed : ℤ} {config : Json}
    {generated : TestSet × DatasetProvenance}
    (generates : generateTestSet libraries generatorId seed config = .ok generated) :
    generated.1.errors = [] ∧ generated.2.sha256 = libraries.canonicalSha256 generated.1 := by
  unfold generateTestSet at generates
  dsimp only at generates
  split_ifs at generates
  · exact valid_of_generateWith generates
  · exact valid_of_generateWith generates

end Generate

/-! ## Writing -/

/-- The files under the dataset root. -/
abbrev DatasetFiles := String → Option Bytes

/-- Write a text unless there is a file; an interruption leaves the bytes which were written. -/
def materialiseDataset (written : Option ℕ) (path : String) (text : Bytes)
    (files : DatasetFiles) : DatasetFiles :=
  match files path with
  | some _ => files
  | none =>
      Function.update files path (some (written.elim text fun count => text.extract 0 count))

/-- The platform with its dataset files. -/
structure DatasetWorld where
  world : World := {}
  files : DatasetFiles := fun _ => none

/-- The operations of a draft, of which the write of the dataset may be interrupted. -/
def datasetExec : Semantics platform (Input × Option ℕ) DatasetWorld
  | (_, written), .writeDataset path text, state =>
      ((), { state with files := materialiseDataset written path (encodeUtf8 text) state.files })
  | (input, _), op, state =>
      let (result, world) := exec input op state.world
      (result, { state with world })

/-- A call which builds a draft; it may be interrupted after it has written a number of bytes. -/
structure DraftCall where
  request : CreateExperimentVersionRequest
  references : List CVEReference
  versionNumber : ℕ
  config : Json
  createdBy : String
  now : DateTime
  interruption : Option ℕ := none

namespace DraftCall

variable (libraries : DatasetLibraries) (services : Services) (call : DraftCall)

/-- The write of the dataset is the first operation of a call. -/
def fate (position : ℕ) : Fate :=
  if position = 0 ∧ call.interruption.isSome then .failsAfter else .completes

/-- What a call returns, unless it is interrupted, and the files which it leaves. -/
def attempt (world : DatasetWorld) :
    Option (Except BuildError ExperimentVersion) × ℕ × DatasetWorld :=
  (buildExperimentDraft { services with generate := generateDataset libraries } call.request
      call.references call.versionNumber call.config call.createdBy).attempt
    datasetExec (fun _ => none) (fun _ => ({ now := call.now }, call.interruption))
      call.fate 0 world

/-- The test set which a call generates. -/
def generated : Except BuildError (TestSet × DatasetProvenance) :=
  match selectTemplate call.request.domainPackId call.request.templateId
      call.request.templateVersion with
  | .error error => .error error
  | .ok (pack, _) =>
      generateTestSet libraries pack.datasetGeneratorId call.request.seed call.config

variable {libraries services call}

theorem valid_of_generated {generated : TestSet × DatasetProvenance}
    (generates : call.generated libraries = .ok generated) :
    generated.1.errors = [] ∧ generated.2.sha256 = libraries.canonicalSha256 generated.1 := by
  unfold DraftCall.generated at generates
  split at generates
  · cases generates
  · exact valid_of_generateTestSet generates

/-- The bytes of a dataset. -/
abbrev bytesOf (libraries : DatasetLibraries) (generated : TestSet × DatasetProvenance) : Bytes :=
  encodeUtf8 (libraries.dumpTestSet generated.1)

/-- The path of a dataset as text. -/
abbrev pathOf (generated : TestSet × DatasetProvenance) : String :=
  (datasetPath generated.2).str

/-- A call which generates nothing writes nothing. -/
theorem attempt_of_error {error : BuildError} (fails : call.generated libraries = .error error)
    (world : DatasetWorld) :
    call.attempt libraries services world = (some (.error error), 0, world) := by
  rw [DraftCall.generated] at fails
  rw [DraftCall.attempt, buildExperimentDraft]
  cases selects : selectTemplate call.request.domainPackId call.request.templateId
      call.request.templateVersion with
  | error refused =>
      rw [selects] at fails
      cases fails
      rfl
  | ok selected =>
      obtain ⟨pack, template⟩ := selected
      rw [selects] at fails
      dsimp only at fails ⊢
      rw [generateDataset, fails]
      rfl

/-- A call writes its dataset; if it returns a version, the version names the dataset. -/
theorem attempt_of_ok {generated : TestSet × DatasetProvenance}
    (generates : call.generated libraries = .ok generated) (world : DatasetWorld) :
    (call.attempt libraries services world).2.2.files =
        materialiseDataset call.interruption (pathOf generated) (bytesOf libraries generated)
          world.files ∧
      ∀ version, (call.attempt libraries services world).1 = some (.ok version) →
        call.interruption = none ∧ version.definition.datasetPath = datasetPath generated.2 ∧
          version.datasetProvenance = some generated.2 := by
  obtain ⟨testSet, provenance⟩ := generated
  rw [DraftCall.generated] at generates
  rw [DraftCall.attempt, buildExperimentDraft]
  cases selects : selectTemplate call.request.domainPackId call.request.templateId
      call.request.templateVersion with
  | error refused =>
      rw [selects] at generates
      cases generates
  | ok selected =>
      obtain ⟨pack, template⟩ := selected
      rw [selects] at generates
      dsimp only at generates ⊢
      rw [generateDataset, generates]
      dsimp only [Except.map]
      cases interrupts : call.interruption with
      | some count =>
          have fails : call.fate 0 = .failsAfter := by
            rw [fate, interrupts]
            rfl
          rw [Program.call_bind, Program.attempt_of_failsAfter fails rfl]
          refine ⟨rfl, fun version returned => ?_⟩
          cases returned
      | none =>
          have completes : ∀ position, call.fate position = .completes := by
            intro position
            rw [fate, interrupts, if_neg]
            simp
          rw [Program.call_bind, Program.attempt_of_completes (completes 0)]
          cases picks : selectStrategies pack template with
          | error error =>
              refine ⟨rfl, fun version returned => ?_⟩
              cases Option.some.inj returned
          | ok strategies =>
              dsimp only
              rw [Program.call_bind, Program.attempt_of_completes (completes _)]
              refine ⟨rfl, fun version returned => ?_⟩
              obtain ⟨rfl, -⟩ := validateDraft_eq_ok (Option.some.inj returned)
              refine ⟨rfl, ?_, ?_⟩
              · rw [draftVersion, draftDefinition]
              · rw [draftVersion]

end DraftCall

/-! ## Sequences of calls -/

/-- The files and the versions which calls have returned. -/
structure DraftState where
  world : DatasetWorld := {}
  returned : List ExperimentVersion := []

/-- The version of a call which returned one. -/
def versionOf : Option (Except BuildError ExperimentVersion) → Option ExperimentVersion
  | some (.ok version) => some version
  | _ => none

section Runs

variable (libraries : DatasetLibraries) (services : Services)

/-- Perform a call. -/
def DraftState.perform (state : DraftState) (call : DraftCall) : DraftState :=
  let (outcome, _, world) := call.attempt libraries services state.world
  { world, returned := state.returned ++ (versionOf outcome).toList }

/-- Perform calls one after the other, beginning without files. -/
def runDrafts (calls : List DraftCall) : DraftState :=
  calls.foldl (DraftState.perform libraries services) {}

/-- A call does not leave a part of its dataset: it is not interrupted, there is a file already, or
the interruption comes after the last byte. -/
def DraftCall.WritesWhole (call : DraftCall) (files : DatasetFiles) : Prop :=
  ∀ generated count, call.generated libraries = .ok generated → call.interruption = some count →
    (files (DraftCall.pathOf generated)).isSome ∨
      (DraftCall.bytesOf libraries generated).size ≤ count

/-- No call of a sequence leaves a part of its dataset. -/
def AllWriteWhole (calls : List DraftCall) : Prop :=
  ∀ before call after, calls = before ++ call :: after →
    call.WritesWhole libraries (runDrafts libraries services before).world.files

/-- Datasets with one path have one digest. -/
def PathsTell (calls : List DraftCall) : Prop :=
  ∀ left ∈ calls, ∀ right ∈ calls, ∀ generated other,
    left.generated libraries = .ok generated → right.generated libraries = .ok other →
      DraftCall.pathOf generated = DraftCall.pathOf other → generated.2.sha256 = other.2.sha256

variable (codec : Codec) (reader : DatasetReader)

/-- The text of a test set is read as JSON from which the test set is read. -/
def DatasetReadsBack (testSet : TestSet) : Prop :=
  ∃ data, loads codec (encodeUtf8 (libraries.dumpTestSet testSet)) = .ok data ∧
    reader.readFields data = .ok testSet

/-- The file at the dataset path of a version is a test set with the digest of the version. -/
def DatasetOnDisk (files : DatasetFiles) (version : ExperimentVersion) : Prop :=
  ∃ raw testSet hash provenance, files version.definition.datasetPath.str = some raw ∧
    version.datasetProvenance = some provenance ∧
    parseTestSet codec reader raw = .ok (testSet, hash) ∧
    libraries.canonicalSha256 testSet = provenance.sha256

/-- The files are whole datasets of calls, and each version has the dataset of a call. -/
structure Materialised (calls : List DraftCall) (state : DraftState) : Prop where
  files : ∀ path raw, state.world.files path = some raw → ∃ call ∈ calls, ∃ generated,
    call.generated libraries = .ok generated ∧ DraftCall.pathOf generated = path ∧
      DraftCall.bytesOf libraries generated = raw
  returned : ∀ version ∈ state.returned, ∃ call ∈ calls, ∃ generated,
    call.generated libraries = .ok generated ∧
      version.definition.datasetPath = datasetPath generated.2 ∧
      version.datasetProvenance = some generated.2 ∧
      (state.world.files (DraftCall.pathOf generated)).isSome

end Runs

section Runs

variable {libraries : DatasetLibraries} {services : Services}

/-- What was there stays, and the new file is the dataset unless its write was cut. -/
theorem materialiseDataset_eq {written : Option ℕ} {path : String} {text : Bytes}
    {files : DatasetFiles}
    (whole : ∀ count, written = some count → (files path).isSome ∨ text.size ≤ count) :
    materialiseDataset written path text files =
      match files path with
      | some _ => files
      | none => Function.update files path (some text) := by
  unfold materialiseDataset
  cases found : files path with
  | some raw => rfl
  | none =>
      cases written with
      | none => rfl
      | some count =>
          have enough : text.size ≤ count := by
            rcases whole count rfl with stored | enough
            · rw [found] at stored
              cases stored
            · exact enough
          have same : text.extract 0 count = text := by
            apply ByteArray.ext
            rw [ByteArray.data_extract]
            exact Array.extract_eq_self_of_le enough
          exact congrArg (fun bytes => Function.update files path (some bytes)) same

theorem eq_of_versionOf {outcome : Option (Except BuildError ExperimentVersion)}
    {version : ExperimentVersion} (returned : versionOf outcome = some version) :
    outcome = some (.ok version) := by
  unfold versionOf at returned
  split at returned
  next => rw [Option.some.inj returned]
  next => cases returned

theorem mem_returned_perform {state : DraftState} {call : DraftCall} {version : ExperimentVersion}
    (member : version ∈ (state.perform libraries services call).returned) :
    version ∈ state.returned ∨
      (call.attempt libraries services state.world).1 = some (.ok version) := by
  rcases List.mem_append.mp member with old | new
  · exact .inl old
  · exact .inr (eq_of_versionOf (Option.mem_toList.mp new))

theorem Materialised.mono {calls more : List DraftCall} {state : DraftState}
    (materialised : Materialised libraries calls state) (grown : calls ⊆ more) :
    Materialised libraries more state where
  files path raw found := by
    obtain ⟨call, member, stored⟩ := materialised.files path raw found
    exact ⟨call, grown member, stored⟩
  returned version member := by
    obtain ⟨call, made, named⟩ := materialised.returned version member
    exact ⟨call, grown made, named⟩

/-- A call which writes its dataset whole keeps the files whole. -/
theorem Materialised.perform {calls : List DraftCall} {state : DraftState} {call : DraftCall}
    (materialised : Materialised libraries calls state) (isCall : call ∈ calls)
    (whole : call.WritesWhole libraries state.world.files) :
    Materialised libraries calls (state.perform libraries services call) := by
  cases generates : call.generated libraries with
  | error error =>
      have same : state.perform libraries services call = state := by
        unfold DraftState.perform
        rw [DraftCall.attempt_of_error generates]
        exact congrArg (DraftState.mk state.world) (List.append_nil _)
      rw [same]
      exact materialised
  | ok generated =>
      obtain ⟨written, names⟩ := @DraftCall.attempt_of_ok libraries services call
        generated generates state.world
      rw [materialiseDataset_eq fun count => whole generated count generates] at written
      have files : (state.perform libraries services call).world.files =
          match state.world.files (DraftCall.pathOf generated) with
          | some _ => state.world.files
          | none => Function.update state.world.files (DraftCall.pathOf generated)
              (some (DraftCall.bytesOf libraries generated)) := written
      have kept : ∀ path, (state.world.files path).isSome →
          ((state.perform libraries services call).world.files path).isSome := by
        intro path stored
        rw [files]
        split
        · exact stored
        · rw [Function.update_apply]
          split_ifs
          · rfl
          · exact stored
      have own : ((state.perform libraries services call).world.files
          (DraftCall.pathOf generated)).isSome := by
        rw [files]
        split
        next raw found =>
          rw [found]
          rfl
        · rw [Function.update_self]
          rfl
      constructor
      · intro path raw found
        rw [files] at found
        split at found
        · exact materialised.files path raw found
        · rw [Function.update_apply] at found
          split_ifs at found with same
          · exact ⟨call, isCall, generated, generates, same.symm, Option.some.inj found⟩
          · exact materialised.files path raw found
      · intro version member
        rcases mem_returned_perform member with old | new
        · obtain ⟨other, made, dataset, generates, path, provenance, stored⟩ :=
            materialised.returned version old
          exact ⟨other, made, dataset, generates, path, provenance, kept _ stored⟩
        · obtain ⟨-, path, provenance⟩ := names version new
          exact ⟨call, isCall, generated, generates, path, provenance, own⟩

theorem runDrafts_append (calls : List DraftCall) (call : DraftCall) :
    runDrafts libraries services (calls ++ [call]) =
      (runDrafts libraries services calls).perform libraries services call :=
  List.foldl_concat ..

/-- The files of a run in which every dataset is written whole are whole datasets. -/
theorem materialised_of_allWriteWhole {calls : List DraftCall}
    (whole : AllWriteWhole libraries services calls) :
    Materialised libraries calls (runDrafts libraries services calls) := by
  induction calls using List.reverseRecOn with
  | nil =>
      constructor
      · intro path raw found
        cases found
      · intro version member
        cases member
  | append_singleton calls call ih =>
      have earlier : AllWriteWhole libraries services calls := by
        rintro before other after rfl
        exact whole before other (after ++ [call]) (by rw [List.append_assoc]; rfl)
      rw [runDrafts_append]
      refine ((ih earlier).mono (List.subset_append_left _ _)).perform ?_ ?_
      · exact List.mem_append_right _ List.mem_cons_self
      · exact whole calls call [] rfl

end Runs

/-- When no call leaves a part of its dataset and datasets with one path have one digest, every
version which a sequence of calls returns has its dataset on disk. -/
theorem datasets_of_versions (libraries : DatasetLibraries) (services : Services) (codec : Codec)
    (reader : DatasetReader) (calls : List DraftCall)
    (readBack : ∀ call ∈ calls, ∀ generated, call.generated libraries = .ok generated →
      DatasetReadsBack libraries codec reader generated.1)
    (whole : AllWriteWhole libraries services calls) (tells : PathsTell libraries calls) :
    ∀ version ∈ (runDrafts libraries services calls).returned,
      DatasetOnDisk libraries codec reader (runDrafts libraries services calls).world.files
        version := by
  intro version member
  have materialised := materialised_of_allWriteWhole whole
  obtain ⟨call, made, generated, generates, path, provenance, stored⟩ :=
    materialised.returned version member
  obtain ⟨raw, found⟩ := Option.isSome_iff_exists.mp stored
  obtain ⟨writer, wrote, dataset, produces, same, rfl⟩ := materialised.files _ raw found
  obtain ⟨valid, digest⟩ := DraftCall.valid_of_generated produces
  obtain ⟨data, parsed, read⟩ := readBack writer wrote dataset produces
  refine ⟨DraftCall.bytesOf libraries dataset, dataset.1,
    reader.sha256 (DraftCall.bytesOf libraries dataset), generated.2, ?_, provenance, ?_, ?_⟩
  · rw [path]
    exact found
  · rw [parseTestSet, parsed]
    dsimp only
    rw [read]
    exact if_pos valid
  · rw [← digest]
    exact tells writer wrote call made dataset generated produces generates same

namespace MaterialisedSample

theorem validCount_le : 0 ≤ 50 := Nat.zero_le 50

theorem otherCount_le : 0 ≤ 20 := Nat.zero_le 20

theorem bodyLength_pos : 0 < 8192 := by decide

theorem headerLength_pos : 0 < 512 := by decide

/-- A configuration of one case. -/
def ownConfig : Generators.VPNGeneratorConfig where
  validCount := 0
  boundaryCount := 0
  oversizedCount := 0
  duplicateFieldCount := 1
  mismatchedLengthCount := 0
  unsupportedEncodingCount := 0
  invalidPathCount := 0
  validCount_le := validCount_le
  oversizedCount_le := otherCount_le
  mismatchedLengthCount_le := otherCount_le
  unsupportedEncodingCount_le := otherCount_le
  invalidPathCount_le := otherCount_le
  maxBodyLength_pos := bodyLength_pos
  maxHeaderValueLength_pos := headerLength_pos

def config : Json :=
  .obj
    [("valid_count", .int 0), ("boundary_count", .int 0), ("oversized_count", .int 0),
      ("duplicate_field_count", .int 1), ("mismatched_length_count", .int 0),
      ("unsupported_encoding_count", .int 0), ("invalid_path_count", .int 0),
      ("max_path_length", .int 256), ("max_body_length", .int 8192),
      ("max_header_value_length", .int 512)]

/-- The test set of the seed of the sample request. -/
def testSet : TestSet where
  testSetId := "vpn-generated-7"
  version := "1.0.0"
  domain := .vpn
  cases := [Generators.VPNDatasetGenerator.duplicateCase 0]

def inputData : Json :=
  .obj
    [("method", .str "GET"), ("path", .str "/remote/login"),
      ("headers", Generators.pairList
        [("Host", "vpn.example.local"), ("Host", "internal.synthetic.local")]),
      ("declared_content_length", .int 0), ("actual_body_length", .int 0),
      ("encoding", .str "utf-8")]

def json : Json :=
  .obj
    [("test_set_id", .str "vpn-generated-7"), ("version", .str "1.0.0"), ("domain", .str "VPN"),
      ("cases", .arr [.obj
        [("case_id", .str "VPN-GEN-DUPLICATE-001"), ("category", .str "malformed"),
          ("input_data", inputData), ("expected_outcome", .str "blocked"),
          ("provenance", .str "duplicate header field with conflicting values"),
          ("version", .str "1.0.0")]])]

/-- The text of the test set, line by line. -/
def lines : List String :=
  ["\x7b",
   "  \"test_set_id\": \"vpn-generated-7\",",
   "  \"version\": \"1.0.0\",",
   "  \"domain\": \"VPN\",",
   "  \"cases\": [",
   "    \x7b",
   "      \"case_id\": \"VPN-GEN-DUPLICATE-001\",",
   "      \"category\": \"malformed\",",
   "      \"input_data\": \x7b",
   "        \"method\": \"GET\",",
   "        \"path\": \"/remote/login\",",
   "        \"headers\": [",
   "          [",
   "            \"Host\",",
   "            \"vpn.example.local\"",
   "          ],",
   "          [",
   "            \"Host\",",
   "            \"internal.synthetic.local\"",
   "          ]",
   "        ],",
   "        \"declared_content_length\": 0,",
   "        \"actual_body_length\": 0,",
   "        \"encoding\": \"utf-8\"",
   "      \x7d,",
   "      \"expected_outcome\": \"blocked\",",
   "      \"provenance\": \"duplicate header field with conflicting values\",",
   "      \"version\": \"1.0.0\"",
   "    \x7d",
   "  ]",
   "\x7d"]

def text : String :=
  "\n".intercalate lines

def provenance : DatasetProvenance where
  generatorId := "vpn_pre_auth_request_generator"
  generatorVersion := "1.0.0"
  seed := 7
  config := config
  sha256 := "8413e9c6ce8392c06659177086289efc35d3f92d6d344ab72266285db44692d6"

def libraries : DatasetLibraries where
  source :=
    { State := ℕ
      seeded := fun seed => seed.toNat
      random := fun state => (0, state + 1)
      randint := fun lower _ state => (lower, state + 1) }
  readVpnConfig json := if json = config then some ownConfig else none
  readTelecomConfig _ := none
  canonicalSha256 _ := provenance.sha256
  dumpTestSet _ := text

def codec : Codec where
  dumps _ := text
  dumpModel _ := text
  parse document := if document = text then some json else none
  parseEncoded _ _ := none
  readFields _ := .error ⟨"EvidenceManifest", []⟩
  dumpComparison _ := ""
  readComparison _ := .error ⟨"ComparisonReport", []⟩

def reader : DatasetReader where
  sha256 _ := "69c85a5c90c6ebdacd36f61d7ddf55d17ffdefce3deb13ea9fe838508e6e193b"
  readFields data := if data = json then .ok testSet else .error ⟨"TestSet", []⟩

/-- A call for the sample experiment. -/
def call (interruption : Option ℕ) : DraftCall where
  request := Sample.body
  references :=
    [{ cveId := "CVE-2024-21762"
       domain := .vpn
       cvssScore := none
       cisaKev := true
       epssScore := none
       trustBoundary := "internet to appliance"
       rootCause := .inputValidationFailure
       vendorMitigation := "upgrade"
       mitigationGap := "unpatched appliances"
       sourceUrls := [⟨"https://nvd.nist.gov/vuln/detail/CVE-2024-21762"⟩]
       retrievedDate := 19737 }]
  versionNumber := 1
  config := config
  createdBy := "researcher"
  now := 0
  interruption

theorem generated_call (interruption : Option ℕ) :
    (call interruption).generated libraries = .ok (testSet, provenance) := by
  have same : ((call none).generated libraries).toOption = some (testSet, provenance) := by
    decide +kernel
  change (call none).generated libraries = _
  cases generates : (call none).generated libraries with
  | error error =>
      rw [generates] at same
      cases same
  | ok generated =>
      rw [generates] at same
      exact congrArg _ (Option.some.inj same)

theorem readsBack : DatasetReadsBack libraries codec reader testSet := by
  have plain : detectEncoding (encodeUtf8 text) = .utf8 := by decide
  have parsed : codec.parse text = some json := by
    rw [codec]
    dsimp only
    rw [if_pos rfl]
  have read : reader.readFields json = .ok testSet := by
    rw [reader]
    dsimp only
    rw [if_pos rfl]
  refine ⟨json, ?_, read⟩
  rw [libraries, loads, plain, decodeUtf8_encodeUtf8]
  dsimp only
  rw [parsed, Option.elim_some]

/-- The calls of the sample generate one test set, which is read back. -/
theorem readsBack_of_calls {calls : List DraftCall} (samples : ∀ made ∈ calls, ∃ interruption,
    made = call interruption) : ∀ made ∈ calls, ∀ generated,
      made.generated libraries = .ok generated →
        DatasetReadsBack libraries codec reader generated.1 := by
  intro made member generated generates
  obtain ⟨interruption, rfl⟩ := samples made member
  obtain rfl := Except.ok.inj ((generated_call interruption).symm.trans generates)
  exact readsBack

/-- The first call is interrupted after a number of bytes. -/
def calls (written : ℕ) : List DraftCall :=
  [call (some written), call none]

theorem samples (written : ℕ) : ∀ made ∈ calls written, ∃ interruption,
    made = call interruption := by
  intro made member
  rcases List.mem_pair.mp member with rfl | rfl
  · exact ⟨some written, rfl⟩
  · exact ⟨none, rfl⟩

theorem allWriteWhole : AllWriteWhole libraries Sample.services (calls 694) := by
  intro before made after split generated count _ interrupts
  refine .inr ?_
  have size : (encodeUtf8 text).size = 694 := by decide +kernel
  have member : made ∈ calls 694 := by
    rw [split]
    exact List.mem_append_right _ List.mem_cons_self
  rcases List.mem_pair.mp member with rfl | rfl
  · obtain rfl : 694 = count := Option.some.inj interrupts
    exact size.le
  · cases interrupts

theorem pathsTell (written : ℕ) : PathsTell libraries (calls written) := by
  intro left isLeft right isRight generated other generates produces _
  obtain ⟨_, rfl⟩ := samples written left isLeft
  obtain ⟨_, rfl⟩ := samples written right isRight
  obtain rfl := Except.ok.inj ((generated_call _).symm.trans generates)
  obtain rfl := Except.ok.inj ((generated_call _).symm.trans produces)
  rfl

end MaterialisedSample

/-- A call is interrupted after the last byte and made again. -/
theorem datasets_of_versions_of_sample :
    ∃ version ∈ (runDrafts MaterialisedSample.libraries Sample.services
        (MaterialisedSample.calls 694)).returned,
      DatasetOnDisk MaterialisedSample.libraries MaterialisedSample.codec MaterialisedSample.reader
        (runDrafts MaterialisedSample.libraries Sample.services
          (MaterialisedSample.calls 694)).world.files version := by
  have some : 0 < (runDrafts MaterialisedSample.libraries Sample.services
      (MaterialisedSample.calls 694)).returned.length := by decide +kernel
  have member := List.getElem_mem some
  exact ⟨_, member, datasets_of_versions _ _ _ _ _
    (MaterialisedSample.readsBack_of_calls (MaterialisedSample.samples 694))
    MaterialisedSample.allWriteWhole (MaterialisedSample.pathsTell 694) _ member⟩

/-- A call is interrupted before the first byte; when it is made again, its version has an empty
dataset. -/
theorem not_datasets_of_interruption :
    ¬ ∀ (libraries : DatasetLibraries) (services : Services) (codec : Codec)
        (reader : DatasetReader) (calls : List DraftCall),
      (∀ call ∈ calls, ∀ generated, call.generated libraries = .ok generated →
        DatasetReadsBack libraries codec reader generated.1) →
      ∀ version ∈ (runDrafts libraries services calls).returned,
        DatasetOnDisk libraries codec reader (runDrafts libraries services calls).world.files
          version := by
  intro claim
  have holds := claim MaterialisedSample.libraries Sample.services MaterialisedSample.codec
    MaterialisedSample.reader (MaterialisedSample.calls 0)
    (MaterialisedSample.readsBack_of_calls (MaterialisedSample.samples 0))
  have empty : (runDrafts MaterialisedSample.libraries Sample.services
      (MaterialisedSample.calls 0)).returned.any (fun version =>
        (runDrafts MaterialisedSample.libraries Sample.services
          (MaterialisedSample.calls 0)).world.files version.definition.datasetPath.str =
            some ByteArray.empty) = true := by decide +kernel
  obtain ⟨version, member, isEmpty⟩ := List.any_eq_true.mp empty
  obtain ⟨raw, testSet, hash, provenance, found, -, parsed, -⟩ := holds version member
  obtain rfl : ByteArray.empty = raw :=
    Option.some.inj ((of_decide_eq_true isEmpty).symm.trans found)
  cases parsed

end ZeroShield.Studio
