import ZeroShield.Repositories.EvidenceRepository

/-!
# Evidence in a bucket

Objects have flat keys; a run's objects share the prefix which is made of its identifiers.
-/

namespace ZeroShield.Repositories

open Foundation Models Evidence

/-- The operations on the objects of a bucket. -/
inductive ObjectOp
  /-- Whether there is an object whose key starts with a prefix. -/
  | listObjects (keyStem : String)
  | putObject (key : String) (content : Bytes)
  /-- The content of an object, if its key exists. -/
  | getObject (key : String)

abbrev ObjectOp.Result : ObjectOp → Type
  | .listObjects _ => Bool
  | .putObject _ _ => Unit
  | .getObject _ => Option Bytes

/-- The interface of the object store. -/
abbrev objects : Interface := ⟨ObjectOp, ObjectOp.Result⟩

/-- Perform an operation on objects. -/
abbrev onObjects (op : ObjectOp) : Program objects op.Result :=
  Program.call (I := objects) op

/-- The objects of a bucket by their keys. -/
abbrev Bucket : Type := Dict Bytes

/-- The meaning of the operations on objects. -/
def execObject : Semantics objects Unit Bucket := fun _ op bucket =>
  match op with
  | .listObjects keyStem =>
      (bucket.rows.any fun entry => keyStem.toList.isPrefixOf entry.1.toList, bucket)
  | .putObject key content => ((), bucket.set key content)
  | .getObject key => (bucket.get key, bucket)

namespace MinioEvidenceRepository

variable (codec : Codec) (bucketName : String)

def objectKey (experimentId runId filename : String) : String :=
  experimentId ++ "/" ++ runId ++ "/" ++ filename

def comparisonKey (experimentId : String) : String :=
  experimentId ++ "/comparison.json"

/-- A label, not a file. -/
def label (path : List String) : PurePath :=
  { root := "", parts := bucketName :: path }

def saveRunEvidence (bundle : EvidenceBundle) :
    Program objects (Except RepositoryError PurePath) := do
  let experimentId := bundle.manifest.experimentId
  let runId := bundle.manifest.runId
  let existing : Bool ← onObjects (.listObjects (objectKey experimentId runId ""))
  if existing then
    return .error (.evidenceAlreadyExists (evidenceAlreadyExists experimentId runId))
  else
    writeAll (fun name content => onObjects
      (.putObject (objectKey experimentId runId name) content))
      bundle.artefacts.rows
    return .ok (label bucketName [experimentId, runId])

/-- Parse the bytes of an object and validate it as a manifest. -/
def manifestOf (bytes : Bytes) : Except RepositoryError EvidenceManifest := do
  let data ← loads codec bytes
  modelValidateManifest codec data

/-- Validate the bytes of an object, which are UTF-8, as a comparison. -/
def comparisonOf (bytes : Bytes) : Except RepositoryError ComparisonReport :=
  match decodeUtf8 bytes with
  | none => .error .unicodeDecode
  | some text => (codec.readComparison text).mapError .validation

def loadManifest (experimentId runId : String) :
    Program objects (Except RepositoryError EvidenceManifest) := do
  let content : Option Bytes ← onObjects (.getObject (objectKey experimentId runId "manifest.json"))
  return content.elim (.error .fileNotFound) (manifestOf codec)

def saveComparison (experimentId : String) (report : ComparisonReport) :
    Program objects PurePath := do
  onObjects (.putObject (comparisonKey experimentId) (encodeUtf8 (codec.dumpComparison report)))
  return label bucketName [experimentId, "comparison.json"]

def loadComparison (experimentId : String) :
    Program objects (Except RepositoryError (Option ComparisonReport)) := do
  let content : Option Bytes ← onObjects (.getObject (comparisonKey experimentId))
  return content.elim (.ok none) fun bytes => (comparisonOf codec bytes).map some

def loadArtefact (experimentId runId filename : String) :
    Program objects (Except RepositoryError Bytes) := do
  let content : Option Bytes ← onObjects (.getObject (objectKey experimentId runId filename))
  return content.elim (.error .fileNotFound) .ok

end MinioEvidenceRepository

/-- The repository in a bucket. -/
def MinioEvidenceRepository (codec : Codec) (bucketName : String) : EvidenceRepository objects where
  saveRunEvidence := MinioEvidenceRepository.saveRunEvidence bucketName
  loadManifest := MinioEvidenceRepository.loadManifest codec
  saveComparison := MinioEvidenceRepository.saveComparison codec bucketName
  loadComparison := MinioEvidenceRepository.loadComparison codec
  loadArtefact := MinioEvidenceRepository.loadArtefact

end ZeroShield.Repositories
