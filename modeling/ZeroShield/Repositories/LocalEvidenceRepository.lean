import ZeroShield.Repositories.EvidenceRepository

/-!
# Evidence in local files

A run has a directory below that of its experiment, and the comparison lies beside the run
directories.  Paths are given by their segments below the root.
-/

namespace ZeroShield.Repositories

open Foundation Models Evidence

/-- The operations on files. -/
inductive FileOp
  /-- Whether a path is a directory with an entry. -/
  | hasEntries (directory : List String)
  /-- Make a directory with its parents, unless it exists. -/
  | mkdir (directory : List String)
  /-- Replace the content of a file in a directory which exists. -/
  | writeBytes (path : List String) (content : Bytes)
  | isFile (path : List String)
  /-- The content of a file, if it exists. -/
  | readBytes (path : List String)

abbrev FileOp.Result : FileOp → Type
  | .hasEntries _ => Bool
  | .mkdir _ => Unit
  | .writeBytes _ _ => Unit
  | .isFile _ => Bool
  | .readBytes _ => Option Bytes

/-- The interface of the file system. -/
abbrev files : Interface := ⟨FileOp, FileOp.Result⟩

/-- Perform an operation on files. -/
abbrev onFiles (op : FileOp) : Program files op.Result :=
  Program.call (I := files) op

/-- A file with its path. -/
abbrev File : Type := List String × Bytes

/-- Directories and files below the root. -/
structure Tree where
  directories : List (List String) := []
  files : Table (Prod.fst : File → List String) := .empty

namespace Tree

/-- The entries of a directory lie immediately below it. -/
def hasEntries (tree : Tree) (directory : List String) : Bool :=
  tree.directories.contains directory &&
    (tree.files.rows.any (·.1.dropLast = directory) ||
      tree.directories.any fun other => other ≠ [] ∧ other.dropLast = directory)

/-- The directory and its parents exist. -/
def mkdir (tree : Tree) (directory : List String) : Tree :=
  { tree with directories := tree.directories ++
      directory.inits.filter fun parent => parent ≠ [] ∧ parent ∉ tree.directories }

def writeBytes (tree : Tree) (path : List String) (content : Bytes) : Tree :=
  { tree with files := tree.files.upsert (path, content) }

def read (tree : Tree) (path : List String) : Option Bytes :=
  (tree.files.lookup path).map (·.2)

end Tree

/-- The meaning of the operations on files. -/
def execFile : Semantics files Unit Tree := fun _ op tree =>
  match op with
  | .hasEntries directory => (tree.hasEntries directory, tree)
  | .mkdir directory => ((), tree.mkdir directory)
  | .writeBytes path content => ((), tree.writeBytes path content)
  | .isFile path => ((tree.read path).isSome, tree)
  | .readBytes path => (tree.read path, tree)

namespace LocalEvidenceRepository

variable (codec : Codec) (root : PurePath)

/-- A location below the root. -/
def location (path : List String) : PurePath :=
  { root with parts := root.parts ++ path }

def saveRunEvidence (bundle : EvidenceBundle) :
    Program files (Except RepositoryError PurePath) := do
  let runDir := [bundle.manifest.experimentId, bundle.manifest.runId]
  let exists_ : Bool ← onFiles (.hasEntries runDir)
  if exists_ then
    return .error (.evidenceAlreadyExists
      (evidenceAlreadyExists bundle.manifest.experimentId bundle.manifest.runId))
  else
    onFiles (.mkdir runDir)
    writeAll (fun name content => onFiles (.writeBytes (runDir ++ [name]) content))
      bundle.artefacts.rows
    return .ok (location root runDir)

/-- Read a file as text and validate it as a manifest. -/
def manifestOf (bytes : Bytes) : Except RepositoryError EvidenceManifest :=
  match readText bytes with
  | none => .error .unicodeDecode
  | some text => do
      let data ← loadsText codec text
      modelValidateManifest codec data

/-- Read a file as text and validate it as a comparison. -/
def comparisonOf (bytes : Bytes) : Except RepositoryError ComparisonReport :=
  match readText bytes with
  | none => .error .unicodeDecode
  | some text => (codec.readComparison text).mapError .validation

def loadManifest (experimentId runId : String) :
    Program files (Except RepositoryError EvidenceManifest) := do
  let content : Option Bytes ← onFiles (.readBytes [experimentId, runId, "manifest.json"])
  return content.elim (.error .fileNotFound) (manifestOf codec)

def saveComparison (experimentId : String) (report : ComparisonReport) :
    Program files PurePath := do
  onFiles (.mkdir [experimentId])
  let path := [experimentId, "comparison.json"]
  onFiles (.writeBytes path (encodeUtf8 (codec.dumpComparison report)))
  return location root path

def loadComparison (experimentId : String) :
    Program files (Except RepositoryError (Option ComparisonReport)) := do
  let path := [experimentId, "comparison.json"]
  let present : Bool ← onFiles (.isFile path)
  if present then
    let content : Option Bytes ← onFiles (.readBytes path)
    return content.elim (.error .fileNotFound) fun bytes => (comparisonOf codec bytes).map some
  else return .ok none

def loadArtefact (experimentId runId filename : String) :
    Program files (Except RepositoryError Bytes) := do
  let content : Option Bytes ← onFiles (.readBytes [experimentId, runId, filename])
  return content.elim (.error .fileNotFound) .ok

end LocalEvidenceRepository

/-- The repository in the files below a root. -/
def LocalEvidenceRepository (codec : Codec) (root : PurePath) : EvidenceRepository files where
  saveRunEvidence := LocalEvidenceRepository.saveRunEvidence root
  loadManifest := LocalEvidenceRepository.loadManifest codec
  saveComparison := LocalEvidenceRepository.saveComparison codec root
  loadComparison := LocalEvidenceRepository.loadComparison codec
  loadArtefact := LocalEvidenceRepository.loadArtefact

end ZeroShield.Repositories
