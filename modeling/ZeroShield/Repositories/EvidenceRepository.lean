import ZeroShield.Evidence.Builder
import ZeroShield.Foundation.Encoding
import ZeroShield.Foundation.Program
import ZeroShield.Foundation.Reading

/-!
# The evidence repository

What every backend offers: a run directory is written once, the comparison of an experiment is
overwritten, and both are read back.
-/

namespace ZeroShield.Repositories

open Foundation Models Evidence

/-! ## Reading and writing JSON -/

/-- How JSON is written and read. -/
structure Codec where
  /-- The text of a value, indented. -/
  dumps : Json → String
  /-- The text of a model, indented. -/
  dumpModel : Json → String
  /-- Parse a text, if it is JSON. -/
  parse : String → Option Json
  /-- Decode bytes which are not valid UTF-8, or in another encoding, and parse the text. -/
  parseEncoded : Encoding → Bytes → Option Json
  /-- Read the fields of a manifest. -/
  readFields : Json → Except ValidationError EvidenceManifest
  /-- The text of a comparison. -/
  dumpComparison : ComparisonReport → String
  /-- Read a comparison from its text. -/
  readComparison : String → Except ValidationError ComparisonReport

/-- Why a file cannot be used. -/
inductive RepositoryError
  | evidenceAlreadyExists (message : String)
  | fileNotFound
  | unicodeDecode
  | jsonDecode
  | manifest (failure : ManifestFailure)
  | validation (error : ValidationError)

section Loading

variable (codec : Codec)

/-- Parse a text; a byte order mark is an error. -/
def loadsText (text : String) : Except RepositoryError Json :=
  if text.toList.head? = some '\uFEFF' then .error .jsonDecode
  else (codec.parse text).elim (.error .jsonDecode) .ok

/-- Parse bytes in the encoding which is detected. -/
def loads (bytes : Bytes) : Except RepositoryError Json :=
  match detectEncoding bytes, decodeUtf8 bytes with
  | .utf8, some text => (codec.parse text).elim (.error .jsonDecode) .ok
  | encoding, _ => (codec.parseEncoded encoding bytes).elim (.error .jsonDecode) .ok

/-- Check the fields of a manifest. -/
def modelValidateManifest (content : Json) : Except RepositoryError EvidenceManifest :=
  match codec.readFields content with
  | .error error => .error (.manifest (.validation error))
  | .ok manifest => manifest.validate.mapError .manifest

/-- Bytes which are detected as UTF-8 and are UTF-8. -/
def PlainText (bytes : Bytes) : Prop :=
  detectEncoding bytes = .utf8 ∧ (decodeUtf8 bytes).isSome

/-- JSON is the same with every line end: they are white space, and not allowed in strings. -/
def Codec.IgnoresLineEnds : Prop :=
  ∀ text, codec.parse (universalNewlines text) = codec.parse text

/-- Line ends do not begin with a byte order mark. -/
theorem head?_universalNewlines {text : String} :
    (universalNewlines text).toList.head? = some '\uFEFF' ↔ text.toList.head? = some '\uFEFF' := by
  rw [universalNewlines, String.toList_ofList]
  cases text.toList with
  | nil => rfl
  | cons c rest =>
      by_cases return_ : c = '\r'
      · subst return_
        cases rest with
        | nil => decide
        | cons d rest =>
            by_cases feed : d = '\n'
            · subst feed
              simp [universalNewlines.go]
            · rw [universalNewlines.go]
              · simp
              · exact fun rest same => feed (List.cons.inj same).1
      · rw [universalNewlines.go]
        · simp
        · exact fun rest same _ => return_ same
        · exact return_

/-- Plain text is parsed alike as text and as bytes. -/
theorem loadsText_of_plainText {bytes : Bytes} (lineEnds : codec.IgnoresLineEnds)
    (plain : PlainText bytes) :
    ∃ text, readText bytes = some text ∧ loadsText codec text = loads codec bytes := by
  obtain ⟨detected, valid⟩ := plain
  obtain ⟨text, decoded⟩ := Option.isSome_iff_exists.mp valid
  have unmarked : text.toList.head? ≠ some '\uFEFF' :=
    head?_ne_mark (by rw [encodeUtf8_of_decodeUtf8 decoded, detected])
  refine ⟨universalNewlines text, by simp [readText, decoded], ?_⟩
  rw [loadsText, if_neg (mt head?_universalNewlines.mp unmarked), lineEnds, loads,
    detected, decoded]

end Loading

/-! ## The interface -/

/-- The manifest of a run with its files. -/
structure EvidenceBundle where
  manifest : EvidenceManifest
  artefacts : Dict Bytes

/-- A repository whose methods are programs over the operations of its backend. -/
structure EvidenceRepository (I : Interface) where
  saveRunEvidence : EvidenceBundle → Program I (Except RepositoryError PurePath)
  loadManifest : (experimentId runId : String) → Program I (Except RepositoryError EvidenceManifest)
  saveComparison : (experimentId : String) → ComparisonReport → Program I PurePath
  loadComparison : (experimentId : String) →
    Program I (Except RepositoryError (Option ComparisonReport))
  loadArtefact : (experimentId runId filename : String) → Program I (Except RepositoryError Bytes)

/-- Write the files one after another. -/
def writeAll {I : Interface} (write : String → Bytes → Program I Unit) :
    List (String × Bytes) → Program I Unit
  | [] => .done ()
  | (name, content) :: artefacts => do
      write name content
      writeAll write artefacts

/-- The text of a file: the results and the description of the dataset are no models. -/
def artefactText (codec : Codec) (name : String) (content : Json) : String :=
  if name = "dataset_manifest.json" ∨ name = "results.json" then codec.dumps content
  else codec.dumpModel content

/-- A bundle with its files as they are written. -/
def encodeBundle (codec : Codec) (bundle : Evidence.EvidenceBundle) : EvidenceBundle where
  manifest := bundle.manifest
  artefacts := Dict.update Table.empty
    (bundle.artefacts.map fun (name, content) =>
      (name, encodeUtf8 (artefactText codec name content)))

end ZeroShield.Repositories
