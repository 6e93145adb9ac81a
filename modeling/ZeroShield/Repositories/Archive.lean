import ZeroShield.Repositories.EvidenceRepository
import Mathlib.Data.Set.Function

/-!
# The archive

What a repository is for: files by experiment, run and name, and one comparison for each
experiment.  A backend represents an archive by the same rows under keys of its own.
-/

namespace ZeroShield.Repositories

open Foundation Models Evidence

/-! ## Renaming keys -/

section Renaming

variable {Key Key' Value : Type} [DecidableEq Key] [DecidableEq Key'] {rename : Key → Key'}
  {known : Set Key}

/-- Rows under renamed keys. -/
abbrev renamed (rename : Key → Key') (rows : List (Key × Value)) : List (Key' × Value) :=
  rows.map (Prod.map rename id)

/-- Writing a row commutes with renaming the keys. -/
theorem upsertRow_renamed (injective : Set.InjOn rename known) {key : Key} (value : Value)
    {rows : List (Key × Value)} (fresh : key ∈ known) (stored : ∀ row ∈ rows, row.1 ∈ known) :
    Table.upsertRow Prod.fst (rename key, value) (renamed rename rows) =
      renamed rename (Table.upsertRow Prod.fst (key, value) rows) := by
  induction rows with
  | nil => rfl
  | cons row rows ih =>
      have rest := ih fun later member => stored later (List.mem_cons_of_mem _ member)
      have same : rename row.1 = rename key ↔ row.1 = key :=
        injective.eq_iff (stored row List.mem_cons_self) fresh
      rw [renamed, List.map_cons, Table.upsertRow, Table.upsertRow, Prod.map_fst]
      by_cases equal : row.1 = key
      · rw [if_pos equal, if_pos (same.mpr equal), renamed, List.map_cons]
        rfl
      · rw [if_neg equal, if_neg (mt same.mp equal), rest, renamed, renamed, List.map_cons]

/-- A row is found under its renamed key. -/
theorem find?_renamed (injective : Set.InjOn rename known) {key : Key}
    {rows : List (Key × Value)} (asked : key ∈ known) (stored : ∀ row ∈ rows, row.1 ∈ known) :
    (renamed rename rows).find? (fun row => row.1 = rename key) =
      (rows.find? fun row => row.1 = key).map (Prod.map rename id) := by
  induction rows with
  | nil => rfl
  | cons row rows ih =>
      have rest := ih fun later member => stored later (List.mem_cons_of_mem _ member)
      have same : rename row.1 = rename key ↔ row.1 = key :=
        injective.eq_iff (stored row List.mem_cons_self) asked
      rw [renamed, List.map_cons, List.find?_cons, List.find?_cons, Prod.map_fst]
      by_cases equal : row.1 = key
      · simp [equal]
      · simp only [equal, mt same.mp equal, decide_false]
        exact rest

end Renaming

/-! ## Paths and contents -/

/-- What a repository stores. -/
inductive EvidencePath
  | comparison (experimentId : String)
  | artefact (experimentId runId filename : String)
  deriving DecidableEq

/-- Whether a path belongs to a run. -/
def EvidencePath.ofRun (experimentId runId : String) : EvidencePath → Bool
  | .comparison _ => false
  | .artefact experiment run _ => experiment = experimentId ∧ run = runId

/-- The contents by their paths. -/
abbrev Archive : Type := Table (Prod.fst : EvidencePath × Bytes → EvidencePath)

namespace Archive

variable (archive : Archive) (path : EvidencePath) (content : Bytes)

/-- The content at a path. -/
def get : Option Bytes :=
  (archive.lookup path).map (·.2)

/-- Replace the content at a path. -/
def put : Archive :=
  archive.upsert (path, content)

/-- Replace the contents of files of a run, one after another. -/
def putAll (experimentId runId : String) (archive : Archive) : List (String × Bytes) → Archive
  | [] => archive
  | (name, content) :: artefacts =>
      putAll experimentId runId (archive.put (.artefact experimentId runId name) content) artefacts

/-- Whether a run has a file. -/
def occupied (experimentId runId : String) : Bool :=
  archive.rows.any fun row => row.1.ofRun experimentId runId

theorem get_put (other : EvidencePath) :
    (archive.put path content).get other =
      if path = other then some content else archive.get other := by
  by_cases same : path = other
  · subst same
    simp [get, put]
  · simp [get, put, Table.lookup_upsert_ne, same]

variable {archive} {path} {content}

/-- What is found after writing a file of a run. -/
theorem get_putAll_cases {experimentId runId : String} {artefacts : List (String × Bytes)}
    {archive : Archive} {path : EvidencePath} {content : Bytes}
    (stored : (putAll experimentId runId archive artefacts).get path = some content) :
    archive.get path = some content ∨
      ∃ name, path = .artefact experimentId runId name ∧ (name, content) ∈ artefacts := by
  induction artefacts generalizing archive with
  | nil => exact Or.inl stored
  | cons artefact artefacts ih =>
      obtain ⟨name, written⟩ := artefact
      rcases ih stored with earlier | ⟨other, rfl, member⟩
      · rw [get_put] at earlier
        split at earlier
        next same =>
          obtain rfl := Option.some.inj earlier
          exact Or.inr ⟨name, same.symm, List.mem_cons_self⟩
        next => exact Or.inl earlier
      · exact Or.inr ⟨other, rfl, List.mem_cons_of_mem _ member⟩

theorem mem_rows_put {row : EvidencePath × Bytes} (member : row ∈ (archive.put path content).rows) :
    row = (path, content) ∨ row ∈ archive.rows :=
  (Table.mem_rows_upsert member).imp id (·.2)

/-- A run has a file exactly when one of its files has a content. -/
theorem occupied_iff {experimentId runId : String} :
    archive.occupied experimentId runId = true ↔
      ∃ filename, (archive.get (.artefact experimentId runId filename)).isSome := by
  simp only [occupied, List.any_eq_true, Prod.exists]
  constructor
  · rintro ⟨path, content, member, ofRun⟩
    cases path with
    | comparison => cases ofRun
    | artefact experiment run filename =>
        obtain ⟨rfl, rfl⟩ := of_decide_eq_true ofRun
        have stored : archive.lookup _ = _ := Table.mem_rows.mp member
        exact ⟨filename, by simp [get, stored]⟩
  · rintro ⟨filename, content⟩
    rw [get, Option.isSome_map] at content
    obtain ⟨row, stored⟩ := Option.isSome_iff_exists.mp content
    refine ⟨row.1, row.2, Table.mem_rows_of_lookup stored, ?_⟩
    rw [Table.key_of_lookup stored]
    simp [EvidencePath.ofRun]

end Archive

end ZeroShield.Repositories
