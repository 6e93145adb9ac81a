import ZeroShield.Foundation.Encoding
import ZeroShield.Foundation.Fallible
import ZeroShield.Models.Experiment
import Mathlib.Data.List.Sort
import Mathlib.Data.String.Basic

/-!
# Discovering experiments

Every `*.json` entry of a directory is read, parsed and validated; what is not JSON or not a valid
definition is skipped.  Other failures of a single entry end the whole discovery.
-/

namespace ZeroShield.Experiments

open Foundation Models

/-- Why an entry of a directory cannot be opened as a file. -/
inductive OSError
  | isADirectory
  | permission
  | notFound
  deriving DecidableEq

/-- What is found under a name. -/
inductive Entry
  | file (bytes : Bytes)
  | unopened (error : OSError)

/-- The entries of a directory. -/
structure Listing where
  entries : List (String × Entry)
  distinct : (entries.map Prod.fst).Nodup

/-- Why a text is not parsed, apart from being no JSON. -/
inductive ParseFailure
  /-- The text is nested too deeply. -/
  | recursion
  /-- A number has too many digits. -/
  | value
  deriving DecidableEq

/-- How `json.loads` fails. -/
inductive LoadsError
  | jsonDecode (message : String)
  | other (failure : ParseFailure)

/-- What ends a discovery. -/
inductive DiscoveryFailure
  | os (error : OSError)
  | unicodeDecode
  | parse (failure : ParseFailure)
  deriving DecidableEq

structure ExperimentDiscoveryError where
  /-- The name of the entry in the directory. -/
  path : String
  reason : String

structure ExperimentDiscoveryResult where
  experiments : List ExperimentDefinition
  skipped : List ExperimentDiscoveryError

/-- How texts and values are read. -/
structure Parser where
  loads : String → Except LoadsError Json
  /-- Read the fields of a definition. -/
  readFields : Json → Except ValidationError ExperimentDefinition
  /-- The text of a validation error. -/
  str : ValidationError → String

/-- The entries which the pattern `*.json` matches, in the order of their names. -/
def Listing.jsonEntries (listing : Listing) : List (String × Entry) :=
  (listing.entries.filter fun entry => ".json".toList <:+ entry.1.toList).insertionSort
    fun left right => left.1 ≤ right.1

/-- Read an entry as text. -/
def Entry.readText : Entry → Except DiscoveryFailure String
  | unopened error => .error (.os error)
  | file bytes => (Foundation.readText bytes).elim (.error .unicodeDecode) .ok

theorem Listing.jsonEntries_singleton {listing : Listing} {entry : String × Entry}
    (single : listing.entries = [entry]) (matched : ".json".toList <:+ entry.1.toList) :
    listing.jsonEntries = [entry] := by
  have kept : ([entry].filter fun entry => ".json".toList <:+ entry.1.toList) = [entry] :=
    List.filter_cons_of_pos (decide_eq_true matched)
  rw [jsonEntries, single, kept]
  rfl

variable (parser : Parser)

/-- Validate a parsed value as a definition. -/
def modelValidate (raw : Json) : Except ValidationError ExperimentDefinition :=
  match parser.readFields raw with
  | .error error => .error error
  | .ok definition => definition.validate

/-- Read one entry and keep or skip it. -/
def examine (result : ExperimentDiscoveryResult) (entry : String × Entry) :
    Except DiscoveryFailure ExperimentDiscoveryResult := do
  let text ← entry.2.readText
  match parser.loads text with
  | .error (.other failure) => throw (.parse failure)
  | .error (.jsonDecode message) =>
      return { result with
        skipped := result.skipped ++ [⟨entry.1, s!"invalid JSON: {message}"⟩] }
  | .ok raw =>
      match modelValidate parser raw with
      | .error error =>
          return { result with
            skipped := result.skipped ++
              [⟨entry.1, s!"schema validation failed: {parser.str error}"⟩] }
      | .ok definition => return { result with experiments := result.experiments ++ [definition] }

/-- Load every entry which holds a valid definition; no directory holds none. -/
def discoverExperiments : Option Listing → Except DiscoveryFailure ExperimentDiscoveryResult
  | none => .ok ⟨[], []⟩
  | some listing => listing.jsonEntries.foldlM (examine parser) ⟨[], []⟩

/-- The first discovered definition with an identifier. -/
def findExperiment (directory : Option Listing) (experimentId : String) :
    Except DiscoveryFailure (Option ExperimentDefinition) := do
  let result ← discoverExperiments parser directory
  return result.experiments.find? (·.experimentId = experimentId)

/-! ## What an entry holds -/

/-- The entry is a file with UTF-8 text, which is parsed or is no JSON. -/
def Entry.Handled (entry : Entry) : Prop :=
  ∃ text, entry.readText = .ok text ∧ ∀ failure, parser.loads text ≠ .error (.other failure)

/-- The valid definition which an entry holds. -/
def Entry.definition (entry : Entry) : Option ExperimentDefinition := do
  let text ← entry.readText.toOption
  let raw ← (parser.loads text).toOption
  (modelValidate parser raw).toOption

/-- The `*.json` entries of a directory, if it is one. -/
def jsonEntriesOf (directory : Option Listing) : List (String × Entry) :=
  directory.elim [] Listing.jsonEntries

/-- Files which hold valid definitions are discovered and found, and all others are reported. -/
structure Isolates (directory : Option Listing) : Prop where
  discovers : ∃ result, discoverExperiments parser directory = .ok result ∧
    result.experiments = (jsonEntriesOf directory).filterMap (·.2.definition parser) ∧
    result.skipped.map (·.path) =
      ((jsonEntriesOf directory).filter fun entry => entry.2.definition parser = none).map Prod.fst
  finds : ∀ name entry definition, (name, entry) ∈ jsonEntriesOf directory →
    entry.definition parser = some definition → ∃ found,
      findExperiment parser directory definition.experimentId = .ok (some found) ∧
        found.experimentId = definition.experimentId

section Isolation

variable {parser : Parser} {entry : String × Entry} {entries : List (String × Entry)}
  {result next : ExperimentDiscoveryResult} {directory : Option Listing}

/-- An entry is kept or skipped exactly when it is handled. -/
theorem examine_isOk : (∃ next, examine parser result entry = .ok next) ↔
    entry.2.Handled parser := by
  constructor
  · rintro ⟨next, examined⟩
    obtain ⟨text, read, examined⟩ := bind_eq_ok.mp examined
    refine ⟨text, read, fun failure fails => ?_⟩
    rw [fails] at examined
    cases examined
  · rintro ⟨text, read, parsed⟩
    rw [examine, read]
    cases loaded : parser.loads text with
    | error error =>
        cases error with
        | jsonDecode message => exact ⟨_, by simp only [bind, Except.bind, loaded]; rfl⟩
        | other failure => exact absurd loaded (parsed failure)
    | ok raw =>
        cases validated : modelValidate parser raw with
        | error error => exact ⟨_, by simp only [bind, Except.bind, loaded, validated]; rfl⟩
        | ok definition => exact ⟨_, by simp only [bind, Except.bind, loaded, validated]; rfl⟩

/-- What one entry adds. -/
theorem examine_spec (examined : examine parser result entry = .ok next) :
    next.experiments = result.experiments ++ (entry.2.definition parser).toList ∧
      next.skipped.map (·.path) = result.skipped.map (·.path) ++
        ([entry].filter fun entry => entry.2.definition parser = none).map Prod.fst := by
  obtain ⟨text, read, examined⟩ := bind_eq_ok.mp examined
  have holds : entry.2.definition parser =
      ((parser.loads text).toOption.bind fun raw => (modelValidate parser raw).toOption) := by
    rw [Entry.definition, read]
    rfl
  split at examined
  · cases examined
  next message loaded =>
    cases examined
    have absent : entry.2.definition parser = none := by rw [holds, loaded]; rfl
    simp [absent]
  next raw loaded =>
    split at examined
    next error refused =>
      cases examined
      have absent : entry.2.definition parser = none := by
        rw [holds, loaded]
        exact congrArg Except.toOption refused
      simp [absent]
    next definition validated =>
      cases examined
      have present : entry.2.definition parser = some definition := by
        rw [holds, loaded]
        exact congrArg Except.toOption validated
      simp [present]

/-- The loop ends exactly when every entry is handled. -/
theorem examineAll_isOk : (∃ final, entries.foldlM (examine parser) result = .ok final) ↔
    ∀ entry ∈ entries, entry.2.Handled parser := by
  induction entries generalizing result with
  | nil => exact ⟨fun _ => nofun, fun _ => ⟨result, rfl⟩⟩
  | cons entry entries ih =>
      rw [List.forall_mem_cons, List.foldlM_cons]
      constructor
      · rintro ⟨final, examined⟩
        obtain ⟨next, first, later⟩ := bind_eq_ok.mp examined
        exact ⟨examine_isOk.mp ⟨next, first⟩, ih.mp ⟨final, later⟩⟩
      · rintro ⟨handled, others⟩
        obtain ⟨next, first⟩ := examine_isOk.mpr handled
        obtain ⟨final, later⟩ := ih.mpr others
        exact ⟨final, bind_eq_ok.mpr ⟨next, first, later⟩⟩

/-- What the loop collects. -/
theorem examineAll_spec (examined : entries.foldlM (examine parser) result = .ok next) :
    next.experiments = result.experiments ++ entries.filterMap (·.2.definition parser) ∧
      next.skipped.map (·.path) = result.skipped.map (·.path) ++
        (entries.filter fun entry => entry.2.definition parser = none).map Prod.fst := by
  induction entries generalizing result with
  | nil =>
      cases examined
      exact ⟨(List.append_nil _).symm, (List.append_nil _).symm⟩
  | cons entry entries ih =>
      rw [List.foldlM_cons] at examined
      obtain ⟨middle, first, later⟩ := bind_eq_ok.mp examined
      obtain ⟨kept, skipped⟩ := examine_spec first
      obtain ⟨experiments, paths⟩ := ih later
      constructor
      · rw [experiments, kept, List.append_assoc]
        cases found : entry.2.definition parser <;> simp [found]
      · rw [paths, skipped, List.append_assoc, ← List.map_append, ← List.filter_append,
          List.singleton_append]

theorem discoverExperiments_eq :
    discoverExperiments parser directory =
      (jsonEntriesOf directory).foldlM (examine parser) ⟨[], []⟩ := by
  cases directory <;> rfl

/-- A discovery returns only if every entry is handled. -/
theorem handled_of_discovered (discovered : discoverExperiments parser directory = .ok result) :
    ∀ entry ∈ jsonEntriesOf directory, entry.2.Handled parser := by
  rw [discoverExperiments_eq] at discovered
  exact examineAll_isOk.mp ⟨result, discovered⟩

theorem handled_of_isolates (isolates : Isolates parser directory) :
    ∀ entry ∈ jsonEntriesOf directory, entry.2.Handled parser := by
  obtain ⟨result, discovered, -⟩ := isolates.discovers
  exact handled_of_discovered discovered

/-- A definition which is discovered is found. -/
theorem isolates_of_handled (handled : ∀ entry ∈ jsonEntriesOf directory, entry.2.Handled parser) :
    Isolates parser directory := by
  obtain ⟨result, examined⟩ := examineAll_isOk.mpr handled
  obtain ⟨experiments, skipped⟩ := examineAll_spec examined
  have discovered := discoverExperiments_eq.trans examined
  refine ⟨⟨result, discovered, experiments, skipped⟩, ?_⟩
  intro name entry definition member held
  have listed : definition ∈ result.experiments := by
    rw [experiments]
    exact List.mem_filterMap.mpr ⟨(name, entry), member, held⟩
  have identified : (result.experiments.find? fun candidate =>
      candidate.experimentId = definition.experimentId).isSome :=
    List.find?_isSome.mpr ⟨definition, listed, decide_eq_true rfl⟩
  obtain ⟨found, first⟩ := Option.isSome_iff_exists.mp identified
  refine ⟨found, ?_, by simpa using List.find?_some first⟩
  rw [findExperiment, discovered, ← first]
  rfl

/-- A discovery isolates bad entries exactly when every entry can be read as UTF-8 and parsed, or is
reported to be no JSON. -/
theorem isolates_iff : Isolates parser directory ↔
    ∀ entry ∈ jsonEntriesOf directory, entry.2.Handled parser :=
  ⟨handled_of_isolates, isolates_of_handled⟩

end Isolation

/-- One file which is not UTF-8 beside a file with a definition. -/
def undecodable : Listing where
  entries := [("ZC-VPN-EXP-001.json", .file (encodeUtf8 "\x7b\x7d")),
    ("notes.json", .file ⟨#[0xff]⟩)]
  distinct := by decide

theorem discoverExperiments_undecodable {parser : Parser} {result : ExperimentDiscoveryResult} :
    discoverExperiments parser (some undecodable) ≠ .ok result := by
  intro discovered
  have matched : ("notes.json", Entry.file ⟨#[0xff]⟩) ∈ jsonEntriesOf (some undecodable) := by
    rw [jsonEntriesOf, Option.elim_some, Listing.jsonEntries, List.mem_insertionSort]
    exact List.mem_filter.mpr ⟨by simp [undecodable], by decide⟩
  obtain ⟨text, read, -⟩ := handled_of_discovered discovered _ matched
  have undecoded : Foundation.readText ⟨#[0xff]⟩ = none := by decide
  rw [Entry.readText, undecoded] at read
  cases read

/-- A file which is not UTF-8 ends the discovery. -/
theorem not_isolates_of_undecodable : ¬ ∃ parser, Isolates parser (some undecodable) := by
  rintro ⟨parser, isolates⟩
  obtain ⟨result, discovered, -⟩ := isolates.discovers
  exact discoverExperiments_undecodable discovered

end ZeroShield.Experiments
