import ZeroShield.Foundation.Text
import ZeroShield.Models.Enums
import Mathlib.Data.Rat.Defs

/-!
# Shared field types

Identifier patterns, relative paths and validation errors used by every model.
-/

namespace ZeroShield.Models

open Foundation

/-- Microseconds since the epoch, in UTC. -/
abbrev DateTime := ℤ

/-- Days since the epoch. -/
abbrev Date := ℤ

/-- The date of a point in time, in UTC. -/
def DateTime.date (time : DateTime) : Date := time / 86400000000

/-- A date of the Gregorian calendar, written as year, month and day. -/
def isoDate (date : Date) : String :=
  -- Days are counted in eras of 400 years which begin on the first of March.
  let shifted := date + 719468
  let dayOfEra := shifted % 146097
  let yearOfEra := (dayOfEra - dayOfEra / 1460 + dayOfEra / 36524 - dayOfEra / 146096) / 365
  let dayOfYear := dayOfEra - (365 * yearOfEra + yearOfEra / 4 - yearOfEra / 100)
  let monthFromMarch := (5 * dayOfYear + 2) / 153
  let day := dayOfYear - (153 * monthFromMarch + 2) / 5 + 1
  let month := if monthFromMarch < 10 then monthFromMarch + 3 else monthFromMarch - 9
  let year := yearOfEra + shifted / 146097 * 400 + if month ≤ 2 then 1 else 0
  padded 4 year.toNat ++ "-" ++ padded 2 month.toNat ++ "-" ++ padded 2 day.toNat

example : isoDate 19782 = "2024-02-29" := by decide

/-- A point in time in the format of ISO 8601; whole seconds are written without a fraction. -/
def DateTime.isoformat (time : DateTime) : String :=
  let microseconds := (time % 86400000000).toNat
  let seconds := microseconds / 1000000
  let fraction := microseconds % 1000000
  isoDate time.date ++ "T" ++ padded 2 (seconds / 3600) ++ ":" ++ padded 2 (seconds / 60 % 60) ++
    ":" ++ padded 2 (seconds % 60) ++ (if fraction = 0 then "" else "." ++ padded 6 fraction) ++
    "+00:00"

/-- A validated address, kept as its normalised text. -/
structure HttpUrl where
  /-- The normalised text. -/
  text : String
  deriving DecidableEq, Repr

/-! ## Identifier patterns -/

/-- The text before the number of an experiment identifier of a domain. -/
def experimentIdStem (domain : Domain) : String :=
  "ZC-" ++ StringEnum.value domain ++ "-EXP-"

/-- The domain segment of an identifier matching `^ZC-(VPN|TELECOM)-EXP-\d{3,}$`, if it matches. -/
def experimentIdDomain (experimentId : String) : Option Domain :=
  StringEnum.members.find? fun domain =>
    isPrefixedRun (experimentIdStem domain) isDecimalDigit (3 ≤ ·) experimentId

/-- The pattern `^ZC-(VPN|TELECOM)-EXP-\d{3,}$`. -/
def isExperimentId (experimentId : String) : Bool :=
  (experimentIdDomain experimentId).isSome

/-- The pattern `^RUN-\d{3,}$`. -/
def isRunId (runId : String) : Bool :=
  isPrefixedRun "RUN-" isDecimalDigit (3 ≤ ·) runId

/-- The pattern `^CVE-\d{4}-\d{4,7}$`. -/
def isCveId (cveId : String) : Bool :=
  match afterPrefix "CVE-".toList cveId.toList with
  | some (y₁ :: y₂ :: y₃ :: y₄ :: '-' :: number) =>
      isRun isDecimalDigit (· = 4) [y₁, y₂, y₃, y₄] &&
        isRun isDecimalDigit (fun length => 4 ≤ length && length ≤ 7) number
  | _ => false

/-- The pattern `^[a-z][a-z0-9_]*$`. -/
def isStrategyId (strategyId : String) : Bool :=
  match strategyId.toList with
  | [] => false
  | first :: rest =>
      first.isLower && rest.all fun c => c.isLower || c.isDigit || c = '_'

/-- The pattern `^[0-9a-f]{64}$`. -/
def isSha256Hex (digest : String) : Bool :=
  isRun isLowerHexDigit (· = 64) digest.toList

/-- The pattern `^[0-9a-f]{7,40}$`. -/
def isGitCommitHex (commit : String) : Bool :=
  isRun isLowerHexDigit (fun length => 7 ≤ length && length ≤ 40) commit.toList

/-! ## Paths -/

/-- A lexically normalised path: its root and its segments. -/
structure PurePath where
  /-- The root, empty for a relative path. -/
  root : String
  /-- The segments, none of them empty or a single dot. -/
  parts : List String
  deriving DecidableEq, Repr

namespace PurePath

/-- Split a text into its segments, dropping empty ones and single dots. -/
def segments (text : List Char) : List String :=
  ((text.splitOn '/').map String.ofList).filter fun part => part ≠ "" ∧ part ≠ "."

/-- Read a path: exactly two leading slashes are a root of their own. -/
def ofString (text : String) : PurePath :=
  match text.toList with
  | '/' :: '/' :: '/' :: rest => ⟨"/", segments rest⟩
  | '/' :: '/' :: rest => ⟨"//", segments rest⟩
  | '/' :: rest => ⟨"/", segments rest⟩
  | rest => ⟨"", segments rest⟩

/-- Write a path; the empty relative path is a single dot. -/
def str (path : PurePath) : String :=
  match path.root, path.parts with
  | "", [] => "."
  | root, parts => root ++ String.intercalate "/" parts

/-- Join a text to a path; a rooted text replaces it. -/
def join (path : PurePath) (text : String) : PurePath :=
  let other := ofString text
  if other.root = "" then { path with parts := path.parts ++ other.parts } else other

end PurePath

/-- The pattern `^[A-Za-z]:[\\/]`, a drive letter followed by a separator. -/
def startsWithDriveLetter (text : List Char) : Bool :=
  match text with
  | letter :: ':' :: separator :: _ =>
      letter.isAlpha && (separator = '/' || separator = '\\')
  | _ => false

/-- Absolute paths, drive letters and parent segments are unsafe. -/
def isUnsafeRelativePath (path : PurePath) : Bool :=
  path.root ≠ "" || startsWithDriveLetter path.str.toList ||
    (match path.str.toList with
      | first :: _ => first = '/' || first = '\\'
      | [] => false) ||
    path.parts.contains ".."

/-! ## Validation -/

/-- What is wrong with a field. -/
inductive Problem
  | stringType
  | stringTooShort
  | stringPatternMismatch
  | tooShort
  | greaterThanEqual
  | lessThanEqual
  | enumeration
  | urlParsing
  | dateParsing
  | valueError (message : String)
  deriving DecidableEq, Repr

/-- A problem at a field path. -/
structure FieldError where
  /-- The path of the field. -/
  loc : List String
  /-- What is wrong with it. -/
  problem : Problem
  deriving DecidableEq, Repr

/-- The problems found while validating a model. -/
structure ValidationError where
  /-- The name of the model. -/
  title : String
  /-- The problems, in the order of the fields. -/
  errors : List FieldError
  deriving DecidableEq, Repr

/-- Report a problem unless a check holds. -/
def require (holds : Bool) (loc : List String) (problem : Problem) : List FieldError :=
  if holds then [] else [⟨loc, problem⟩]

@[simp] theorem require_eq_nil {holds : Bool} {loc : List String} {problem : Problem} :
    require holds loc problem = [] ↔ holds = true := by
  cases holds <;> simp [require]

/-- A non-empty text field. -/
def requireText (name : String) (text : String) : List FieldError :=
  require (text ≠ "") [name] .stringTooShort

@[simp] theorem requireText_eq_nil {name text : String} :
    requireText name text = [] ↔ text ≠ "" := by
  simp [requireText]

/-- Whole-model checks run in order after all field checks passed; the first failure is reported. -/
def firstProblem : List (List FieldError) → List FieldError
  | [] => []
  | check :: checks => if check = [] then firstProblem checks else check

@[simp] theorem firstProblem_eq_nil {checks : List (List FieldError)} :
    firstProblem checks = [] ↔ ∀ check ∈ checks, check = [] := by
  induction checks with
  | nil => simp [firstProblem]
  | cons check checks ih =>
      by_cases passed : check = []
      · simp [firstProblem, passed, ih]
      · simp [firstProblem, passed]

/-- Field checks followed, when all pass, by whole-model checks. -/
def fieldsThenModel (fields : List FieldError) (model : List (List FieldError)) :
    List FieldError :=
  if fields = [] then firstProblem model else fields

@[simp] theorem fieldsThenModel_eq_nil {fields : List FieldError}
    {model : List (List FieldError)} :
    fieldsThenModel fields model = [] ↔ fields = [] ∧ ∀ check ∈ model, check = [] := by
  by_cases passed : fields = [] <;> simp [fieldsThenModel, passed]

end ZeroShield.Models
