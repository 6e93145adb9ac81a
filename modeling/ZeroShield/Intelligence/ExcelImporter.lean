import ZeroShield.Foundation.Decimal
import ZeroShield.Intelligence.Normalisation
import ZeroShield.Intelligence.Tables

/-!
# Importing a workbook

Every row of a sheet with a recognisable identifier is read as a contribution, and the contributions
are merged one after another.  The cells of a row may have any type.
-/

namespace ZeroShield.Intelligence

open Foundation Models StringEnum

/-- The value of a cell. -/
inductive Cell
  | empty
  | text (content : String)
  | bool (value : Bool)
  | int (value : ℤ)
  | float (value : ℚ)
  /-- A number which is not finite, a time or a length of time, as it is written. -/
  | other (written : String)
  deriving DecidableEq

/-- Why a workbook is not imported. -/
inductive ImportError
  | excelImport (message : String)
  | overflowError
  | merge (failure : MergeError)
  deriving DecidableEq

/-- A row which is not imported. -/
structure SkippedRow where
  rowNumber : ℕ
  reason : String
  deriving DecidableEq

structure ImportResult where
  contributions : List NormalisedContribution
  skipped : List SkippedRow

structure ImportSummary where
  fetchedCount : ℕ
  createdCount : ℕ
  updatedCount : ℕ
  unchangedCount : ℕ
  failedCount : ℕ
  skipped : List SkippedRow
  deriving DecidableEq

section Cells

variable (texts : Texts)

/-- A value as a text. -/
def Cell.str : Cell → String
  | empty => "None"
  | text content => content
  | bool value => boolText value
  | int value => toString value
  | float value => texts.number value
  | other written => written

/-- A missing value, zero, false and an empty text count as false. -/
def Cell.truthy : Cell → Bool
  | empty => false
  | text content => content ≠ ""
  | bool value => value
  | int value => value ≠ 0
  | float value => value ≠ 0
  | other _ => true

/-- A value as a number; a whole number may be too large for one with a fraction. -/
def Cell.toFloat : Cell → Except ImportError (Option Number)
  | text content => .ok (Foundation.float content)
  | bool value => .ok (some (.finite (if value then 1 else 0)))
  | int value =>
      if floatBound ≤ value.natAbs then .error .overflowError
      else .ok (some (.finite (nearestDouble value)))
  | float value => .ok (some (.finite value))
  | _ => .ok none

def cleanStr : Cell → Option String
  | .empty => none
  | value =>
      let text := strip (value.str texts)
      if text = "" then none else some text

/-- A number between zero and a bound. -/
def numberUpTo (high : ℚ) : Number → Option ℚ
  | .finite value => if 0 ≤ value ∧ value ≤ high then some value else none
  | _ => none

def parseCvss (value : Cell) : Except ImportError (Option ℚ) := do
  return (← value.toFloat).bind (numberUpTo 10)

/-- A text without percent signs at its end. -/
def stripPercent (text : String) : String :=
  String.ofList (text.toList.reverse.dropWhile (· = '%')).reverse

/-- A number which is larger than one is a percentage. -/
def scaled : Number → Number
  | .finite value => .finite (if 1 < value then nearestDouble (value / 100) else value)
  | other => other

/-- Read a percentage, or a number between zero and one. -/
def parsePercentage : Cell → Except ImportError (Option ℚ)
  | .empty => .ok none
  | .bool value => do return (← (Cell.bool value).toFloat).bind (numberUpTo 1)
  | .int value => do return (← (Cell.int value).toFloat).bind (numberUpTo 1)
  | .float value => do return (← (Cell.float value).toFloat).bind (numberUpTo 1)
  | value =>
      .ok ((float (stripPercent (strip (value.str texts)))).bind fun parsed =>
        numberUpTo 1 (scaled parsed))

def parseBool (value : Cell) : Option Bool :=
  if value = .empty then none
  else
    let text := lower (strip (value.str texts))
    if text ∈ ["yes", "true", "y"] then some true
    else if text ∈ ["no", "false", "n"] then some false
    else none

def zeroClickMap : List (String × ZeroClickRelevance) :=
  [("high", .high), ("medium", .medium), ("low", .low)]

/-- The weakness at the start of a text, as the pattern `CWE-\d+` matches it. -/
def cweAt (text : List Char) : Option (List Char) :=
  match afterPrefix "CWE-".toList text with
  | none => none
  | some rest =>
      let number := rest.takeWhile isDecimalDigit
      if number = [] then none else some ("CWE-".toList ++ number)

end Cells

/-! ## Rows -/

section Rows

variable (texts : Texts) (library : Library) (header : List Cell)

/-- The last column with a name; a name which counts as false names no column. -/
def columnIndex (name : String) : Option ℕ :=
  ((header.zipIdx.filter fun (cell, _) => cell.truthy && strip (cell.str texts) = name).map
    (·.2)).getLast?

/-- The value of a row in a column; a missing one is empty. -/
def col (row : List Cell) (name : String) : Cell :=
  ((columnIndex texts header name).bind (row[·]?)).getD .empty

/-- What a row is read as. -/
inductive RowReading
  | blank
  | skipped (reason : String)
  | contribution (found : NormalisedContribution)

def RowReading.contribution? : RowReading → Option NormalisedContribution
  | contribution found => some found
  | _ => none

def RowReading.reason? : RowReading → Option String
  | skipped stated => some stated
  | _ => none

/-- The contribution of a row with a recognised identifier. -/
def rowContribution (cveId : String) (row : List Cell) :
    Except ImportError NormalisedContribution := do
  let clean name := cleanStr texts (col texts header row name)
  let references := ["Source URL 1", "Source URL 2", "Source URL 3"].filterMap clean
  let cweIds := findAll cweAt 0 ((clean "CWE").getD "").toList
  let zeroClick := (clean "Zero-Click Relevance").bind fun text => zeroClickMap.lookup (lower text)
  let vendor := clean "Vendor"
  let products :=
    match vendor, clean "Product / Component" with
    | some vendor, some product => [(vendor, product, none)]
    | _, _ => []
  let kevListed := parseBool texts (col texts header row "CISA KEV?")
  let cvssScore ← parseCvss (col texts header row "CVSS Score")
  let epssScore ← parsePercentage texts (col texts header row "EPSS Score")
  return {
    cveId
    source := .manualImport
    description := clean "Trust Boundary Affected"
    cvssScore
    epssScore
    kevListed
    cweIds
    vendor
    products
    references
    zeroClickRelevance := zeroClick }

def readRow (row : List Cell) : Except ImportError RowReading :=
  if row.all (· = .empty) then .ok .blank
  else
    let skipped (shown : Json) :=
      .ok (.skipped s!"missing/malformed CVE ID: {library.repr shown}")
    match cleanStr texts (col texts header row "CVE ID") with
    | none => skipped .null
    | some cveId =>
        if matchesCveId cveId then (rowContribution texts header cveId row).map .contribution
        else skipped (.str cveId)

end Rows

/-! ## Workbooks -/

/-- The sheets of a workbook by name, each with its rows. -/
abbrev Workbook :=
  List (String × List (List Cell))

section Import

variable (texts : Texts) (library : Library)

/-- Read the rows after the header, with their numbers in the sheet. -/
def readRows (header : List Cell) (rows : List (List Cell)) : Except ImportError ImportResult := do
  let readings ← rows.mapM (readRow texts library header)
  return {
    contributions := readings.filterMap RowReading.contribution?
    skipped := (readings.zipIdx 2).filterMap fun (reading, rowNumber) =>
      reading.reason?.map fun reason => { rowNumber, reason } }

/-- Read a sheet of the workbook at a path, if there is one. -/
def importWorkbook (path : String) (workbook : Option Workbook) (sheetName : String) :
    Except ImportError ImportResult :=
  match workbook with
  | none => .error (.excelImport s!"workbook not found: {path}")
  | some sheets =>
      match sheets.lookup sheetName with
      | none =>
          let names := library.repr (.arr (sheets.map fun sheet => .str sheet.1))
          .error (.excelImport
            s!"sheet '{sheetName}' not found in {path}; available sheets: {names}")
      | some [] => .error (.excelImport s!"sheet '{sheetName}' is empty")
      | some (header :: rows) =>
          if columnIndex texts header "CVE ID" = none then
            .error (.excelImport
              s!"required column 'CVE ID' not found in sheet '{sheetName}' header")
          else readRows texts library header rows

/-- Count a merge. -/
def ImportSummary.count (summary : ImportSummary) (result : MergeResult) : ImportSummary :=
  if result.isNew then { summary with createdCount := summary.createdCount + 1 }
  else if result.history ≠ [] then { summary with updatedCount := summary.updatedCount + 1 }
  else { summary with unchangedCount := summary.unchangedCount + 1 }

variable (clock : ℕ → DateTime)

/-- Merge contributions one after another, each when the clock says so; the tables are left as they
are when a merge fails. -/
def mergeRows : ℕ → Tables → ImportSummary → List NormalisedContribution →
    Except ImportError ImportSummary × Tables
  | _, tables, summary, [] => (.ok summary, tables)
  | merges, tables, summary, contribution :: contributions =>
      match tables.mergeContribution texts contribution (clock merges) with
      | .error failure => (.error (.merge failure), tables)
      | .ok (result, tables) =>
          mergeRows (merges + 1) tables (summary.count result) contributions

/-- Read a workbook and merge its rows. -/
def importAndMerge (path : String) (workbook : Option Workbook) (sheetName : String)
    (tables : Tables) : Except ImportError ImportSummary × Tables :=
  match importWorkbook texts library path workbook sheetName with
  | .error failure => (.error failure, tables)
  | .ok result =>
      mergeRows texts clock 0 tables
        { fetchedCount := result.contributions.length
          createdCount := 0
          updatedCount := 0
          unchangedCount := 0
          failedCount := result.skipped.length
          skipped := result.skipped }
        result.contributions

end Import

end ZeroShield.Intelligence
