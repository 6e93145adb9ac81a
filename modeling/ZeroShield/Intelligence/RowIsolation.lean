import ZeroShield.Intelligence.ExcelImporter

/-!
# Rows of a workbook on their own

What would be imported if no row could prevent another one from being imported, and when the tables
are left with that.
-/

namespace ZeroShield.Intelligence

open Foundation Models

/-- The tables after some rows, and how many rows were merged and how many failed. -/
structure Imported where
  tables : Tables
  merged : ℕ := 0
  failed : ℕ := 0

section Alone

variable (texts : Texts) (library : Library) (clock : ℕ → DateTime) (header : List Cell)

/-- Import a row as a synchronisation does a record: it is merged, or is counted as failed and
leaves the tables as they are. -/
def importAlone (state : Imported) : Except ImportError RowReading → Imported
  | .ok .blank => state
  | .ok (.skipped _) => { state with failed := state.failed + 1 }
  | .error _ => { state with failed := state.failed + 1 }
  | .ok (.contribution contribution) =>
      match state.tables.mergeContribution texts contribution (clock state.merged) with
      | .ok (_, tables) => { state with tables, merged := state.merged + 1 }
      | .error _ => { state with failed := state.failed + 1 }

/-- Import every row on its own, in the order of the rows. -/
def importedAlone (tables : Tables) (rows : List (List Cell)) : Imported :=
  (rows.map (readRow texts library header)).foldl (importAlone texts clock) { tables }

/-- The import of a sheet returns a summary, and leaves and counts what the rows do on their own. -/
def Isolates (path sheetName : String) (workbook : Workbook) (tables : Tables)
    (rows : List (List Cell)) : Prop :=
  let alone := importedAlone texts library clock header tables rows
  ∃ summary, importAndMerge texts library clock path (some workbook) sheetName tables =
      (.ok summary, alone.tables) ∧
    summary.failedCount = alone.failed ∧
    summary.createdCount + summary.updatedCount + summary.unchangedCount = alone.merged

end Alone

/-! ## Reading a row -/

section Reading

variable {texts : Texts} {library : Library} {header row : List Cell} {cveId : String}

end Reading

/-! ## Merging the rows -/

section Merging

variable {texts : Texts} {clock : ℕ → DateTime} {tables after : Tables}
  {contribution : NormalisedContribution} {now : DateTime} {result : MergeResult}

end Merging

/-! ## Importing a sheet -/

section Sheet

variable {texts : Texts} {library : Library} {clock : ℕ → DateTime} {header : List Cell}
  {rows : List (List Cell)} {tables : Tables}

section Readings

variable {readings : List RowReading}

end Readings

end Sheet

namespace WorkbookSample

def texts : Texts where
  parseUrl text := if text = "https://example.com/a" then some ⟨text⟩ else none
  number _ := ""

theorem readsBack : texts.ReadsBack := by
  intro text url read
  simp only [texts] at read ⊢
  split at read
  next valid =>
    cases read
    exact if_pos valid
  next => cases read

def library : Library where
  repr _ := "None"
  datetimeFromisoformat _ := none
  dateFromisoformat _ := none

def header : List Cell :=
  [.text "CVE ID", .text "Source URL 1"]

/-- Two rows, of which the first one has a given address. -/
def rows (url : String) : List (List Cell) :=
  [[.text "CVE-2024-00001", .text url], [.text "CVE-2024-00002", .text "https://example.com/a"]]

end WorkbookSample

section Sample

open WorkbookSample

end Sample

end ZeroShield.Intelligence
