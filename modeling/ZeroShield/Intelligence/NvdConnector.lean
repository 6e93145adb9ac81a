import Mathlib.Tactic.Linarith
import ZeroShield.Foundation.Pagination
import ZeroShield.Intelligence.Normalisation

/-!
# The connector of the vulnerability database

The records which were modified in a window of time are fetched page by page.
-/

namespace ZeroShield.Intelligence

open Foundation Models

/-- Why a fetch fails. -/
inductive FetchFailure
  | connectorFetch (message : String)
  | typeError

/-- How a fetch ends: after the last page, after the last page which is allowed, or with a
failure. -/
inductive FetchEnding
  | complete
  | capped
  | failed (failure : FetchFailure)

/-- The parameters of a request for a page; a date has whole seconds. -/
structure PageParams where
  resultsPerPage : ℕ
  lastModStartDate : Option DateTime
  lastModEndDate : Option DateTime
  startIndex : ℕ

/-- One hundred and twenty days, in microseconds. -/
def maxDateWindow : ℤ := 120 * 24 * 60 * 60 * 1000000

def resultsPerPage : ℕ := 2000

/-- What remains of a time which is written with whole seconds. -/
def wholeSecond (time : DateTime) : DateTime :=
  let microseconds : ℤ := time
  microseconds - microseconds % 1000000

/-- The earlier of two times. -/
def earlier (first second : DateTime) : DateTime :=
  if second < first then second else first

section Fetch

variable (library : Library) (serve : ℕ → PageParams → Except FetchFailure Json)

/-- The record of an entry; an entry of another shape is passed over. -/
def nvdRecord (entry : Json) : Option RawIntelligenceRecord :=
  (entry.fields?.bind fun fields => (Json.get fields "cve").fields?).map fun cve =>
    { source := .nvd
      externalId := library.str ((cve.lookup "id").getD (.str ""))
      raw := cve }

/-- Whether an index is not smaller than a number. -/
def reaches (index : ℕ) : Json → Except FetchFailure Bool
  | .int value => .ok (value ≤ index)
  | .float value => .ok (value ≤ index)
  | .bool value => .ok ((if value then 1 else 0) ≤ index)
  | _ => .error .typeError

/-- Fetch at most a number of pages from an index on; the answer to a request may depend on how many
were sent before. -/
def fetchPages (params : PageParams) : ℕ → ℕ → ℕ → List RawIntelligenceRecord × FetchEnding
  | 0, _, _ => ([], .capped)
  | pages + 1, page, startIndex =>
      match serve page { params with startIndex } with
      | .error failure => ([], .failed failure)
      | .ok body =>
          let fields := body.fields?.getD []
          match fields.lookup "vulnerabilities" with
          | none =>
              ([], .failed (.connectorFetch
                ("NVD response missing expected 'vulnerabilities' key - " ++
                  "upstream schema may have changed")))
          | some (.arr items) =>
              let records := items.filterMap (nvdRecord library)
              let startIndex := startIndex + items.length
              if items.isEmpty then (records, .complete)
              else
                match reaches startIndex ((fields.lookup "totalResults").getD (.int 0)) with
                | .error failure => (records, .failed failure)
                | .ok true => (records, .complete)
                | .ok false =>
                    let (later, ending) := fetchPages params pages (page + 1) startIndex
                    (records ++ later, ending)
          | some _ => ([], .failed (.connectorFetch "NVD 'vulnerabilities' field was not a list"))

/-- Fetch all records, or those which were modified since a time. -/
def fetch (maxPages : ℕ) (since : Option DateTime) (now : DateTime) :
    List RawIntelligenceRecord × FetchEnding :=
  let params : PageParams :=
    { resultsPerPage
      lastModStartDate := since.map wholeSecond
      lastModEndDate := since.map fun since => wholeSecond (earlier (since + maxDateWindow) now)
      startIndex := 0 }
  fetchPages library serve params maxPages 0 0

end Fetch

/-! ## What is served -/

/-- The records of the database in the order in which they are served, and when each was
modified. -/
structure Upstream where
  cves : List (List (String × Json))
  lastModified : List (String × Json) → DateTime

namespace Upstream

variable (upstream : Upstream)

/-- The records which were modified in a window. -/
def window (start finish : DateTime) : List (List (String × Json)) :=
  upstream.cves.filter fun cve =>
    start ≤ upstream.lastModified cve ∧ upstream.lastModified cve ≤ finish

/-- Every answer to a request with a window is the next page of the window and its size. -/
def Serves (serve : ℕ → PageParams → Except FetchFailure Json) : Prop :=
  ∀ page params start finish body, params.lastModStartDate = some start →
    params.lastModEndDate = some finish → serve page params = .ok body →
      ∃ fields served, body = .obj fields ∧
        IsPage (upstream.window start finish) params.startIndex served ∧
        fields.lookup "vulnerabilities" =
          some (.arr (served.map fun cve => .obj [("cve", .obj cve)])) ∧
        fields.lookup "totalResults" = some (.int (upstream.window start finish).length)

end Upstream

section Complete

variable {library : Library} {serve : ℕ → PageParams → Except FetchFailure Json}
  {upstream : Upstream} {records : List RawIntelligenceRecord}

/-- The record which is yielded for an entry of the database. -/
def yielded (library : Library) (cve : List (String × Json)) : RawIntelligenceRecord where
  source := .nvd
  externalId := library.str ((cve.lookup "id").getD (.str ""))
  raw := cve

theorem filterMap_nvdRecord (served : List (List (String × Json))) :
    (served.map fun cve => Json.obj [("cve", .obj cve)]).filterMap (nvdRecord library) =
      served.map (yielded library) := by
  rw [List.filterMap_map, ← List.filterMap_eq_map]
  rfl

/-- A fetch which ends after the last page yields the records of the window from its index on. -/
theorem fetchPages_complete (serves : upstream.Serves serve) {params : PageParams}
    {start finish : DateTime} (isStart : params.lastModStartDate = some start)
    (isFinish : params.lastModEndDate = some finish) {pages page startIndex : ℕ}
    (ended : fetchPages library serve params pages page startIndex = (records, .complete)) :
    records = ((upstream.window start finish).drop startIndex).map (yielded library) := by
  induction pages generalizing page startIndex records with
  | zero => cases ended
  | succ pages ih =>
      rw [fetchPages] at ended
      cases answered : serve page { params with startIndex } with
      | error failure =>
          rw [answered] at ended
          cases ended
      | ok body =>
          obtain ⟨fields, served, rfl, isPage, listed, total⟩ :=
            serves page { params with startIndex } start finish body isStart isFinish answered
          rw [answered] at ended
          simp only [Json.fields?, Option.getD_some, listed, total, filterMap_nvdRecord, reaches,
            List.length_map, List.isEmpty_map] at ended
          cases served with
          | nil =>
              cases ended
              rw [isPage.drop_eq_nil]
          | cons cve served =>
              simp only [List.isEmpty_cons, Bool.false_eq_true, if_false, Nat.cast_le] at ended
              cases last : decide ((upstream.window start finish).length ≤
                  startIndex + (cve :: served).length) with
              | true =>
                  rw [last] at ended
                  cases ended
                  rw [isPage.eq_drop (of_decide_eq_true last)]
              | false =>
                  rw [last] at ended
                  cases fetched : fetchPages library serve params pages (page + 1)
                      (startIndex + (cve :: served).length) with
                  | mk later ending =>
                      rw [fetched] at ended
                      cases ended
                      rw [ih fetched, ← List.map_append, isPage.append_drop]

/-- A complete fetch yields exactly the records of its window. -/
theorem fetch_complete (serves : upstream.Serves serve) {maxPages : ℕ} {since now : DateTime}
    (ended : fetch library serve maxPages (some since) now = (records, .complete)) :
    records = (upstream.window (wholeSecond since)
      (wholeSecond (earlier (since + maxDateWindow) now))).map (yielded library) :=
  fetchPages_complete serves rfl rfl ended

theorem wholeSecond_le (time : DateTime) : wholeSecond time ≤ time := by
  have nonneg : 0 ≤ (time : ℤ) % 1000000 := Int.emod_nonneg _ (by decide)
  unfold wholeSecond
  linarith

/-- A complete fetch yields all records of the time since the last one exactly when none was
modified after the end of the window. -/
theorem fetch_all_iff (serves : upstream.Serves serve) {maxPages : ℕ} {since now : DateTime}
    (ended : fetch library serve maxPages (some since) now = (records, .complete)) :
    (∀ cve ∈ upstream.cves, since ≤ upstream.lastModified cve → upstream.lastModified cve ≤ now →
        yielded library cve ∈ records) ↔
      ∀ cve ∈ upstream.cves, since ≤ upstream.lastModified cve → upstream.lastModified cve ≤ now →
        upstream.lastModified cve ≤ wholeSecond (earlier (since + maxDateWindow) now) := by
  rw [fetch_complete serves ended]
  refine forall₄_congr fun cve member isAfter isBefore => ?_
  constructor
  · intro fetched
    obtain ⟨other, inWindow, same⟩ := List.mem_map.mp fetched
    obtain rfl : other = cve := congrArg RawIntelligenceRecord.raw same
    exact (of_decide_eq_true (List.mem_filter.mp inWindow).2).2
  · intro within
    refine List.mem_map_of_mem (List.mem_filter.mpr ⟨member, decide_eq_true ⟨?_, within⟩⟩)
    exact le_trans (wholeSecond_le since) isAfter

end Complete

namespace NvdSample

def library : Library where
  repr _ := "None"
  datetimeFromisoformat _ := none
  dateFromisoformat _ := none

def cve : List (String × Json) :=
  [("id", .str "CVE-2024-00001")]

/-- A database with one record. -/
def upstream (modified : DateTime) : Upstream where
  cves := [cve]
  lastModified _ := modified

/-- A server with pages of the requested size. -/
def serve (upstream : Upstream) (_ : ℕ) (params : PageParams) : Except FetchFailure Json :=
  let window := upstream.window (params.lastModStartDate.getD 0) (params.lastModEndDate.getD 0)
  .ok (.obj
    [("vulnerabilities", .arr (((window.drop params.startIndex).take 2000).map fun cve =>
        .obj [("cve", .obj cve)])),
      ("totalResults", .int window.length)])

theorem serves (upstream : Upstream) : upstream.Serves (serve upstream) := by
  rintro page params start finish body isStart isFinish answered
  simp only [serve, isStart, isFinish, Option.getD_some, Except.ok.injEq] at answered
  exact ⟨_, _, answered.symm, ⟨2000, by decide, rfl⟩, rfl, rfl⟩

/-- The hour after one hundred and twenty days. -/
def late : DateTime := maxDateWindow + 3600000000

end NvdSample

theorem fetch_all_iff_of_sample :
    ∃ records, fetch NvdSample.library (NvdSample.serve (NvdSample.upstream 1000000)) 5 (some 0)
        2000000 = (records, .complete) ∧
      ((∀ cve ∈ (NvdSample.upstream 1000000).cves,
          (0 : DateTime) ≤ (NvdSample.upstream 1000000).lastModified cve →
          (NvdSample.upstream 1000000).lastModified cve ≤ (2000000 : DateTime) →
            yielded NvdSample.library cve ∈ records) ↔
        ∀ cve ∈ (NvdSample.upstream 1000000).cves,
          (0 : DateTime) ≤ (NvdSample.upstream 1000000).lastModified cve →
          (NvdSample.upstream 1000000).lastModified cve ≤ (2000000 : DateTime) →
            (NvdSample.upstream 1000000).lastModified cve ≤
              wholeSecond (earlier ((0 : DateTime) + maxDateWindow) 2000000)) := by
  obtain ⟨records, ended⟩ : ∃ records, fetch NvdSample.library
      (NvdSample.serve (NvdSample.upstream 1000000)) 5 (some 0) 2000000 =
        (records, .complete) := ⟨_, rfl⟩
  exact ⟨records, ended, fetch_all_iff (NvdSample.serves _) ended⟩

/-- A record which was modified more than one hundred and twenty days after the last fetch is not
fetched. -/
theorem not_fetched_of_late :
    ∃ records, fetch NvdSample.library (NvdSample.serve (NvdSample.upstream NvdSample.late)) 5
        (some 0) (NvdSample.late + 1) = (records, .complete) ∧
      (NvdSample.upstream NvdSample.late).Serves
        (NvdSample.serve (NvdSample.upstream NvdSample.late)) ∧
      ¬∀ cve ∈ (NvdSample.upstream NvdSample.late).cves,
        (0 : DateTime) ≤ (NvdSample.upstream NvdSample.late).lastModified cve →
        (NvdSample.upstream NvdSample.late).lastModified cve ≤ NvdSample.late + 1 →
          yielded NvdSample.library cve ∈ records := by
  refine ⟨[], rfl, NvdSample.serves _, ?_⟩
  intro all
  exact List.not_mem_nil (all NvdSample.cve List.mem_cons_self (by decide) (by decide))

end ZeroShield.Intelligence
