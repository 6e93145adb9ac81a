import ZeroShield.Foundation.Program
import ZeroShield.Intelligence.NvdConnector

/-!
# Fetching page by page

Two connectors ask for page after page, hand over the records of each page and stop behind the last
item.  The index of the next page is the number of items which were received.
-/

namespace ZeroShield.Intelligence

open Foundation Models

/-- What a connector does: ask for a page, hand over a record or wait for a number of seconds. -/
inductive PagingOp (Params : Type)
  | fetchJson (params : Params)
  | emit (record : RawIntelligenceRecord)
  | sleep (seconds : ℚ)

/-- A request for a page is answered with a body or fails. -/
@[reducible]
def PagingOp.Result {Params : Type} : PagingOp Params → Type
  | fetchJson _ => Except FetchFailure Json
  | emit _ => Unit
  | sleep _ => Unit

/-- The operations of a connector as an interface. -/
abbrev paging (Params : Type) : Interface where
  Op := PagingOp Params
  Result := PagingOp.Result

/-- What the connectors differ in. -/
structure Connector (Params : Type) where
  /-- The parameters of the request for the page at an index. -/
  params : ℕ → Params
  /-- The fields and the items of an answer. -/
  items : Json → Except FetchFailure (List (String × Json) × List Json)
  /-- The record of an entry; an entry of another shape is passed over. -/
  record : Json → Option RawIntelligenceRecord
  /-- The field which holds the number of all items. -/
  totalKey : String
  /-- The pause behind a page which is not the last one. -/
  pause : ℕ → Option ℚ

namespace Connector

variable {Params : Type} (connector : Connector Params)

/-- Hand over the records of the entries of a page. -/
def emitAll : List Json → Program (paging Params) Unit
  | [] => return ()
  | entry :: entries =>
      match connector.record entry with
      | none => emitAll entries
      | some record => do
          let _ : Unit ← Program.call (I := paging Params) (.emit record)
          emitAll entries

/-- Wait behind a page. -/
def wait (page : ℕ) : Program (paging Params) Unit :=
  match connector.pause page with
  | none => return ()
  | some seconds => Program.call (I := paging Params) (.sleep seconds)

/-- Fetch at most a number of pages from an index on. -/
def fetchFrom : (left page offset : ℕ) → Program (paging Params) FetchEnding
  | 0, _, _ => return .capped
  | left + 1, page, offset => do
      let answer : Except FetchFailure Json ←
        Program.call (I := paging Params) (.fetchJson (connector.params offset))
      match answer.bind connector.items with
      | .error failure => return .failed failure
      | .ok (fields, items) => do
          connector.emitAll items
          let offset := offset + items.length
          if items.isEmpty then
            return .complete
          match reaches offset ((fields.lookup connector.totalKey).getD (.int 0)) with
          | .error failure => return .failed failure
          | .ok true => return .complete
          | .ok false => do
              connector.wait page
              fetchFrom left (page + 1) offset

end Connector

/-! ## The vulnerability database -/

/-- The entries of an answer of the database. -/
def nvdItems (body : Json) : Except FetchFailure (List (String × Json) × List Json) :=
  let fields := body.fields?.getD []
  match fields.lookup "vulnerabilities" with
  | none =>
      .error (.connectorFetch ("NVD response missing expected 'vulnerabilities' key - " ++
        "upstream schema may have changed"))
  | some (.arr items) => .ok (fields, items)
  | some _ => .error (.connectorFetch "NVD 'vulnerabilities' field was not a list")

/-- The connector of the vulnerability database. -/
def nvdConnector (library : Library) (maxPages : ℕ) (sleepBetweenPages : ℚ) (params : PageParams) :
    Connector PageParams where
  params startIndex := { params with startIndex }
  items := nvdItems
  record := nvdRecord library
  totalKey := "totalResults"
  pause page := if page < maxPages - 1 ∧ 0 < sleepBetweenPages then some sleepBetweenPages else none

/-- Fetch all records, or those which were modified since a time. -/
def nvdFetch (library : Library) (maxPages : ℕ) (sleepBetweenPages : ℚ) (since : Option DateTime)
    (now : DateTime) : Program (paging PageParams) FetchEnding :=
  let params : PageParams :=
    { resultsPerPage
      lastModStartDate := since.map wholeSecond
      lastModEndDate := since.map fun since => wholeSecond (earlier (since + maxDateWindow) now)
      startIndex := 0 }
  (nvdConnector library maxPages sleepBetweenPages params).fetchFrom maxPages 0 0

/-! ## The exploit prediction scores -/

/-- The parameters of a request for a page of scores. -/
structure ScoreParams where
  limit : ℕ
  date : Option Date
  offset : ℕ

def pageLimit : ℕ := 1000

/-- The entries of an answer with scores. -/
def epssItems (body : Json) : Except FetchFailure (List (String × Json) × List Json) :=
  let fields := body.fields?.getD []
  match fields.lookup "data" with
  | some (.arr items) => .ok (fields, items)
  | _ =>
      .error (.connectorFetch
        "EPSS response missing expected 'data' list - upstream schema may have changed")

/-- The record of an entry with a score. -/
def epssRecord (library : Library) (entry : Json) : Option RawIntelligenceRecord :=
  entry.fields?.map fun fields =>
    { source := .epss
      externalId := library.str ((fields.lookup "cve").getD (.str ""))
      raw := fields }

/-- The connector of the scores, which does not pause. -/
def epssConnector (library : Library) (date : Option Date) : Connector ScoreParams where
  params offset := { limit := pageLimit, date, offset }
  items := epssItems
  record := epssRecord library
  totalKey := "total"
  pause _ := none

/-- Fetch the current scores, or those of a day. -/
def epssFetch (library : Library) (maxPages : ℕ) (since : Option Moment) :
    Program (paging ScoreParams) FetchEnding :=
  (epssConnector library (since.map Moment.date)).fetchFrom maxPages 0 0

/-! ## Runs -/

/-- The requests which were sent and the records which were handed over. -/
structure Exchange (Params : Type) where
  requests : List Params := []
  records : List RawIntelligenceRecord := []

/-- A server whose answer may depend on how many requests were sent before. -/
def serving {Params : Type} (serve : ℕ → Params → Except FetchFailure Json) :
    Semantics (paging Params) Unit (Exchange Params)
  | _, .fetchJson params, exchange =>
      (serve exchange.requests.length params,
        { exchange with requests := exchange.requests ++ [params] })
  | _, .emit record, exchange => ((), { exchange with records := exchange.records ++ [record] })
  | _, .sleep _, exchange => ((), exchange)

/-- The answer with the items from an index on, of which there are at most a number in a page, and
with the number of all of them; it may have more fields. -/
def pageBody (itemsKey totalKey : String) (items : List Json) (cap : ℕ)
    (others : List (String × Json)) (start : ℕ) : Json :=
  .obj ((itemsKey, .arr ((items.drop start).take cap)) :: (totalKey, .int items.length) :: others)

namespace Connector

variable {Params : Type} {connector : Connector Params}
  {serve : ℕ → Params → Except FetchFailure Json}

variable (serve) in
/-- The records of a page are handed over in their order. -/
theorem run_emitAll (entries : List Json) (position : ℕ) (exchange : Exchange Params) :
    ∃ position', Program.run (serving serve) (fun _ => ()) (connector.emitAll entries) position
        exchange =
      ((), position',
        { exchange with records := exchange.records ++ entries.filterMap connector.record }) := by
  induction entries generalizing position exchange with
  | nil =>
      refine ⟨position, ?_⟩
      rw [List.filterMap_nil, List.append_nil]
      rfl
  | cons entry entries ih =>
      rw [emitAll]
      cases found : connector.record entry with
      | none =>
          rw [List.filterMap_cons_none found]
          exact ih position exchange
      | some record =>
          rw [List.filterMap_cons_some found]
          obtain ⟨position', ran⟩ := ih (position + 1)
            { exchange with records := exchange.records ++ [record] }
          refine ⟨position', ?_⟩
          rw [Program.run_call_bind]
          refine Eq.trans ran ?_
          rw [List.append_assoc]
          rfl

variable (serve) in
/-- A pause changes nothing. -/
theorem run_wait (page position : ℕ) (exchange : Exchange Params) :
    ∃ position', Program.run (serving serve) (fun _ => ()) (connector.wait page) position exchange =
      ((), position', exchange) := by
  rw [wait]
  cases connector.pause page with
  | none => exact ⟨position, rfl⟩
  | some seconds => exact ⟨position + 1, rfl⟩

section Exact

variable {items : List Json} {cap : ℕ} {fields : ℕ → List (String × Json)}

variable (connector serve items cap fields) in
/-- Every answer holds the next items, of which there are at most a number, and the number of
all. -/
structure Answers : Prop where
  page : ∀ sent offset, (serve sent (connector.params offset)).bind connector.items =
    .ok (fields offset, (items.drop offset).take cap)
  total : ∀ offset, (fields offset).lookup connector.totalKey = some (.int items.length)

variable (answers : connector.Answers serve items cap fields) (positive : 0 < cap)
  (left page offset position : ℕ) (exchange : Exchange Params)

include answers

/-- The page with the last item ends the fetch. -/
theorem run_of_last_page (last : items.length ≤ offset + cap) :
    ∃ position', Program.run (serving serve) (fun _ => ())
      (connector.fetchFrom (left + 1) page offset)
        position exchange =
      (.complete, position',
        { requests := exchange.requests ++ [connector.params offset]
          records := exchange.records ++
            ((items.drop offset).take cap).filterMap connector.record }) := by
  obtain ⟨position', ran⟩ := connector.run_emitAll serve ((items.drop offset).take cap)
    (position + 1) { exchange with requests := exchange.requests ++ [connector.params offset] }
  refine ⟨position', ?_⟩
  rw [fetchFrom, Program.run_call_bind]
  dsimp only [serving]
  rw [answers.page]
  dsimp only
  rw [Program.run_bind, ran]
  cases empty : ((items.drop offset).take cap).isEmpty with
  | true => rfl
  | false =>
      have nonempty : (items.drop offset).take cap ≠ [] := List.isEmpty_eq_false_iff.mp empty
      have reached : (items.length : ℤ) ≤ (offset + ((items.drop offset).take cap).length : ℕ) := by
        rw [List.length_take, List.length_drop]
        have some_left := List.length_pos_iff.mpr nonempty
        rw [List.length_take, List.length_drop] at some_left
        omega
      simp only [Bool.false_eq_true, if_false, answers.total, Option.getD_some, reaches,
        decide_eq_true reached]
      rfl

include positive

/-- Behind another page the fetch goes on at the end of the page. -/
theorem run_of_full_page (more : offset + cap < items.length) :
    ∃ position', Program.run (serving serve) (fun _ => ())
      (connector.fetchFrom (left + 1) page offset)
        position exchange =
      Program.run (serving serve) (fun _ => ()) (connector.fetchFrom left (page + 1) (offset + cap))
        position'
        { requests := exchange.requests ++ [connector.params offset]
          records := exchange.records ++
            ((items.drop offset).take cap).filterMap connector.record } := by
  have full : ((items.drop offset).take cap).length = cap := by
    rw [List.length_take, List.length_drop]
    omega
  have nonempty : ((items.drop offset).take cap).isEmpty = false := by
    rw [List.isEmpty_eq_false_iff, ← List.length_pos_iff, full]
    exact positive
  have before : ¬ (items.length : ℤ) ≤ (offset + cap : ℕ) := by omega
  obtain ⟨position', ran⟩ := connector.run_emitAll serve ((items.drop offset).take cap)
    (position + 1) { exchange with requests := exchange.requests ++ [connector.params offset] }
  obtain ⟨position'', waited⟩ := connector.run_wait serve page position'
    { requests := exchange.requests ++ [connector.params offset]
      records := exchange.records ++ ((items.drop offset).take cap).filterMap connector.record }
  refine ⟨position'', ?_⟩
  rw [fetchFrom, Program.run_call_bind]
  dsimp only [serving]
  rw [answers.page]
  dsimp only
  rw [Program.run_bind, ran]
  simp only [nonempty, Bool.false_eq_true, if_false, answers.total, Option.getD_some, reaches, full,
    decide_eq_false before]
  refine Eq.trans (Program.run_bind _ _ _ _ _ _) ?_
  rw [waited]

/-- A fetch with a number of pages left asks for the pages from an index on, as long as there are
items, and hands over the records of what they hold. -/
theorem run_fetchFrom :
    ∃ position', Program.run (serving serve) (fun _ => ()) (connector.fetchFrom left page offset)
        position exchange =
      (if pageCount cap (items.length - offset) ≤ left then .complete else .capped, position',
        { requests := exchange.requests ++
            (List.range (min left (pageCount cap (items.length - offset)))).map fun index =>
              connector.params (offset + index * cap)
          records := exchange.records ++
            ((items.drop offset).take (left * cap)).filterMap connector.record }) := by
  induction left generalizing page offset position exchange with
  | zero =>
      refine ⟨position, ?_⟩
      have some_page : ¬ pageCount cap (items.length - offset) ≤ 0 := by
        rw [pageCount]
        omega
      rw [if_neg some_page, Nat.zero_min, Nat.zero_mul, List.take_zero]
      simp only [List.range_zero, List.map_nil, List.filterMap_nil, List.append_nil]
      rfl
  | succ left ih =>
      rcases Nat.lt_or_ge (offset + cap) items.length with more | last
      · obtain ⟨position', ran⟩ :=
          run_of_full_page answers positive left page offset position exchange more
        obtain ⟨position'', continued⟩ := ih (page + 1) (offset + cap) position'
          { requests := exchange.requests ++ [connector.params offset]
            records := exchange.records ++
              ((items.drop offset).take cap).filterMap connector.record }
        refine ⟨position'', ?_⟩
        have count : pageCount cap (items.length - offset) =
            pageCount cap (items.length - (offset + cap)) + 1 := by
          rw [pageCount_of_lt positive (Nat.lt_sub_of_add_lt (Nat.add_comm offset cap ▸ more)),
            Nat.sub_sub]
        have index_succ (index : ℕ) : offset + (index + 1) * cap = offset + cap + index * cap := by
          ring
        rw [ran, continued, count, ← take_append_take_drop, List.filterMap_append,
          Nat.add_min_add_right, List.range_succ_eq_map, List.map_cons, List.map_map]
        simp only [Function.comp_def, Nat.succ_eq_add_one, index_succ, Nat.add_le_add_iff_right,
          Nat.zero_mul, Nat.add_zero, List.append_assoc, List.singleton_append]
      · obtain ⟨position', ran⟩ := run_of_last_page answers left page offset position exchange last
        refine ⟨position', ?_⟩
        have short : items.length - offset ≤ cap := Nat.sub_le_iff_le_add'.mpr last
        have whole : (items.drop offset).length ≤ cap := List.length_drop ▸ short
        have wider : cap ≤ (left + 1) * cap := Nat.le_mul_of_pos_left cap left.succ_pos
        rw [ran, pageCount_of_le positive short, if_pos (Nat.le_add_left 1 left),
          Nat.min_eq_right (Nat.le_add_left 1 left), List.take_of_length_le whole,
          List.take_of_length_le (whole.trans wider)]
        simp only [List.range_one, List.map_cons, List.map_nil, Nat.zero_mul, Nat.add_zero]

end Exact

end Connector

/-- The run of the program hands over the records of the fetch as a function and ends like it. -/
theorem run_nvdConnector (library : Library) (serve : ℕ → PageParams → Except FetchFailure Json)
    (maxPages : ℕ) (sleepBetweenPages : ℚ) (params : PageParams) (left page offset position : ℕ)
    (exchange : Exchange PageParams) (sent : exchange.requests.length = page) :
    ∃ position' requests,
      Program.run (serving serve) (fun _ => ())
          ((nvdConnector library maxPages sleepBetweenPages params).fetchFrom left page offset)
          position exchange =
        ((fetchPages library serve params left page offset).2, position',
          { requests
            records := exchange.records ++
              (fetchPages library serve params left page offset).1 }) := by
  induction left generalizing page offset position exchange with
  | zero =>
      rw [fetchPages, List.append_nil]
      exact ⟨position, exchange.requests, rfl⟩
  | succ left ih =>
      subst sent
      rw [Connector.fetchFrom, Program.run_call_bind, fetchPages]
      dsimp only [serving, nvdConnector]
      cases answered : serve exchange.requests.length { params with startIndex := offset } with
      | error failure =>
          rw [List.append_nil]
          exact ⟨_, _, rfl⟩
      | ok body =>
          dsimp only [Except.bind, nvdItems]
          cases listed : (body.fields?.getD []).lookup "vulnerabilities" with
          | none =>
              rw [List.append_nil]
              exact ⟨_, _, rfl⟩
          | some value =>
              cases value with
              | arr items =>
                  obtain ⟨position', emitted⟩ :=
                    (nvdConnector library maxPages sleepBetweenPages params).run_emitAll serve items
                      (position + 1)
                      { exchange with
                        requests := exchange.requests ++ [{ params with startIndex := offset }] }
                  dsimp only
                  rw [Program.run_bind]
                  simp only [nvdConnector] at emitted
                  rw [emitted]
                  cases empty : items.isEmpty with
                  | true => exact ⟨_, _, rfl⟩
                  | false =>
                      cases reached : reaches (offset + items.length)
                          (((body.fields?.getD []).lookup "totalResults").getD (.int 0)) with
                      | error failure =>
                          simp only [Bool.false_eq_true, if_false]
                          exact ⟨_, _, rfl⟩
                      | ok last =>
                          cases last with
                          | true =>
                              simp only [Bool.false_eq_true, if_false]
                              exact ⟨_, _, rfl⟩
                          | false =>
                              obtain ⟨position'', waited⟩ :=
                                (nvdConnector library maxPages sleepBetweenPages
                                  params).run_wait serve
                                  exchange.requests.length position'
                                  { requests :=
                                      exchange.requests ++ [{ params with startIndex := offset }]
                                    records :=
                                      exchange.records ++ items.filterMap (nvdRecord library) }
                              obtain ⟨last, requests, continued⟩ :=
                                ih (exchange.requests.length + 1)
                                (offset + items.length) position''
                                { requests :=
                                    exchange.requests ++ [{ params with startIndex := offset }]
                                  records :=
                                    exchange.records ++ items.filterMap (nvdRecord library) }
                                (List.length_append ..)
                              refine ⟨last, requests, ?_⟩
                              simp only [Bool.false_eq_true, if_false]
                              refine Eq.trans (Program.run_bind _ _ _ _ _ _) ?_
                              simp only [nvdConnector] at waited continued
                              rw [waited]
                              refine Eq.trans continued ?_
                              rw [List.append_assoc]
              | _ =>
                  rw [List.append_nil]
                  exact ⟨_, _, rfl⟩

/-- The answers of the database. -/
theorem nvd_answers (library : Library) (maxPages : ℕ) (sleepBetweenPages : ℚ) (params : PageParams)
    (items : List Json) (cap : ℕ) (others : ℕ → List (String × Json)) :
    (nvdConnector library maxPages sleepBetweenPages params).Answers
      (fun _ params => .ok (pageBody "vulnerabilities" "totalResults" items cap
        (others params.startIndex) params.startIndex)) items cap
      fun start => ("vulnerabilities", .arr ((items.drop start).take cap)) ::
        ("totalResults", .int items.length) :: others start where
  page _ _ := rfl
  total _ := rfl

/-- The answers of the server of scores. -/
theorem epss_answers (library : Library) (date : Option Date) (items : List Json) (cap : ℕ)
    (others : ℕ → List (String × Json)) :
    (epssConnector library date).Answers
      (fun _ params => .ok (pageBody "data" "total" items cap (others params.offset) params.offset))
      items cap
      fun start => ("data", .arr ((items.drop start).take cap)) ::
        ("total", .int items.length) :: others start where
  page _ _ := rfl
  total _ := rfl

/-- Both connectors hand over exactly the records of the items of the pages which they may fetch, in
their order, and ask only for the first page and for pages which start at an item. -/
theorem pagination_exact (library : Library) (maxPages cap : ℕ) (positive : 0 < cap)
    (items : List Json) (others : ℕ → List (String × Json)) :
    let pages := min maxPages (pageCount cap items.length)
    (∀ page, page + 1 < pages → (page + 1) * cap < items.length) ∧
    (∀ sleepBetweenPages since now, ∃ position,
      Program.run
          (serving fun _ (params : PageParams) => .ok
            (pageBody "vulnerabilities" "totalResults" items
            cap (others params.startIndex) params.startIndex))
          (fun _ => ()) (nvdFetch library maxPages sleepBetweenPages since now) 0 {} =
        (if pageCount cap items.length ≤ maxPages then .complete else .capped, position,
          { requests := (List.range pages).map fun page =>
              { resultsPerPage
                lastModStartDate := since.map wholeSecond
                lastModEndDate := since.map fun since =>
                  wholeSecond (earlier (since + maxDateWindow) now)
                startIndex := page * cap }
            records := (items.take (maxPages * cap)).filterMap (nvdRecord library) })) ∧
    ∀ since, ∃ position,
      Program.run
          (serving fun _ (params : ScoreParams) => .ok (pageBody "data" "total" items cap
            (others params.offset) params.offset))
          (fun _ => ()) (epssFetch library maxPages since) 0 {} =
        (if pageCount cap items.length ≤ maxPages then .complete else .capped, position,
          { requests := (List.range pages).map fun page =>
              { limit := pageLimit, date := since.map Moment.date, offset := page * cap }
            records := (items.take (maxPages * cap)).filterMap (epssRecord library) }) := by
  intro pages
  refine ⟨fun page within => ?_, fun sleepBetweenPages since now => ?_, fun since => ?_⟩
  · exact mul_lt_of_lt_pageCount positive (within.trans_le (min_le_right _ _))
  · obtain ⟨position, ran⟩ := Connector.run_fetchFrom
      (nvd_answers library maxPages sleepBetweenPages
      { resultsPerPage
        lastModStartDate := since.map wholeSecond
        lastModEndDate := since.map fun since => wholeSecond (earlier (since + maxDateWindow) now)
        startIndex := 0 } items cap others) positive maxPages 0 0 0 {}
    simp only [Nat.zero_add, Nat.sub_zero, List.nil_append, List.drop_zero] at ran
    exact ⟨position, ran⟩
  · obtain ⟨position, ran⟩ := Connector.run_fetchFrom
      (epss_answers library (since.map Moment.date) items cap others) positive maxPages 0 0
      0 {}
    simp only [Nat.zero_add, Nat.sub_zero, List.nil_append, List.drop_zero] at ran
    exact ⟨position, ran⟩

namespace PageSample

def scored (cve : String) : Json :=
  .obj [("cve", .str cve)]

/-- Three entries, of which the second is malformed. -/
def items : List Json :=
  [scored "CVE-2024-00001", .null, scored "CVE-2024-00002"]

end PageSample

/-- Two pages of two entries hold three. -/
theorem pagination_exact_of_sample :
    ∃ position,
      Program.run
          (serving fun _ (params : ScoreParams) => .ok
            (pageBody "data" "total" PageSample.items 2 []
            params.offset))
          (fun _ => ()) (epssFetch NvdSample.library 10 none) 0 {} =
        (.complete, position,
          { requests := [⟨1000, none, 0⟩, ⟨1000, none, 2⟩]
            records :=
              [⟨.epss, "CVE-2024-00001", [("cve", .str "CVE-2024-00001")]⟩,
                ⟨.epss, "CVE-2024-00002", [("cve", .str "CVE-2024-00002")]⟩] }) :=
  (pagination_exact NvdSample.library 10 2 (by decide) PageSample.items fun _ => []).2.2 none

end ZeroShield.Intelligence
