import ZeroShield.Foundation.Program
import ZeroShield.Foundation.Table
import ZeroShield.Models.Intelligence
import ZeroShield.Platform.World

/-!
# The intelligence store

The tables in which intelligence is kept, the queue of requested runs, and the operations of the
repository on them.  Every operation is one commit.
-/

namespace ZeroShield.Intelligence

open Foundation Models

/-- A product which is affected by a vulnerability. -/
structure AffectedProduct where
  cveId : String
  vendor : String
  name : String
  versionRange : Option String
  deriving DecidableEq

/-- A vulnerability and a product have at most one link. -/
def AffectedProduct.link (product : AffectedProduct) : String × String × String :=
  (product.cveId, product.vendor, product.name)

/-- A source has at most one record of a vulnerability. -/
def recordKey (record : VulnerabilitySourceRecord) : String × VulnerabilitySourceName :=
  (record.cveId, record.source)

/-- A vulnerability has at most one candidate for a domain. -/
def candidateKey (candidate : ValidationCandidate) : String × Option Domain :=
  (candidate.cveId, candidate.domain)

/-- The intelligence tables with the queue and the audit trail. -/
structure Store where
  vulnerabilities : Table Vulnerability.cveId := .empty
  sourceRecords : Table recordKey := .empty
  /-- History rows in the order of their generated identifiers. -/
  history : List VulnerabilityHistoryEntry := []
  products : Table AffectedProduct.link := .empty
  advisories : Table VendorAdvisory.advisoryId := .empty
  candidates : Table candidateKey := .empty
  syncs : Table IntelligenceSync.syncId := .empty
  /-- Messages waiting for delivery. -/
  queue : List IntelligenceSyncJobMessage := []
  audit : List Platform.AuditEvent := []
  /-- How many unique identifiers were issued. -/
  issued : ℕ := 0

namespace Store

/-- A record keeps the time at which its source was first seen. -/
def upsertSourceRecord (store : Store) (record : VulnerabilitySourceRecord) : Store :=
  { store with
    sourceRecords :=
      match store.sourceRecords.lookup (recordKey record) with
      | none => store.sourceRecords.upsert record
      | some existing =>
          store.sourceRecords.upsert { record with firstSeenAt := existing.firstSeenAt } }

/-- A link keeps its version range when none is given. -/
def upsertProduct (cveId : String) (products : Table AffectedProduct.link) :
    String × String × Option String → Table AffectedProduct.link
  | (vendor, name, versionRange) =>
      match products.lookup (cveId, vendor, name) with
      | none => products.upsert { cveId, vendor, name, versionRange }
      | some link => products.upsert { link with versionRange := versionRange.or link.versionRange }

def upsertProducts (store : Store) (cveId : String)
    (products : List (String × String × Option String)) : Store :=
  { store with products := products.foldl (upsertProduct cveId) store.products }

/-- The recorded changes of a vulnerability ordered by time, then by row identifier. -/
def getHistory (store : Store) (cveId : String) : List VulnerabilityHistoryEntry :=
  (store.history.filter (·.cveId = cveId)).insertionSort
    fun left right => left.observedAt ≤ right.observedAt

end Store

/-- The operations of the routes and of the synchronisation. -/
inductive Op
  | getVulnerability (cveId : String)
  | upsertVulnerability (vulnerability : Vulnerability)
  | upsertSourceRecord (record : VulnerabilitySourceRecord)
  | appendHistory (entries : List VulnerabilityHistoryEntry)
  | upsertProducts (cveId : String) (products : List (String × String × Option String))
  | upsertVendorAdvisory (advisory : VendorAdvisory)
  | upsertValidationCandidate (candidate : ValidationCandidate)
  | saveSync (sync : IntelligenceSync)
  | publish (message : IntelligenceSyncJobMessage)
  | recordAudit (event : Platform.AuditEvent)
  | utcNow
  | uuid4

/-- What each operation returns. -/
@[reducible]
def Op.Result : Op → Type
  | getVulnerability _ => Option Vulnerability
  | utcNow => DateTime
  | uuid4 => String
  | _ => Unit

/-- The repository as an interface. -/
abbrev repository : Interface where
  Op := Op
  Result := Op.Result

/-- The meaning of the operations; their input is the reading of the clock. -/
def exec : Semantics repository DateTime Store
  | _, .getVulnerability cveId, store => (store.vulnerabilities.lookup cveId, store)
  | _, .upsertVulnerability vulnerability, store =>
      ((), { store with vulnerabilities := store.vulnerabilities.upsert vulnerability })
  | _, .upsertSourceRecord record, store => ((), store.upsertSourceRecord record)
  | _, .appendHistory entries, store => ((), { store with history := store.history ++ entries })
  | _, .upsertProducts cveId products, store => ((), store.upsertProducts cveId products)
  | _, .upsertVendorAdvisory advisory, store =>
      ((), { store with advisories := store.advisories.upsert advisory })
  | _, .upsertValidationCandidate candidate, store =>
      ((), { store with candidates := store.candidates.upsert candidate })
  | _, .saveSync sync, store => ((), { store with syncs := store.syncs.upsert sync })
  | _, .publish message, store => ((), { store with queue := store.queue ++ [message] })
  | _, .recordAudit event, store => ((), { store with audit := store.audit ++ [event] })
  | now, .utcNow, store => (now, store)
  | _, .uuid4, store => (hexText store.issued, { store with issued := store.issued + 1 })

/-- Perform one operation and return its result. -/
abbrev call (op : Op) : Program repository op.Result :=
  Program.call (I := repository) op

end ZeroShield.Intelligence
