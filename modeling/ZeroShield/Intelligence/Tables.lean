import ZeroShield.Intelligence.Rows
import ZeroShield.Intelligence.Store

/-!
# The tables of the intelligence repository

The tables which a contribution or an advisory changes, and what merging a contribution into the
stored vulnerability writes to them.
-/

namespace ZeroShield.Intelligence

open Foundation Models

/-- A product is known by its vendor and its name. -/
def productKey (product : String × String) : String × String :=
  product

/-- The tables of vulnerabilities and their history, of source records, of products, of the links
between vulnerabilities and products, and of advisories. -/
structure Tables where
  database : Database := {}
  sourceRecords : Table recordKey := .empty
  products : Table productKey := .empty
  affectedProducts : Table AffectedProduct.link := .empty
  advisories : Table VendorAdvisory.advisoryId := .empty

namespace Tables

variable (tables : Tables)

/-- A record keeps the time at which its source was first seen. -/
def upsertSourceRecord (record : VulnerabilitySourceRecord) : Tables :=
  { tables with
    sourceRecords :=
      match tables.sourceRecords.lookup (recordKey record) with
      | none => tables.sourceRecords.upsert record
      | some existing =>
          tables.sourceRecords.upsert { record with firstSeenAt := existing.firstSeenAt } }

/-- Add a product unless it is known. -/
def upsertProduct (products : Table productKey) (vendor name : String) : Table productKey :=
  match products.lookup (vendor, name) with
  | none => products.upsert (vendor, name)
  | some _ => products

/-- Write the products of a vulnerability and the links to them. -/
def upsertProducts (cveId : String) (affected : List (String × String × Option String)) : Tables :=
  { tables with
    products := affected.foldl (fun products item => upsertProduct products item.1 item.2.1)
      tables.products
    affectedProducts := affected.foldl (Store.upsertProduct cveId) tables.affectedProducts }

def upsertVendorAdvisory (advisory : VendorAdvisory) : Tables :=
  { tables with advisories := tables.advisories.upsert advisory }

/-- Merge a contribution into the stored vulnerability, and store all that results from it.  Nothing
is written unless the merge succeeds. -/
def mergeContribution (texts : Texts) (contribution : NormalisedContribution) (now : DateTime) :
    Except MergeError (MergeResult × Tables) := do
  let (result, database) ← tables.database.mergeStored texts contribution now
  let tables := { tables with database }.upsertSourceRecord result.sourceRecord
  return (result,
    if result.products = [] then tables else tables.upsertProducts contribution.cveId
      result.products)

end Tables

/-- A merge into the tables is a merge into the database. -/
theorem mergeContribution_eq_ok {texts : Texts} {tables after : Tables}
    {contribution : NormalisedContribution} {now : DateTime} {result : MergeResult}
    (merged : tables.mergeContribution texts contribution now = .ok (result, after)) :
    tables.database.mergeStored texts contribution now = .ok (result, after.database) := by
  obtain ⟨⟨found, database⟩, stored, same⟩ := bind_eq_ok.mp merged
  cases same
  split <;> exact stored

end ZeroShield.Intelligence
