import ZeroShield.Assurance.ScanFindings
import ZeroShield.Foundation.Decimal
import ZeroShield.Intelligence.Correlation

/-!
# When a scan is exact

A scan is meant to leave a candidate pending for each trigger whose documented condition holds.  It
does so for all triggers but three: any version which was never validated counts as a change,
similar vulnerabilities are looked for among the last two hundred of a domain, or of all domains
when the domain is unknown, and the difference of two probabilities is rounded.
-/

namespace ZeroShield.Assurance

open Foundation Models Platform StringEnum

/-- A number as a scan compares it. -/
def parsedNumber : Number → ParsedNumber
  | .finite value => .finite value
  | .infinity negative => .infinite negative
  | .nan => .nan

section Scan

variable (findExperiment : String → Option ExperimentDefinition)
  (vulnerabilities : Intelligence.Store) (library : Intelligence.CorrelationLibrary)

/-- The services over the experiments of a directory and a store of vulnerabilities. -/
def servicesOf : ScanServices where
  findExperiment experimentId := .ok (findExperiment experimentId)
  getHistory := vulnerabilities.getHistory
  getAdvisoriesForCve := vulnerabilities.getAdvisoriesForCve
  getVulnerability := vulnerabilities.vulnerabilities.lookup
  listVulnerabilities := vulnerabilities.listVulnerabilities
  rankCorrelations subject candidates minScore limit :=
    (Intelligence.rankCorrelations library {} subject candidates [] (fun _ => []) minScore
      limit).map fun result =>
        { cveId := result.cveId, score := result.score, explanation := result.explanation }
  parseFloat text := (float text).map parsedNumber

variable (store : AssuranceStore) (stalenessWindow : ℤ) (now : DateTime) (control : Control)
  (latest : ControlValidation)

/-- The vulnerabilities of the experiment of the last validation. -/
def related : List String :=
  relatedCvesOf (findExperiment latest.experimentId)

/-- The doubles which are read of a recorded change have a difference which is rounded to at least
the threshold. -/
def RoundedChange : Prop :=
  ∃ entry ∈ vulnerabilities.history, entry.cveId ∈ related findExperiment latest ∧
    latest.validatedAt < entry.observedAt ∧ entry.field = "epss_score" ∧
      ∃ old ∈ entry.oldValue.bind float, ∃ new ∈ entry.newValue.bind float,
        (parsedNumber old).differMaterially (parsedNumber new) = true

variable {findExperiment vulnerabilities library store stalenessWindow now control latest}

theorem servicesOf_loadable : (servicesOf findExperiment vulnerabilities library).Loadable :=
  fun experimentId => ⟨findExperiment experimentId, rfl⟩

theorem mem_getHistory {cveId : String} {entry : VulnerabilityHistoryEntry} :
    entry ∈ vulnerabilities.getHistory cveId ↔
      entry ∈ vulnerabilities.history ∧ entry.cveId = cveId := by
  simp [Intelligence.Store.getHistory, List.mem_insertionSort]

theorem moved_iff {first second : Option String} :
    (∃ old ∈ first.bind (servicesOf findExperiment vulnerabilities library).parseFloat,
      ∃ new ∈ second.bind (servicesOf findExperiment vulnerabilities library).parseFloat,
        old.differMaterially new = true) ↔
      ∃ old ∈ first.bind float, ∃ new ∈ second.bind float,
        (parsedNumber old).differMaterially (parsedNumber new) = true := by
  have read (text : Option String) :
      text.bind (servicesOf findExperiment vulnerabilities library).parseFloat =
        (text.bind float).map parsedNumber := by
    simp only [servicesOf, Option.map_bind, Function.comp_def]
  rw [read, read]
  generalize first.bind float = first
  generalize second.bind float = second
  cases first with
  | none => simp
  | some old => cases second <;> simp

theorem seen_epssMaterialChange :
    Seen (servicesOf findExperiment vulnerabilities library) store stalenessWindow now
      control latest
        .epssMaterialChange ↔
      RoundedChange findExperiment vulnerabilities latest := by
  constructor
  · rintro ⟨cveId, isRelated, entry, member, recent, epss, moved⟩
    obtain ⟨stored, rfl⟩ := mem_getHistory.mp member
    exact ⟨entry, stored, isRelated, recent, epss, moved_iff.mp moved⟩
  · rintro ⟨entry, stored, isRelated, recent, epss, moved⟩
    exact ⟨_, isRelated, entry, mem_getHistory.mpr ⟨stored, rfl⟩, recent, epss,
      moved_iff.mpr moved⟩

end Scan

/-! ## A control with two versions -/

namespace Sample

/-- A version of a control, created in the given microsecond. -/
def versionAt (versionId : String) (createdAt : DateTime) : ControlVersion where
  versionId
  createdAt
  controlId := "WAF:BLOCK"
  versionLabel := versionId
  domainPackId := "WAF"
  templateId := "BLOCK"
  templateVersion := "1.0"

def blocking : Control where
  controlId := "WAF:BLOCK"
  name := "Block"
  domain := "WAF"
  mitigationStrategyId := "BLOCK"
  createdAt := 0

def validationOf (versionId : String) : ControlValidation where
  validationId := "VAL-0"
  controlId := "WAF:BLOCK"
  versionId
  experimentId := "EXP-0"
  baselineRunId := "RUN-0"
  mitigationRunId := "RUN-1"
  totalCases := 1
  blockRateImprovement := 1
  falsePositiveRate := 0
  falseNegativeRate := 0
  validAcceptanceRate := 1
  parserReachRate := 0
  latencyOverheadMs := 0
  verdictLabel := "EFFECTIVE"
  validatedAt := 2

/-- A store in which one of two versions of a control was validated. -/
def versioned (validated : String) : AssuranceStore where
  controls := [blocking]
  versions := [versionAt "V1" 0, versionAt "V2" 1]
  validations := [validationOf validated]

def correlations : Intelligence.CorrelationLibrary where
  lower := lower
  ratio first second := if first = second then 1 else 0
  repr := String.intercalate ", "

theorem versioned_onePending (validated : String) : OnePending (versioned validated) :=
  fun _ _ => Nat.zero_le 1

end Sample

end ZeroShield.Assurance
