import ZeroShield.Models.Vulnerability

/-!
# Synchronisation of vulnerability intelligence

The runs which fetch from a source, the messages which request them, and the candidates for
validation which are derived from the stored vulnerabilities.
-/

namespace ZeroShield.Models

/-- Whether an installed pack can validate a domain. -/
inductive SupportStatus
  | supported
  | partiallySupported
  | unsupported
  deriving DecidableEq, Repr

instance : StringEnum SupportStatus where
  members := [.supported, .partiallySupported, .unsupported]
  value
    | .supported => "supported"
    | .partiallySupported => "partially_supported"
    | .unsupported => "unsupported"

/-- The status of a synchronisation. -/
inductive IntelligenceSyncStatus
  | queued
  | running
  | completed
  | partially
  | failed
  deriving DecidableEq, Repr

instance : StringEnum IntelligenceSyncStatus where
  members := [.queued, .running, .completed, .partially, .failed]
  value
    | .queued => "queued"
    | .running => "running"
    | .completed => "completed"
    | .partially => "partial"
    | .failed => "failed"

inductive PriorityLabel
  | critical
  | high
  | medium
  | low
  deriving DecidableEq, Repr

instance : StringEnum PriorityLabel where
  members := [.critical, .high, .medium, .low]
  value
    | .critical => "critical"
    | .high => "high"
    | .medium => "medium"
    | .low => "low"

/-- A point in time as a caller gives it, with or without an offset from UTC. -/
structure Timestamp where
  time : DateTime
  aware : Bool
  deriving DecidableEq, Repr

/-- A vulnerability which is worth validating. -/
structure ValidationCandidate where
  cveId : String
  domain : Option Domain
  supportStatus : SupportStatus
  priorityScore : ℚ
  priorityLabel : PriorityLabel
  explanation : List String
  existingExperimentIds : List String
  generatedAt : DateTime
  deriving DecidableEq

/-- One run which fetches from a source. -/
structure IntelligenceSync where
  syncId : String
  source : VulnerabilitySourceName
  status : IntelligenceSyncStatus
  since : Option Timestamp := none
  startedAt : DateTime
  completedAt : Option DateTime := none
  fetchedCount : ℕ := 0
  createdCount : ℕ := 0
  updatedCount : ℕ := 0
  unchangedCount : ℕ := 0
  failedCount : ℕ := 0
  errorSummary : Option String := none
  deriving DecidableEq, Repr

/-- The message which requests a run. -/
structure IntelligenceSyncJobMessage where
  syncId : String
  source : VulnerabilitySourceName
  since : Option Timestamp
  deriving DecidableEq, Repr

end ZeroShield.Models
