import ZeroShield.Analyst.AllowList
import ZeroShield.Analyst.FencedPrompts
import ZeroShield.Analyst.ResearchAnalystService
import ZeroShield.Analyst.Schemas
import ZeroShield.Assurance.AffectedAssets
import ZeroShield.Assurance.Comparability
import ZeroShield.Assurance.Decisions
import ZeroShield.Assurance.EpssDrift
import ZeroShield.Assurance.PendingCandidates
import ZeroShield.Assurance.Regression
import ZeroShield.Assurance.RegressionOrder
import ZeroShield.Assurance.Revalidation
import ZeroShield.Assurance.ScanExactness
import ZeroShield.Assurance.ScanFindings
import ZeroShield.Assurance.Store
import ZeroShield.Auth.Enumeration
import ZeroShield.Auth.Grants
import ZeroShield.Auth.Lockout
import ZeroShield.Auth.Service
import ZeroShield.Auth.Sessions
import ZeroShield.Auth.Store
import ZeroShield.Evidence.Builder
import ZeroShield.Evidence.Manifest
import ZeroShield.Evidence.RelativePaths
import ZeroShield.Evidence.Verification
import ZeroShield.Experiments.Discovery
import ZeroShield.Exports.OverleafExporter
import ZeroShield.Foundation.Attempt
import ZeroShield.Foundation.CanonicalJson
import ZeroShield.Foundation.ChangeLog
import ZeroShield.Foundation.CheckedWrites
import ZeroShield.Foundation.Decimal
import ZeroShield.Foundation.Directory
import ZeroShield.Foundation.Doubles
import ZeroShield.Foundation.DynamicValues
import ZeroShield.Foundation.Encoding
import ZeroShield.Foundation.Endings
import ZeroShield.Foundation.EscapedSplit
import ZeroShield.Foundation.EventLog
import ZeroShield.Foundation.Fallible
import ZeroShield.Foundation.Interleaving
import ZeroShield.Foundation.Joins
import ZeroShield.Foundation.Journal
import ZeroShield.Foundation.Json
import ZeroShield.Foundation.JsonText
import ZeroShield.Foundation.LikePatterns
import ZeroShield.Foundation.Occurrences
import ZeroShield.Foundation.Pagination
import ZeroShield.Foundation.PathGrammar
import ZeroShield.Foundation.PercentEncoding
import ZeroShield.Foundation.Program
import ZeroShield.Foundation.Reading
import ZeroShield.Foundation.Register
import ZeroShield.Foundation.Repetitions
import ZeroShield.Foundation.Rounding
import ZeroShield.Foundation.SequenceMatcher
import ZeroShield.Foundation.StableSort
import ZeroShield.Foundation.Substitution
import ZeroShield.Foundation.Table
import ZeroShield.Foundation.Text
import ZeroShield.Foundation.Traces
import ZeroShield.Foundation.Transaction
import ZeroShield.Foundation.Words
import ZeroShield.Generators.Base
import ZeroShield.Generators.GroundTruth
import ZeroShield.Generators.Telecom
import ZeroShield.Generators.Vpn
import ZeroShield.Intelligence.Candidates
import ZeroShield.Intelligence.Convergence
import ZeroShield.Intelligence.Correlation
import ZeroShield.Intelligence.CpeNames
import ZeroShield.Intelligence.CvssSelection
import ZeroShield.Intelligence.Dedup
import ZeroShield.Intelligence.ExcelImporter
import ZeroShield.Intelligence.HistoryChain
import ZeroShield.Intelligence.HttpFetch
import ZeroShield.Intelligence.Idempotence
import ZeroShield.Intelligence.KnownData
import ZeroShield.Intelligence.MergeSequence
import ZeroShield.Intelligence.Normalisation
import ZeroShield.Intelligence.NvdConnector
import ZeroShield.Intelligence.PageRequests
import ZeroShield.Intelligence.Percentages
import ZeroShield.Intelligence.Priority
import ZeroShield.Intelligence.Revision
import ZeroShield.Intelligence.Routes
import ZeroShield.Intelligence.RowIsolation
import ZeroShield.Intelligence.Rows
import ZeroShield.Intelligence.RunSync
import ZeroShield.Intelligence.SourceOrder
import ZeroShield.Intelligence.Store
import ZeroShield.Intelligence.SymmetricCorrelation
import ZeroShield.Intelligence.Sync
import ZeroShield.Intelligence.Tables
import ZeroShield.Jobs.Deliveries
import ZeroShield.Jobs.JobStore
import ZeroShield.Jobs.JobVisibility
import ZeroShield.Jobs.Lifecycle
import ZeroShield.Jobs.Routes
import ZeroShield.Jobs.Script
import ZeroShield.Jobs.StoreCalls
import ZeroShield.Jobs.Stream
import ZeroShield.Jobs.Submission
import ZeroShield.Metrics.Calculator
import ZeroShield.Metrics.Comparator
import ZeroShield.Metrics.WellFormed
import ZeroShield.Models.Calendar
import ZeroShield.Models.Enums
import ZeroShield.Models.Experiment
import ZeroShield.Models.Intelligence
import ZeroShield.Models.Policies
import ZeroShield.Models.Run
import ZeroShield.Models.Shared
import ZeroShield.Models.Vulnerability
import ZeroShield.Orchestration.DatasetReads
import ZeroShield.Orchestration.EvidenceGeneration
import ZeroShield.Orchestration.ExperimentOrchestrator
import ZeroShield.Orchestration.ManifestRoundTrip
import ZeroShield.Orchestration.PointerConsistency
import ZeroShield.Orchestration.ReloadedEvidence
import ZeroShield.Platform.Operations
import ZeroShield.Platform.World
import ZeroShield.Repositories.Archive
import ZeroShield.Repositories.Equivalence
import ZeroShield.Repositories.EvidenceRepository
import ZeroShield.Repositories.Immutability
import ZeroShield.Repositories.Laws
import ZeroShield.Repositories.LocalEvidenceRepository
import ZeroShield.Repositories.MinioEvidenceRepository
import ZeroShield.Runners.ExperimentRunner
import ZeroShield.Services.CategoryBreakdown
import ZeroShield.Services.ExperimentService
import ZeroShield.Strategies.Canonicalisation
import ZeroShield.Strategies.Domains
import ZeroShield.Strategies.Telecom
import ZeroShield.Strategies.Values
import ZeroShield.Strategies.Vpn
import ZeroShield.Studio.Approval
import ZeroShield.Studio.Builder
import ZeroShield.Studio.Catalogue
import ZeroShield.Studio.Drafts
import ZeroShield.Studio.EditReadback
import ZeroShield.Studio.History
import ZeroShield.Studio.Lockstep
import ZeroShield.Studio.MaterialisedDatasets
import ZeroShield.Studio.Routes
import ZeroShield.Studio.Runnability
import ZeroShield.Studio.Runs
import ZeroShield.Studio.Script
import ZeroShield.Studio.Sequential
import ZeroShield.Verdict.Coverage
import ZeroShield.Verdict.Engine
import ZeroShield.Verdict.Monotonicity
import ZeroShield.Worker.Finishing
import ZeroShield.Worker.Processor
import ZeroShield.Worker.RunQueue
import ZeroShield.Worker.Tasks
