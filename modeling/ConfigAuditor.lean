import ConfigAuditor.Assessment.Catalog
import ConfigAuditor.Assessment.CoverageSummary
import ConfigAuditor.Assessment.Evaluable
import ConfigAuditor.Assessment.ExternalCatalog
import ConfigAuditor.Assessment.ExternalErrors
import ConfigAuditor.Assessment.Model
import ConfigAuditor.Assessment.Publication
import ConfigAuditor.Assessment.RuntimeErrors
import ConfigAuditor.Assessment.Service
import ConfigAuditor.Audits.Coordinator
import ConfigAuditor.Audits.Creation
import ConfigAuditor.Audits.Isolation
import ConfigAuditor.Audits.Lifecycle
import ConfigAuditor.Audits.Model
import ConfigAuditor.Audits.Moves
import ConfigAuditor.Audits.Pins
import ConfigAuditor.Audits.Processing
import ConfigAuditor.Audits.Service
import ConfigAuditor.Audits.Stranded
import ConfigAuditor.Audits.Tenants
import ConfigAuditor.Audits.Views
import ConfigAuditor.Audits.Workers
import ConfigAuditor.Compliance.Evaluator
import ConfigAuditor.Compliance.Model
import ConfigAuditor.Compliance.Rules
import ConfigAuditor.Compliance.RuntimeRules
import ConfigAuditor.Compliance.RuntimeTyping
import ConfigAuditor.Compliance.Service
import ConfigAuditor.Compliance.Soundness
import ConfigAuditor.Dashboard.Accounts
import ConfigAuditor.Dashboard.Coverage
import ConfigAuditor.EffectiveState.BlockedScopes
import ConfigAuditor.EffectiveState.CanonicalValues
import ConfigAuditor.EffectiveState.Compatibility
import ConfigAuditor.EffectiveState.Completion
import ConfigAuditor.EffectiveState.DependencyBlocking
import ConfigAuditor.EffectiveState.Groups
import ConfigAuditor.EffectiveState.InterpreterFacts
import ConfigAuditor.EffectiveState.Model
import ConfigAuditor.EffectiveState.OperationRecovery
import ConfigAuditor.EffectiveState.OrderIndependence
import ConfigAuditor.EffectiveState.Policy
import ConfigAuditor.EffectiveState.Resolved
import ConfigAuditor.EffectiveState.Resolver
import ConfigAuditor.EffectiveState.RespelledCollections
import ConfigAuditor.EffectiveState.RespelledScopes
import ConfigAuditor.EffectiveState.Respelling
import ConfigAuditor.EffectiveState.ScopeIndependence
import ConfigAuditor.EffectiveState.ScopeTypes
import ConfigAuditor.EffectiveState.Service
import ConfigAuditor.EffectiveState.SpelledDrafts
import ConfigAuditor.EffectiveState.Spelling
import ConfigAuditor.EffectiveState.SpellingFree
import ConfigAuditor.EffectiveState.Traces
import ConfigAuditor.EffectiveState.VtyPartition
import ConfigAuditor.EffectiveState.Winner
import ConfigAuditor.Errors
import ConfigAuditor.Findings.Evidence
import ConfigAuditor.Findings.Excerpt
import ConfigAuditor.Findings.SourceLines
import ConfigAuditor.Ingestion.Evidence
import ConfigAuditor.Ingestion.Service
import ConfigAuditor.Ingestion.Storage
import ConfigAuditor.Ingestion.Validator
import ConfigAuditor.Interpretation.BlockColumns
import ConfigAuditor.Interpretation.BlockFit
import ConfigAuditor.Interpretation.Coverage
import ConfigAuditor.Interpretation.EvidencePaths
import ConfigAuditor.Interpretation.Extractors
import ConfigAuditor.Interpretation.FactIds
import ConfigAuditor.Interpretation.FailClosed
import ConfigAuditor.Interpretation.Mapping
import ConfigAuditor.Interpretation.Outcomes
import ConfigAuditor.Interpretation.Published
import ConfigAuditor.Interpretation.Qualifiers
import ConfigAuditor.Interpretation.Scopes
import ConfigAuditor.Interpretation.Service
import ConfigAuditor.Interpretation.Truncation
import ConfigAuditor.Interpretation.UnresolvedBlocks
import ConfigAuditor.Jobs.LeaseProtocol
import ConfigAuditor.Jobs.Model
import ConfigAuditor.KnowledgePacks.Model
import ConfigAuditor.KnowledgePacks.Sealed
import ConfigAuditor.Library.AddressText
import ConfigAuditor.Library.Decimals
import ConfigAuditor.Library.Dict
import ConfigAuditor.Library.DottedOrder
import ConfigAuditor.Library.FileTree
import ConfigAuditor.Library.Float
import ConfigAuditor.Library.Forest
import ConfigAuditor.Library.Intervals
import ConfigAuditor.Library.IpAddress
import ConfigAuditor.Library.JsonCopy
import ConfigAuditor.Library.JsonStrings
import ConfigAuditor.Library.JsonText
import ConfigAuditor.Library.LineEnds
import ConfigAuditor.Library.Lines
import ConfigAuditor.Library.Numerals
import ConfigAuditor.Library.OpenLevels
import ConfigAuditor.Library.Outlines
import ConfigAuditor.Library.PathText
import ConfigAuditor.Library.PathTree
import ConfigAuditor.Library.Raises
import ConfigAuditor.Library.Regex
import ConfigAuditor.Library.Runs
import ConfigAuditor.Library.Scanner
import ConfigAuditor.Library.Sorting
import ConfigAuditor.Library.Splitting
import ConfigAuditor.Library.Table
import ConfigAuditor.Library.Tallies
import ConfigAuditor.Library.Tenants
import ConfigAuditor.Library.Text
import ConfigAuditor.Library.Traversal
import ConfigAuditor.Library.Utf8
import ConfigAuditor.Library.Uuid
import ConfigAuditor.Library.UuidText
import ConfigAuditor.Library.Value
import ConfigAuditor.Parsing.BannerNodes
import ConfigAuditor.Parsing.Documents
import ConfigAuditor.Parsing.FortiosCli
import ConfigAuditor.Parsing.FortiosNesting
import ConfigAuditor.Parsing.IRBuilder
import ConfigAuditor.Parsing.IRForest
import ConfigAuditor.Parsing.IndentationCli
import ConfigAuditor.Parsing.JsonTree
import ConfigAuditor.Parsing.LosslessCli
import ConfigAuditor.Parsing.LosslessFortios
import ConfigAuditor.Parsing.Models
import ConfigAuditor.Parsing.ParentSearch
import ConfigAuditor.Parsing.Spans
import ConfigAuditor.Parsing.Tokenizer
import ConfigAuditor.Parsing.TreeReaders
import ConfigAuditor.Parsing.XmlTree
import ConfigAuditor.ProfileResolution.BannerAgreement
import ConfigAuditor.ProfileResolution.DataLines
import ConfigAuditor.ProfileResolution.DeclaredErrors
import ConfigAuditor.ProfileResolution.DocumentOrder
import ConfigAuditor.ProfileResolution.Evidence
import ConfigAuditor.ProfileResolution.Exits
import ConfigAuditor.ProfileResolution.Extraction
import ConfigAuditor.ProfileResolution.LongVersions
import ConfigAuditor.ProfileResolution.Manifest
import ConfigAuditor.ProfileResolution.Registry
import ConfigAuditor.ProfileResolution.ResolvedSound
import ConfigAuditor.ProfileResolution.Resolver
import ConfigAuditor.ProfileResolution.RuntimeProfiles
import ConfigAuditor.ProfileResolution.RuntimeRoundTrip
import ConfigAuditor.ProfileResolution.VersionConflicts
import ConfigAuditor.ProfileResolution.VersionIntervals
import ConfigAuditor.ProfileResolution.VersionTexts
import ConfigAuditor.ProfileResolution.Versions
import ConfigAuditor.Reevaluation.Interleaving
import ConfigAuditor.Reevaluation.Numbering
import ConfigAuditor.Reevaluation.Revisions
import ConfigAuditor.Reevaluation.Service
import ConfigAuditor.Remediation.NormalForms
import ConfigAuditor.Remediation.Procedures
import ConfigAuditor.Remediation.Rendering
import ConfigAuditor.Remediation.RoundTrip
import ConfigAuditor.Remediation.Service
import ConfigAuditor.Reporting.Reports
import ConfigAuditor.Reporting.Service
import ConfigAuditor.SecurityModel
import ConfigAuditor.Snapshots.EvidenceInvariant
import ConfigAuditor.Snapshots.Model
import ConfigAuditor.Snapshots.Service
import ConfigAuditor.Training.ActivePack
import ConfigAuditor.Training.ArgumentGrammar
import ConfigAuditor.Training.CapturedValues
import ConfigAuditor.Training.Dsl
import ConfigAuditor.Training.ExampleAgreement
import ConfigAuditor.Training.ImpactAgreement
import ConfigAuditor.Training.ImpactAnalysis
import ConfigAuditor.Training.Lifecycle
import ConfigAuditor.Training.Loadable
import ConfigAuditor.Training.Matcher
import ConfigAuditor.Training.Model
import ConfigAuditor.Training.PackHistory
import ConfigAuditor.Training.Publication
import ConfigAuditor.Training.ReviewStatus
import ConfigAuditor.Training.Safety
import ConfigAuditor.Training.Service
