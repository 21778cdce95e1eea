import DecisionCenter.Py.Runtime
import DecisionCenter.Evidence
import DecisionCenter.Graph.OdooContext
import DecisionCenter.Graph.FinancialSnapshot
import DecisionCenter.Graph.Intent
import DecisionCenter.Async.Task
import DecisionCenter.Rbac.Roles
import DecisionCenter.Review.Store
import DecisionCenter.Review.Endpoints
import DecisionCenter.Review.Effects
import DecisionCenter.Review.Terminality
import DecisionCenter.Review.GateBlocks
import DecisionCenter.Review.Serial
import DecisionCenter.Review.Concurrency
import DecisionCenter.Review.Serializability
import DecisionCenter.Review.Replay
import DecisionCenter.Review.Archive
import DecisionCenter.Data.Csv
import DecisionCenter.Data.Dedup
import DecisionCenter.Graph.Normalize
import DecisionCenter.Py.Whole
import DecisionCenter.Graph.Totals
import DecisionCenter.Graph.Citations
import DecisionCenter.Graph.Synthesis
import DecisionCenter.Graph.Builder
import DecisionCenter.Graph.Draft
import DecisionCenter.Graph.QualityGate
import DecisionCenter.Exporters.Markdown
import DecisionCenter.Exporters.MarkdownSpec
import DecisionCenter.Graph.DraftFrame
import DecisionCenter.Graph.SnapshotSpec
import DecisionCenter.Graph.SnapshotSoundness
import DecisionCenter.Graph.NonFabrication
import DecisionCenter.Graph.CitedFigures
import DecisionCenter.Exporters.CitedReport
import DecisionCenter.Data.Table
import DecisionCenter.Data.Windows
import DecisionCenter.Jobs.ReportJobs
import DecisionCenter.Jobs.Recovery
import DecisionCenter.Async.Fault
import DecisionCenter.Jobs.Worker
import DecisionCenter.Jobs.Lifecycle
import DecisionCenter.Jobs.StatusView
import DecisionCenter.Review.WriteOnce
import DecisionCenter.Review.Cancellation
import DecisionCenter.Review.Completeness
import DecisionCenter.Retrieval.OdooSources
import DecisionCenter.Retrieval.Calls
import DecisionCenter.Retrieval.Sharepoint
import DecisionCenter.Retrieval.Email
import DecisionCenter.Retrieval.Odoo
import DecisionCenter.Retrieval.Chunking
import DecisionCenter.Retrieval.Workflow
import DecisionCenter.Retrieval.Ledger
import DecisionCenter.Retrieval.Enabled
import DecisionCenter.Retrieval.FailedReads
import DecisionCenter.Retrieval.PackCoverage
import DecisionCenter.Mappings.Request
import DecisionCenter.Mappings.Row
import DecisionCenter.Mappings.File
import DecisionCenter.Mappings.Store
import DecisionCenter.Mappings.Edits
import DecisionCenter.Mappings.Migration
import DecisionCenter.Mappings.Admission
import DecisionCenter.Graph.GateSpec
import DecisionCenter.Graph.SectionSpec
import DecisionCenter.Graph.Remapping
import DecisionCenter.Py.Split
import DecisionCenter.Py.FirstMatch
import DecisionCenter.Py.Json
import DecisionCenter.Graph.CitedCost
import DecisionCenter.Graph.SnapshotArithmetic
import DecisionCenter.Graph.PromptFigures
import DecisionCenter.Retrieval.PurchaseOrders
import DecisionCenter.Retrieval.LedgerAccuracy
import DecisionCenter.Retrieval.OdooWorkflow
import DecisionCenter.Retrieval.OdooFailures
import DecisionCenter.Review.ReadAccess
import DecisionCenter.Graph.AmountParsing
import DecisionCenter.Graph.PackCitations
import DecisionCenter.Graph.Traceability
import DecisionCenter.Graph.FilenameText
import DecisionCenter.Exporters.Document
import DecisionCenter.Exporters.Content
import DecisionCenter.Exporters.PowerPoint
import DecisionCenter.Exporters.Excel
import DecisionCenter.Exporters.Agreement
import DecisionCenter.Data.Rounding
import DecisionCenter.Data.BinaryFormat
import DecisionCenter.Llm.Call
import DecisionCenter.Llm.DailyCap
import DecisionCenter.Data.Paging
import DecisionCenter.Audits.Export
import DecisionCenter.Audits.Listing
import DecisionCenter.Scan.Source
import DecisionCenter.Scan.Failures
import DecisionCenter.Scan.Session
import DecisionCenter.Scan.Progress
import DecisionCenter.Scan.World
import DecisionCenter.Scan.Holding
import DecisionCenter.Scan.Settled
import DecisionCenter.Scan.SingleFlight
import DecisionCenter.Scan.SampleRead
import DecisionCenter.Mappings.Survival
import DecisionCenter.Mappings.SiteMatching
import DecisionCenter.Mappings.SyncRun
import DecisionCenter.Async.Attempt
import DecisionCenter.Data.Ranking
import DecisionCenter.Mappings.Rescan
import DecisionCenter.Mappings.RescanVerdict
import DecisionCenter.Mappings.RescanRun
import DecisionCenter.Mappings.Enforcement
import DecisionCenter.Mappings.Protection
import DecisionCenter.Mappings.GroupMembers
import DecisionCenter.Mappings.Handlers
import DecisionCenter.Mappings.AdminEdits
import DecisionCenter.Mappings.ColumnJson
import DecisionCenter.Mappings.PartialUpdates
import DecisionCenter.Mappings.RoundTrip
import DecisionCenter.Graph.FallbackGate
import DecisionCenter.Graph.CheckSelection
import DecisionCenter.Graph.PackDependence
import DecisionCenter.Py.Regex
import DecisionCenter.Py.Shape
import DecisionCenter.Llm.Injection
import DecisionCenter.Admin.SanitizeDetail
import DecisionCenter.Admin.ConnectorStatus
import DecisionCenter.Admin.Readiness
import DecisionCenter.Data.Tally
import DecisionCenter.Llm.Accounting
import DecisionCenter.Py.Joined
import DecisionCenter.Retrieval.HybridSearch
import DecisionCenter.Retrieval.Cache
import DecisionCenter.Scan.Snapshot
import DecisionCenter.Graph.FigureDelivery
import DecisionCenter.Graph.MissingData
import DecisionCenter.Graph.TruthfulGaps
import DecisionCenter.Async.Secrets
import DecisionCenter.Graph.WithheldFigures
import DecisionCenter.Retrieval.Confidentiality
import DecisionCenter.Py.JsonText
import DecisionCenter.Persistence.ObjectStore
import DecisionCenter.Persistence.SharedBucket
import DecisionCenter.Retrieval.OdooRequests
import DecisionCenter.Retrieval.Awaited
import DecisionCenter.Retrieval.OdooScope
import DecisionCenter.Scan.Requests
import DecisionCenter.Retrieval.GraphToken
import DecisionCenter.Py.Percent
import DecisionCenter.Retrieval.ReadScope
import DecisionCenter.Audits.Events
import DecisionCenter.Audits.OwnReports
import DecisionCenter.Data.FileTree
import DecisionCenter.Persistence.Uploads
import DecisionCenter.Persistence.Backup
import DecisionCenter.Auth.Validator
import DecisionCenter.Llm.CodeFence
