import CareerOS.AgentWork.ContactRedaction
import CareerOS.AgentWork.Lifecycle
import CareerOS.Applications.Agenda
import CareerOS.Applications.AppliedMarkers
import CareerOS.Applications.Concurrency
import CareerOS.Applications.DossierEditor
import CareerOS.Applications.ReadinessMarkdown
import CareerOS.Applications.TaskBoard
import CareerOS.Campaigns.DeclarationGuard
import CareerOS.Campaigns.ImportPlan
import CareerOS.Campaigns.Reconciliation
import CareerOS.Career.Activity
import CareerOS.Career.AssetReconciliation
import CareerOS.Career.CoachReceipts
import CareerOS.Career.MaintenanceGuard
import CareerOS.Client.SessionSafety
import CareerOS.Desktop.BackupRecovery
import CareerOS.Desktop.LifecycleSafety
import CareerOS.Inference.Downloads
import CareerOS.Inference.RuntimeInstall
import CareerOS.Matching.AttestedBatches
import CareerOS.Matching.CatalogRevisions
import CareerOS.Matching.MandatoryMismatch
import CareerOS.Matching.RequirementGroups
import CareerOS.Portability.LogicalIdentity
import CareerOS.Providers.CircuitBreaker
import CareerOS.Providers.ListingParser
import CareerOS.Resumes.CanvasReducer
import CareerOS.Resumes.PublishedContent
import CareerOS.Resumes.SyncPreview
import CareerOS.Search.Deduplicator
import CareerOS.Search.LockOwnership
import CareerOS.Search.Pagination
import CareerOS.Search.PromptPacking
import CareerOS.Search.SkillScore
import CareerOS.Services.RequestAgreement
import CareerOS.Services.ScheduleAgreement
import CareerOS.Workflows.LeaseSafety
