import Autopilot.Lib.Prog
import Autopilot.Lib.Durable
import Autopilot.Lib.Record
import Autopilot.Lib.Budget
import Autopilot.Lib.Keyed
import Autopilot.Lib.Versioned
import Autopilot.Lib.Framing
import Autopilot.Lib.Interleaving
import Autopilot.Lib.Dict
import Autopilot.Lib.JsonText
import Autopilot.Lib.JsonReader
import Autopilot.Lib.Utf8
import Autopilot.Lib.Markup
import Autopilot.Lib.Search
import Autopilot.Lib.Lines
import Autopilot.Lib.Admission
import Autopilot.Js
import Autopilot.TokenGateway
import Autopilot.TokenLedger
import Autopilot.TokenGatewaySpec
import Autopilot.GatewayRuns
import Autopilot.GroupSlots
import Autopilot.GatewayAtomicity
import Autopilot.SharedGateways
import Autopilot.Handoff
import Autopilot.SupervisorQueue
import Autopilot.SupervisorQueueSpec
import Autopilot.SupervisorLifecycle
import Autopilot.SupervisorHistories
import Autopilot.SupervisorDurability
import Autopilot.DependencyCycles
import Autopilot.RunPolicy
import Autopilot.RunStore
import Autopilot.RunStoreSpec
import Autopilot.RunHistories
import Autopilot.BrainstormStore
import Autopilot.BrainstormWriters
import Autopilot.BrainstormPrompts
import Autopilot.ApprovalQueue
import Autopilot.RunOrchestrator
import Autopilot.RunDispatch
import Autopilot.RunSteps
import Autopilot.RunTidy
import Autopilot.RunWalks
import Autopilot.RunCourses
import Autopilot.RunEndings
import Autopilot.ControlPlane
import Autopilot.RunTasks
import Autopilot.ExactApproval
import Autopilot.DispatchExceptions
import Autopilot.HeadOfLine
import Autopilot.RunReservations
import Autopilot.RunCancellations
import Autopilot.PreparedRuns
import Autopilot.MaintenanceLock
import Autopilot.SessionAlerts
import Autopilot.HookLedgers
import Autopilot.WorkerLocks
import Autopilot.QuotaScheduler
import Autopilot.QuotaSchedulerRuns
import Autopilot.QuotaPolls
import Autopilot.RoutingModes
import Autopilot.DecisionMesh
import Autopilot.GovernedDispatch
import Autopilot.DispatchSettlement
import Autopilot.MeshPackets
import Autopilot.RoutingGuards
import Autopilot.FallbackChains
import Autopilot.SupervisorRouting
import Autopilot.ApprovedRoutes
import Autopilot.PromotionPackets
import Autopilot.PromotionHistories
import Autopilot.TelemetryRedaction
import Autopilot.IncidentStore
import Autopilot.IncidentHistories
import Autopilot.OpenRouterLedgers
import Autopilot.LedgerRecords
import Autopilot.LedgerMigration
import Autopilot.LedgerLane
import Autopilot.AttemptBudget
import Autopilot.PatternComponents
import Autopilot.TokenCss
import Autopilot.RenderComposition
import Autopilot.RenderedLinks
import Autopilot.TokenReading
import Autopilot.ContrastGate
import Autopilot.StateLogs
import Autopilot.StateBackups
import Autopilot.BackupArchives
import Autopilot.StateRecovery
import Autopilot.StateRoundTrips
import Autopilot.RelatedFiles
import Autopilot.ChangedFiles
import Autopilot.Lib.Separated
import Autopilot.Lib.ShellWords
import Autopilot.VerifyScope
import Autopilot.ZeroCost
import Autopilot.OrphanSweep
import Autopilot.FigmaMutations
import Autopilot.Lib.Readings
import Autopilot.RolloutUsage
import Autopilot.CodexCommand
import Autopilot.Lib.Collected
import Autopilot.BrainstormCoordinator
import Autopilot.BrainstormSlots
import Autopilot.BrainstormLabels
import Autopilot.StripAnsi
import Autopilot.StripAnsiJoins
import Autopilot.MeshHints
import Autopilot.SkillRegistry
import Autopilot.SubagentEvidence
import Autopilot.PointCloudCodec
import Autopilot.PointCloudSampler
import Autopilot.PointCloudEdges
import Autopilot.PointCloudFacets
import Autopilot.PointClouds
import Autopilot.PointCloudGate
import Autopilot.PointCloudBake
import Autopilot.PointCloudEdgeBake
import Autopilot.DirectoryTrees
import Autopilot.EfficiencySoundness
import Autopilot.WcagColors
import Autopilot.ScoreReports
import Autopilot.ManagedFiles
import Autopilot.SchemaValidation
import Autopilot.ProviderRuntimeTrust
import Autopilot.ClaudeUsageSections
import Autopilot.ControlStores
import Autopilot.SupervisorProgress
