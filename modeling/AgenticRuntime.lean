import AgenticRuntime.Engine.TimeoutRecovery
import AgenticRuntime.Engine.ContextAgreement
import AgenticRuntime.Models.CounterMerge
import AgenticRuntime.Models.SaveTask
import AgenticRuntime.Server.DeliveryOrder
import AgenticRuntime.Server.TenantIsolation
import AgenticRuntime.Engine.CheckpointRoundTrip
import AgenticRuntime.Engine.StepAgreement
import AgenticRuntime.Server.ReplayAgreement
import AgenticRuntime.Models.CircuitBreaker
import AgenticRuntime.Server.StepPairing
import AgenticRuntime.Langchain.SavedGraph
import AgenticRuntime.Engine.NativeResume
import AgenticRuntime.Agents.SingleExecution
import AgenticRuntime.Server.StreamMerge
import AgenticRuntime.Langchain.ParallelNodes
import AgenticRuntime.Evals.Ledger.BalanceRuns
import AgenticRuntime.Server.AuditRuns
import AgenticRuntime.Mcp.Correlation
import AgenticRuntime.Mcp.LiveConnections
import AgenticRuntime.Server.StreamEnd
import AgenticRuntime.Server.RetainedState
import AgenticRuntime.Models.CallCounters
import AgenticRuntime.Ui.LiveConvergence
import AgenticRuntime.Settings.StoreConsistency
import AgenticRuntime.Engine.LoopBudgets
import AgenticRuntime.Engine.ExecutionOrder
import AgenticRuntime.Engine.ScopedReads
import AgenticRuntime.Engine.PathAgreement
import AgenticRuntime.Evals.Ledger.CochranQ
import AgenticRuntime.Evals.Ledger.HolmCorrection
import AgenticRuntime.Models.CrossTierRetry
import AgenticRuntime.Models.RateLimitRuns
import AgenticRuntime.Models.DurationText
import AgenticRuntime.ArtifactOverlay
import AgenticRuntime.Scoring.CriticalFloors
import AgenticRuntime.Engine.VerifiedResult
import AgenticRuntime.Server.LockoutExact
import AgenticRuntime.Models.CachedAnswers
import AgenticRuntime.Workflows.RunListing
import AgenticRuntime.Server.StreamArtifacts
import AgenticRuntime.Engine.WorkflowShapes
import AgenticRuntime.Mcp.ToolDiscovery
import AgenticRuntime.Models.HealthObservations
import AgenticRuntime.Evals.StreamingRunners
import AgenticRuntime.Scoring.ResearchGate
import AgenticRuntime.Server.LocalDatasets
import AgenticRuntime.Scoring.Judge
import AgenticRuntime.Ui.PackDraft
