import CloudOS.Lib.CallProgram
import CloudOS.Lib.VersionedStore
import CloudOS.Kubernetes.Objects
import CloudOS.Operator.TaskJobReconcile
import CloudOS.Operator.TaskJobCluster
import CloudOS.Operator.DependencySafety
import CloudOS.Orchestrator.CloudTaskCluster
import CloudOS.Orchestrator.RetryAccounting
import CloudOS.Orchestrator.RetryEffect
import CloudOS.Lib.History
import CloudOS.Orchestrator.CircuitBreaker
import CloudOS.Orchestrator.Module1Client
import CloudOS.Orchestrator.ClientSession
import CloudOS.Orchestrator.OpenCircuit
import CloudOS.Orchestrator.FailureCounting
import CloudOS.Orchestrator.BusinessRejections
import CloudOS.Orchestrator.ConcurrentCallers
import CloudOS.Lib.Heapq
import CloudOS.TaskScheduler.DeadlockDetector
import CloudOS.TaskScheduler.PriorityQueue
import CloudOS.TaskScheduler.Resources
import CloudOS.TaskScheduler.SchedulerApi
import CloudOS.TaskScheduler.TaskConservation
import CloudOS.TaskScheduler.DependencyGraph
import CloudOS.TaskScheduler.NodeAccounting
import CloudOS.Gateway.RateLimit
import CloudOS.Gateway.BucketReads
import CloudOS.Lib.Rounding
import CloudOS.Gateway.RetryAfter
import CloudOS.Lib.ExpiringCounters
import CloudOS.Lib.Glob
import CloudOS.Lib.TimeWindows
import CloudOS.Orchestrator.RateLimiting
import CloudOS.Orchestrator.SlidingWindow
import CloudOS.Orchestrator.TenantIsolation
import CloudOS.Orchestrator.TenantStats
import CloudOS.Lib.NestedLimits
import CloudOS.Orchestrator.DeniedCalls
import CloudOS.Lib.HttpHandlers
import CloudOS.Orchestrator.HttpAuth
import CloudOS.Orchestrator.ApiRouter
import CloudOS.Orchestrator.ApiGateway
import CloudOS.Orchestrator.LimiterRetry
import CloudOS.Lib.Patterns
import CloudOS.Orchestrator.TaskValidator
import CloudOS.Orchestrator.TaskHandler
import CloudOS.Orchestrator.TaskSchema
import CloudOS.Orchestrator.TaskPages
import CloudOS.Orchestrator.TaskTenants
import CloudOS.Orchestrator.RouteAnswers
import CloudOS.Orchestrator.UnnamedTasks
import CloudOS.Lib.References
import CloudOS.Mock.SchedulerService
import CloudOS.Mock.QueueDepth
import CloudOS.Mock.TerminalStates
import CloudOS.Orchestrator.RetriedSubmission
import CloudOS.Lib.Tables
import CloudOS.Storage.TaskHistory
import CloudOS.Storage.AttemptRows
import CloudOS.Storage.TenantRows
import CloudOS.Lib.Binary64
import CloudOS.Storage.OutcomeKept
import CloudOS.Storage.TenantStatistics
import CloudOS.Lib.Dicts
import CloudOS.Storage.Metrics
import CloudOS.Operator.CycleSafety
import CloudOS.Operator.ReconcileEval
import CloudOS.Lib.StagedRounds
import CloudOS.Operator.FinishedPods
import CloudOS.Operator.DagOutcome
import CloudOS.Operator.AdmittedJobs
import CloudOS.Operator.FailedPhase
import CloudOS.Operator.Settling
import CloudOS.Operator.StatusHistory
import CloudOS.Orchestrator.PodRecovery
import CloudOS.Orchestrator.ReconcileCalls
import CloudOS.Orchestrator.FinalizerCleanup
import CloudOS.Orchestrator.PodLabels
import CloudOS.Lib.Slices
import CloudOS.PubSub.LocalSubscribers
import CloudOS.PubSub.LocalDelivery
import CloudOS.Lib.Channels
import CloudOS.PubSub.OrderedBroadcast
import CloudOS.Scaling.KedaScaler
import CloudOS.Scaling.PublisherLifecycle
import CloudOS.Lib.Intervals
import CloudOS.Scaling.ReplicaCount
import CloudOS.Scaling.HpaDecision
import CloudOS.Lib.LevelQueues
import CloudOS.TaskScheduler.MultilevelQueue
import CloudOS.TaskScheduler.RoundRobin
import CloudOS.TaskScheduler.ReadyTasks
import CloudOS.TaskScheduler.ShortestJobFirst
import CloudOS.TaskScheduler.AllocatorUse
import CloudOS.Gateway.TaskService
import CloudOS.Gateway.StoredTasks
import CloudOS.Gateway.FinalStatus
import CloudOS.Lib.GreedyPasses
import CloudOS.Gateway.WorkConserving
import CloudOS.Worker.Runner
import CloudOS.Worker.OwnReports
import CloudOS.Lib.JsonStrings
import CloudOS.Lib.JsonNumbers
import CloudOS.Lib.JsonText
import CloudOS.Lib.TypedKeys
import CloudOS.Storage.TaskStreams
import CloudOS.Worker.ReadBack
import CloudOS.Orchestrator.Admission
import CloudOS.Lib.Pages
import CloudOS.Lib.NumberedQueries
import CloudOS.Storage.HistoryQuery
import CloudOS.Storage.HistoryPages
import CloudOS.Lib.TopologicalOrder
import CloudOS.TaskScheduler.ExecutionOrder
import CloudOS.Orchestrator.TaskLifecycle
import CloudOS.Orchestrator.TaskMap
import CloudOS.Gateway.AccessControl
import CloudOS.Orchestrator.GatewayDeployment
import CloudOS.Orchestrator.AcceptedTasks
