import LittleOrgans.Library.Table
import LittleOrgans.Core.Lifecycle
import LittleOrgans.Core.Session
import LittleOrgans.Store.Database
import LittleOrgans.Store.Mail
import LittleOrgans.Store.RuntimeEvents
import LittleOrgans.Store.Lifecycles
import LittleOrgans.Store.SpawnIntents
import LittleOrgans.Daemon.Conversions
import LittleOrgans.Session.Observers
import LittleOrgans.Session.ObserverAgreement
import LittleOrgans.Session.Messaging
import LittleOrgans.Session.UnreadMail
import LittleOrgans.Library.Pool
import LittleOrgans.Concurrency.Operations
import LittleOrgans.Concurrency.RuntimePrograms
import LittleOrgans.Concurrency.DaemonMachine
import LittleOrgans.Concurrency.Knowledge
import LittleOrgans.Concurrency.Conformance
import LittleOrgans.Concurrency.SpawnConformance
import LittleOrgans.Concurrency.SessionConformance
import LittleOrgans.Concurrency.Effects
import LittleOrgans.Concurrency.LifecycleTerminality
import LittleOrgans.Concurrency.Standing
import LittleOrgans.Concurrency.IntentAgreement
import LittleOrgans.Library.Lines
import LittleOrgans.Library.Stateful
import LittleOrgans.Runtime.EventLog
import LittleOrgans.Runtime.EventLogAppend
import LittleOrgans.Runtime.LostRecords
import LittleOrgans.Library.StepSystem
import LittleOrgans.Runtime.EventLogRecovery
import LittleOrgans.Runtime.EventLogHistory
import LittleOrgans.Runtime.EventLogConsumers
import LittleOrgans.Store.ConcurrentReads
import LittleOrgans.Store.IdempotentInserts
import LittleOrgans.Store.AtomicMail
import LittleOrgans.Core.Selector
import LittleOrgans.Store.Selection
import LittleOrgans.Session.MailViews
import LittleOrgans.Session.MailHandlers
import LittleOrgans.Store.IntentCodec
import LittleOrgans.Store.MailWrites
import LittleOrgans.Session.MailRendering
import LittleOrgans.Session.MailReadErrors
import LittleOrgans.Session.MailTail
import LittleOrgans.Session.SendRetry
import LittleOrgans.Concurrency.TerminalRecorders
import LittleOrgans.Concurrency.ShimProgress
import LittleOrgans.Core.SelectorScope
import LittleOrgans.Store.SelectorAgreement
import LittleOrgans.Concurrency.KillSignals
import LittleOrgans.Session.CircuitBreaker
import LittleOrgans.Session.ReferentialIntegrity
import LittleOrgans.Session.StoreMoves
import LittleOrgans.Session.StoreRequests
import LittleOrgans.Concurrency.ReadyPaths
import LittleOrgans.Concurrency.Probes
import LittleOrgans.Concurrency.RejectedSpawns
import LittleOrgans.Concurrency.ReportedExits
import LittleOrgans.Concurrency.DaemonTasks
import LittleOrgans.Concurrency.PaneOccupancy
import LittleOrgans.Concurrency.ShimDuties
import LittleOrgans.Concurrency.TrackedShims
import LittleOrgans.Concurrency.ShimResends
import LittleOrgans.Core.Capture
import LittleOrgans.Runtime.MountOrder
import LittleOrgans.Runtime.MountResolution
import LittleOrgans.Runtime.SpawnPreflight
import LittleOrgans.Runtime.MountArguments
import LittleOrgans.Store.EventReplay
import LittleOrgans.Store.NamespaceDeletion
import LittleOrgans.Store.ReturnedMail
import LittleOrgans.Session.MailTableRuns
import LittleOrgans.Concurrency.ReconcileSweeps
import LittleOrgans.Session.ReaperPasses
import LittleOrgans.Runtime.NudgeProtocol
import LittleOrgans.Concurrency.FailedSpawns
import LittleOrgans.Core.LabelText
import LittleOrgans.Core.SelectorRoundTrip
import LittleOrgans.Daemon.LaunchEnvironment
import LittleOrgans.Library.Instant
import LittleOrgans.Library.Numbers
import LittleOrgans.Runtime.ReconcileDeadline
import LittleOrgans.Session.ShortIds
import LittleOrgans.Store.LabelEdits
import LittleOrgans.Runtime.WireReaders
import LittleOrgans.Concurrency.GracePeriods
import LittleOrgans.Session.TimeArithmetic
import LittleOrgans.Core.LifecycleText
import LittleOrgans.Store.LifecycleCodec
import LittleOrgans.Library.Sorting
import LittleOrgans.Store.SessionCodec
import LittleOrgans.Daemon.SpawnHandler
import LittleOrgans.Concurrency.EventKeys
import LittleOrgans.Concurrency.SpawnRuns
import LittleOrgans.Concurrency.SpawnRecovery
import LittleOrgans.Runtime.ContainerPaths
import LittleOrgans.Library.TwoMonitors
import LittleOrgans.Concurrency.KnownFacts
import LittleOrgans.Concurrency.LaunchSpecs
import LittleOrgans.Concurrency.LaunchHolders
import LittleOrgans.Concurrency.UntrackedRuntimes
import LittleOrgans.Concurrency.EndRecords
import LittleOrgans.Concurrency.EndTraces
import LittleOrgans.Concurrency.EventConsumption
import LittleOrgans.Concurrency.ZombieSessions
import LittleOrgans.Library.Mediation
import LittleOrgans.Core.Json
import LittleOrgans.Library.Report
import LittleOrgans.Core.JsonRpc
import LittleOrgans.Core.AgentConfigPath
import LittleOrgans.Runtime.MountText
import LittleOrgans.Identity.Authorization
import LittleOrgans.Identity.Decisions
import LittleOrgans.Handler.Requests
import LittleOrgans.Handler.Operations
import LittleOrgans.Handler.Sessions
import LittleOrgans.Handler.Mail
import LittleOrgans.Handler.Spawn
import LittleOrgans.Handler.Direct
import LittleOrgans.Handler.Tools
import LittleOrgans.Handler.Daemon
import LittleOrgans.Store.SessionOrigin
import LittleOrgans.Handler.Policy
import LittleOrgans.Handler.Acts
import LittleOrgans.Handler.SessionActs
import LittleOrgans.Handler.MailActs
import LittleOrgans.Handler.SpawnActs
import LittleOrgans.Handler.DaemonActs
import LittleOrgans.Handler.Provenance
import LittleOrgans.Handler.Registry
import LittleOrgans.Handler.CompleteMediation
import LittleOrgans.Library.TwoPolicies
import LittleOrgans.Handler.Confinement
import LittleOrgans.Handler.ConfinedMail
import LittleOrgans.Handler.ScopedTools
import LittleOrgans.Handler.Answers
import LittleOrgans.Library.SortedMap
import LittleOrgans.Core.JsonValue
import LittleOrgans.Identity.PrincipalCodec
import LittleOrgans.Identity.AuditCodec
import LittleOrgans.Identity.AuditLog
import LittleOrgans.Handler.AuditTrail
import LittleOrgans.ShimProcess.Program
import LittleOrgans.ShimProcess.Conformance
import LittleOrgans.ShimProcess.Process
