import InlineIps.Library.Table
import InlineIps.Library.Throttle
import InlineIps.Library.GuardedTree
import InlineIps.Library.CrashTriple
import InlineIps.Library.Machine
import InlineIps.Library.Ranking
import InlineIps.Library.Pipeline
import InlineIps.Library.ReqRep
import InlineIps.Library.BucketSweep
import InlineIps.Library.LazyExpiry
import InlineIps.Library.TumblingWindow
import InlineIps.Library.Fallible
import InlineIps.Library.Json
import InlineIps.Library.FloatSign
import InlineIps.Library.SampleStatistics
import InlineIps.Library.AbsolutePath
import InlineIps.Library.LineFraming
import InlineIps.Library.DottedDecimal
import InlineIps.Library.MachineInt
import InlineIps.Library.Interruptible
import InlineIps.Common.FiveTuple
import InlineIps.Common.Nlohmann
import InlineIps.Common.FileSystem
import InlineIps.Config.Config
import InlineIps.Config.ParseConfig
import InlineIps.Capture.PacketParser
import InlineIps.Capture.PacketGrammar
import InlineIps.Flow.Flow
import InlineIps.Flow.FlowManager
import InlineIps.Flow.FlowTable
import InlineIps.Flow.History
import InlineIps.Flow.SourceWindow
import InlineIps.Flow.Conversation
import InlineIps.Flow.Cap
import InlineIps.Flow.LateCleanup
import InlineIps.Flow.Representation
import InlineIps.Flow.Incarnations
import InlineIps.Flow.Isolation
import InlineIps.Flow.Sweep
import InlineIps.Flow.Statistics
import InlineIps.Flow.Endings
import InlineIps.Flow.ExactStatistics
import InlineIps.Detect.RuleEngine
import InlineIps.Response.BlockList
import InlineIps.Response.Whitelist
import InlineIps.Ai.FlowRecord
import InlineIps.Ai.FeatureConsistency
import InlineIps.Ai.AiProtocol
import InlineIps.Ai.AsyncAiClient
import InlineIps.Ai.AiDecisions
import InlineIps.Ai.AiOutcomes
import InlineIps.Ai.AiAnswers
import InlineIps.Ai.ReqSocket
import InlineIps.Ml.PythonValues
import InlineIps.Ml.OnlineServer
import InlineIps.Ml.Artifacts
import InlineIps.Ai.Contract
import InlineIps.Capture.PacketCapture
import InlineIps.Capture.Parts
import InlineIps.Capture.Calls
import InlineIps.Capture.Verdict
import InlineIps.Capture.PacketSource
import InlineIps.Capture.QueueVerdicts
import InlineIps.Capture.SourceStop
import InlineIps.Capture.Selection
import InlineIps.Capture.EndReasons
import InlineIps.Capture.Detection
import InlineIps.Capture.AiBlocking
import InlineIps.Capture.Submissions
import InlineIps.Capture.Release
import InlineIps.Capture.Isolation
import InlineIps.Capture.FirewallQueueGuard
import InlineIps.Capture.FirewallCommands
import InlineIps.Capture.FirewallRecovery
import InlineIps.Capture.FirewallTransactions
import InlineIps.Capture.FirewallOwnership
import InlineIps.Capture.FirewallInterception
import InlineIps.Capture.FirewallRetries
import InlineIps.Capture.SensorLife
import InlineIps.App.AiPath
import InlineIps.App.AiVerdicts
import InlineIps.App.AiService
import InlineIps.App.SecurePaths
import InlineIps.Ml.ArtifactPaths
import InlineIps.App.TrustedPaths
import InlineIps.App.AiProcessSupervisor
import InlineIps.Config.DerivedArithmetic
import InlineIps.App.SupervisorMoves
import InlineIps.App.ChildOutput
import InlineIps.App.ReadyLine
import InlineIps.App.RestartPolicy
import InlineIps.App.ApplicationController
import InlineIps.App.Sessions
import InlineIps.Ui.TrayController
import InlineIps.App.TrayState
import InlineIps.App.Application
import InlineIps.App.Shutdown
import InlineIps.App.ExitCode
import InlineIps.App.ShutdownProgress
import InlineIps.App.Tray
import InlineIps.Ml.Autoencoder
import InlineIps.Ml.LoadArtifacts
import InlineIps.Ml.SavedArtifacts
import InlineIps.App.Handshake
