import KiroProxy.Foundation.Runs
import KiroProxy.Foundation.Streaming
import KiroProxy.Foundation.DelimitedBuffer
import KiroProxy.Config.ApiKeys
import KiroProxy.Proxy.UsageRuns
import KiroProxy.Admin.ApiKeyPatch
import KiroProxy.Proxy.ToolNames
import KiroProxy.Proxy.ToolMarkupDecoding
import KiroProxy.Proxy.ChatAnswer
import KiroProxy.Pool.Cooldowns
import KiroProxy.Pool.Rotation
import KiroProxy.Proxy.HistoryMedia
import KiroProxy.Proxy.ModelNames
import KiroProxy.Proxy.FollowupChains
import KiroProxy.Proxy.AccountWrites
import KiroProxy.Proxy.Truncation
import KiroProxy.Proxy.ToolUseFragments
import KiroProxy.Proxy.ThinkingDeltas
import KiroProxy.Proxy.EventStreamOutput
import KiroProxy.Proxy.EventFraming
import KiroProxy.Proxy.RequestAccounting
import KiroProxy.Proxy.RequestOutput
import KiroProxy.Proxy.ResponsesProtocol
import KiroProxy.Admin.Sessions
import KiroProxy.Config.KeySaves
import KiroProxy.Pool.CooldownSaves
import KiroProxy.Pool.Selection
import KiroProxy.Config.RestoreRuns
import KiroProxy.Config.CredentialWrites
import KiroProxy.Proxy.SingleFlight
import KiroProxy.Proxy.ContinuationText
import KiroProxy.Proxy.ContinuationRuns
import KiroProxy.Proxy.HostedSearchRuns
import KiroProxy.Proxy.ClaudeWebSearchRuns
import KiroProxy.Proxy.ObserveHeatmap
import KiroProxy.Proxy.ModelWarmup
import KiroProxy.Proxy.StreamedAnswers
import KiroProxy.Proxy.ImageLimits
import KiroProxy.Proxy.Documents
import KiroProxy.Proxy.OpenAIToolNames
import KiroProxy.Proxy.InlinedImages
import KiroProxy.Proxy.ToolSearchNames
import KiroProxy.Proxy.SchemaMemory
import KiroProxy.Proxy.SharedPrefixes
import KiroProxy.Proxy.TruncatedHistory
import KiroProxy.Pool.Retry
import KiroProxy.Proxy.RescuedCalls
import KiroProxy.Proxy.RequestPages
import KiroProxy.Proxy.MicrosoftRuns
import KiroProxy.Proxy.SessionAffinity
import KiroProxy.Ui.RepeatWeights
import KiroProxy.Foundation.Grouping
import KiroProxy.Proxy.ChatTurns
import KiroProxy.Proxy.ClaudeTurns
import KiroProxy.Proxy.Broadcaster
import KiroProxy.Foundation.Retention
import KiroProxy.Config.BackupRetention
import KiroProxy.Foundation.SelfDelimiting
import KiroProxy.Proxy.CanonicalValues
import KiroProxy.Proxy.CacheReads
import KiroProxy.Foundation.WorkerPools
import KiroProxy.Foundation.FirstSeen
import KiroProxy.Foundation.SharedFlights
import KiroProxy.Proxy.ModelLists
import KiroProxy.Proxy.ModelSweeps
import KiroProxy.Config.KeyAccounts
