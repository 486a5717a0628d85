import EspWebChat.Interruptible
import EspWebChat.CircularBuffer
import EspWebChat.ResumableFeeds
import EspWebChat.JsonTree
import EspWebChat.ClientSlots
import EspWebChat.ServerWorld
import EspWebChat.MessageIdStore
import EspWebChat.Sessions
import EspWebChat.History
import EspWebChat.JsonGate
import EspWebChat.Protocol
import EspWebChat.WebSocketServer
import EspWebChat.SlotSteps
import EspWebChat.ServerSteps
import EspWebChat.SessionSteps
import EspWebChat.HistorySteps
import EspWebChat.TargetFields
import EspWebChat.ProtocolSteps
import EspWebChat.NodeSteps
import EspWebChat.MessageIds
import EspWebChat.SlotInvariant
import EspWebChat.Deliveries
import EspWebChat.RecoveryBoundary
import EspWebChat.SenderAuthenticity
import EspWebChat.HistoryRelay
import EspWebChat.JsValues
import EspWebChat.ClientMessages
import EspWebChat.BrowserWorld
import EspWebChat.ClientStore
import EspWebChat.ClientSocket
import EspWebChat.StoreSteps
import EspWebChat.LinkStates
import EspWebChat.PageSteps
import EspWebChat.StartSteps
import EspWebChat.TabRuns
import EspWebChat.AlwaysReconnecting
import EspWebChat.StaleSockets
import EspWebChat.JsonText
import EspWebChat.ResponseSize
import EspWebChat.ResponseLimit
import EspWebChat.WrittenMessages
import EspWebChat.ReplayLaw
import EspWebChat.ReplayCursor
import EspWebChat.Utf8Texts
import EspWebChat.JsonGrammar
import EspWebChat.GateLanguage
import EspWebChat.GateSafety
import EspWebChat.RingStore
import EspWebChat.ReplayGaps
import EspWebChat.FrameReadings
import EspWebChat.ConnectionFeeds
import EspWebChat.ServedEvents
import EspWebChat.JoinReplays
import EspWebChat.AdmittedMessages
import EspWebChat.Agreement
import EspWebChat.CharArrays
import EspWebChat.DeviceSettings
import EspWebChat.SettingsHandler
import EspWebChat.SettingsSteps
import EspWebChat.SettingsRuns
import EspWebChat.SettingsPage
import EspWebChat.OutgoingQueue
import EspWebChat.OutboxSteps
import EspWebChat.OutboxRuns
import EspWebChat.OutgoingMessages
import EspWebChat.ClockMajority
import EspWebChat.SocketTransport
import EspWebChat.PresenceRounds
import EspWebChat.FaithfulCopies
import EspWebChat.StoreRetention
import EspWebChat.LocalStore
import EspWebChat.TabFeeds
import EspWebChat.SynchronizedRuns
import EspWebChat.RecoveryMerge
import EspWebChat.Provenance
import EspWebChat.Registers
import EspWebChat.ConversationSummaries
import EspWebChat.TimerOwners
import EspWebChat.ReleasedPages
import EspWebChat.ReleasedRuns
import EspWebChat.HeartbeatSweeps
import EspWebChat.HeartbeatLog
import EspWebChat.HeartbeatTimeouts
import EspWebChat.StoreEffects
import EspWebChat.ConversationKinds
import EspWebChat.ConversationRuns
import EspWebChat.StoreRules
import EspWebChat.ConversationFields
import EspWebChat.ComposedFrames
import EspWebChat.ComposedRuns
import EspWebChat.ReaderAgreement
import EspWebChat.DatagramReaders
import EspWebChat.DnsMessages
import EspWebChat.DnsServer
import EspWebChat.FailedSaves
import EspWebChat.GoodReplies
import EspWebChat.SparedReplies
import EspWebChat.SettledPresence
import EspWebChat.QuietPresence
import EspWebChat.PresenceShown
import EspWebChat.CoalescedWork
import EspWebChat.TaskQueue
import EspWebChat.LinkActs
import EspWebChat.ConnectionRuns
import EspWebChat.ConnectionPacing
import EspWebChat.ConversationFiling
import EspWebChat.ConversationViews
import EspWebChat.ComposedViews
import EspWebChat.ResponsesSent
import EspWebChat.RecoveryPassage
import EspWebChat.RecoveryExchange
import EspWebChat.AccessPoint
import EspWebChat.NumberMaps
import EspWebChat.CjsonPrinter
