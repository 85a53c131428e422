import IrohWebRtc.Core.Connection
import IrohWebRtc.Core.Coordinator
import IrohWebRtc.Core.Endpoint
import IrohWebRtc.Facade.Handshake
import IrohWebRtc.Facade.Native
import IrohWebRtc.Browser.AcceptState
import IrohWebRtc.Browser.SessionState
import IrohWebRtc.Lib.Table
import IrohWebRtc.Browser.Node
import IrohWebRtc.Browser.NodeConnections
import IrohWebRtc.Browser.NodeSteps
import IrohWebRtc.Browser.SessionRuns
import IrohWebRtc.Browser.Admission
import IrohWebRtc.Browser.TerminalSessions
import IrohWebRtc.Browser.AdvertisedAddrs
import IrohWebRtc.Browser.ConnectionSteps
import IrohWebRtc.Browser.IntentSafety
import IrohWebRtc.Browser.NodeClose
import IrohWebRtc.Browser.AcceptQueues
import IrohWebRtc.Browser.SignalFanOut
import IrohWebRtc.Browser.EndpointRestart
import IrohWebRtc.Browser.DialRuntime
import IrohWebRtc.Browser.DialCompletions
import IrohWebRtc.Browser.DialSteps
import IrohWebRtc.Browser.StrandedDials
import IrohWebRtc.Browser.DialFallback
import IrohWebRtc.Core.Outbound
import IrohWebRtc.Core.OutboundWakeups
import IrohWebRtc.Facade.BootstrapBinding
import IrohWebRtc.Native.DataChannels
import IrohWebRtc.Chat.Room
import IrohWebRtc.Chat.Authenticity
import IrohWebRtc.Chat.Replay
import IrohWebRtc.Chat.Gossip
import IrohWebRtc.Chat.JoinedTopics
import IrohWebRtc.Lib.Ledger
import IrohWebRtc.Core.LocalIce
import IrohWebRtc.Core.ReceiveQueue
import IrohWebRtc.Core.OutboundQueues
import IrohWebRtc.Browser.AcceptorRuns
import IrohWebRtc.Browser.SignalRouting
import IrohWebRtc.Browser.AdmissionAtomicity
import IrohWebRtc.Core.Config
import IrohWebRtc.Facade.FrameLimits
import IrohWebRtc.Core.Transport
import IrohWebRtc.Core.Backpressure
import IrohWebRtc.Native.PumpWakeups
import IrohWebRtc.Facade.SessionOwnership
import IrohWebRtc.Core.DialIds
import IrohWebRtc.Browser.StreamClose
import IrohWebRtc.Lib.Json
import IrohWebRtc.Lib.Chunks
import IrohWebRtc.Core.SignalCodec
import IrohWebRtc.Core.Bootstrap
import IrohWebRtc.Chat.WireLimits
import IrohWebRtc.Chat.SyncAnswers
import IrohWebRtc.Chat.Departures
import IrohWebRtc.Chat.BackupImport
import IrohWebRtc.Chat.Reducer
import IrohWebRtc.Lib.PrefixCode
import IrohWebRtc.Lib.Text
import IrohWebRtc.Chat.Invite
import IrohWebRtc.Core.OutboundDepth
import IrohWebRtc.Facade.DataPath
import IrohWebRtc.Facade.DataPathDelivery
import IrohWebRtc.Chat.Profile
import IrohWebRtc.Chat.Tab
import IrohWebRtc.Chat.SignOn
import IrohWebRtc.Chat.EndToEnd
import IrohWebRtc.Chat.WireFormat
import IrohWebRtc.Chat.Delivery
import IrohWebRtc.Browser.PumpWaits
import IrohWebRtc.Lib.Rendezvous
import IrohWebRtc.Browser.RtcRegistry
