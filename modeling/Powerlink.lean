import Powerlink.Lib.SortedMap
import Powerlink.Lib.LittleEndian
import Powerlink.Lib.Runs
import Powerlink.Lib.Notices
import Powerlink.Lib.Rotation
import Powerlink.Lib.RoundRobin
import Powerlink.Lib.Regions
import Powerlink.Lib.Numerals
import Powerlink.Lib.Collect
import Powerlink.Lib.Slices
import Powerlink.Types
import Powerlink.Od.Value
import Powerlink.Od.Encoding
import Powerlink.Od.Dictionary
import Powerlink.Od.Lifecycle
import Powerlink.Od.BoundedHistory
import Powerlink.Od.ErrorHistory
import Powerlink.Od.Typing
import Powerlink.Od.Memory
import Powerlink.Od.Persistence
import Powerlink.Nmt.States
import Powerlink.Frame.Frames
import Powerlink.Frame.Codec
import Powerlink.Frame.RoundTrip
import Powerlink.Sdo.Sequence
import Powerlink.Sdo.Command
import Powerlink.Sdo.Transfer
import Powerlink.Sdo.Handlers
import Powerlink.Sdo.SequenceHandler
import Powerlink.Sdo.Server
import Powerlink.Sdo.ClientConnection
import Powerlink.Sdo.ClientProgress
import Powerlink.Sdo.Segments
import Powerlink.Sdo.Reassembly
import Powerlink.Sdo.ConciseDcf
import Powerlink.Sdo.Verdict
import Powerlink.Sdo.Requests
import Powerlink.Sdo.Responses
import Powerlink.Sdo.Duplicates
import Powerlink.Sdo.Steps
import Powerlink.Sdo.Timeouts
import Powerlink.Sdo.Retransmission
import Powerlink.Sdo.Download
import Powerlink.Sdo.Access
import Powerlink.Sdo.Handshake
import Powerlink.Sdo.Table
import Powerlink.Sdo.Isolation
import Powerlink.Sdo.StoreCommands
import Powerlink.Sdo.Window
import Powerlink.Sdo.Conversation
import Powerlink.Frame.Dll
import Powerlink.Frame.DllCs
import Powerlink.Nmt.StateMachine
import Powerlink.Nmt.CnStateMachine
import Powerlink.Nmt.Resets
import Powerlink.Sdo.Embedded
import Powerlink.Sdo.Writes
import Powerlink.Sdo.EmbeddedRepeats
import Powerlink.Sdo.EmbeddedExchange
import Powerlink.Sdo.ClientManager
import Powerlink.Sdo.ClientPanics
import Powerlink.Sdo.Transports
import Powerlink.Sdo.Outgoing
import Powerlink.Pdo.Handler
import Powerlink.Mn.State
import Powerlink.Mn.Config
import Powerlink.Mn.NodeLists
import Powerlink.Mn.Payload
import Powerlink.Mn.Validation
import Powerlink.Mn.Scheduler
import Powerlink.Mn.Errors
import Powerlink.Mn.Cycle
import Powerlink.Mn.Events
import Powerlink.Mn.Node
import Powerlink.Mn.Ways
import Powerlink.Mn.Polling
import Powerlink.Mn.Touches
import Powerlink.Mn.Effects
import Powerlink.Mn.Steps
import Powerlink.Mn.Runs
import Powerlink.Mn.Deadlines
import Powerlink.Mn.CycleStarts
import Powerlink.Mn.PollOrder
import Powerlink.Mn.Boot
import Powerlink.Mn.BootOrder
import Powerlink.Mn.Identification
import Powerlink.Mn.IdentifyOrder
import Powerlink.Mn.AsyncGrants
import Powerlink.Mn.Branches
import Powerlink.Mn.Queues
import Powerlink.Mn.Requests
import Powerlink.Mn.Api
import Powerlink.Mn.Commands
import Powerlink.Mn.Origins
import Powerlink.Mn.BusAccess
import Powerlink.Mn.Publishing
import Powerlink.Mn.SdoFrames
import Powerlink.Mn.Outgoing
import Powerlink.Mn.Losses
import Powerlink.Cn.State
import Powerlink.Cn.Payload
import Powerlink.Cn.Events
import Powerlink.Cn.Signals
import Powerlink.Cn.BootGating
import Powerlink.Cn.Node
import Powerlink.Cn.Runs
import Powerlink.Cn.Supervision
import Powerlink.Cn.SocTimeouts
import Powerlink.Cn.Notices
import Powerlink.Cn.Moves
import Powerlink.Mn.Notices
import Powerlink.Node.Wakeups
import Powerlink.Node.StartNodes
import Powerlink.Node.StateCommands
import Powerlink.Node.Notices
import Powerlink.Node.ProcessData
import Powerlink.Xdc.Types
import Powerlink.Xdc.Model
import Powerlink.Xdc.Resolver
import Powerlink.Xdc.Converter
import Powerlink.Xdc.Builder
import Powerlink.Xdc.Saved
import Powerlink.Xdc.Kept
import Powerlink.Xdc.StorageMap
import Powerlink.Xdc.Rights
import Powerlink.Lib.Buckets
import Powerlink.Frame.ErrorCounters
import Powerlink.Cn.EmergencyQueue
import Powerlink.Sdo.MultipleParams
import Powerlink.Sdo.EmbeddedData
import Powerlink.Sdo.NamedTransfers
import Powerlink.Sdo.ByName
import Powerlink.Node.Consumption
import Powerlink.Od.Panics
import Powerlink.Node.PdoChecked
import Powerlink.Node.PdoPanics
import Powerlink.Cn.PollAnswers
import Powerlink.Cn.Heartbeats
import Powerlink.Cn.HeartbeatAlarms
import Powerlink.Lib.Alarms
import Powerlink.Cn.ErrorLevels
import Powerlink.Cn.ErrorBit
import Powerlink.Cn.ErrorClearing
import Powerlink.Cn.Telegrams
import Powerlink.Cn.TelegramCounts
import Powerlink.Cn.IdentPayload
import Powerlink.Cn.StatusPayload
import Powerlink.Xdc.ArraySizes
import Powerlink.Xdc.IntegerTexts
import Powerlink.Xdc.ValueModes
import Powerlink.Node.Bus
import Powerlink.Cn.Identity
import Powerlink.Node.Identities
