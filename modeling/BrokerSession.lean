import BrokerSession.Bytes
import BrokerSession.Chores
import BrokerSession.CommandLine
import BrokerSession.Config
import BrokerSession.Config.Check
import BrokerSession.Config.Decode
import BrokerSession.Config.Encode
import BrokerSession.Config.Error
import BrokerSession.Config.Source
import BrokerSession.Data.Datum
import BrokerSession.Data.Decode
import BrokerSession.Directory
import BrokerSession.Engine
import BrokerSession.Event
import BrokerSession.Files
import BrokerSession.Log
import BrokerSession.Log.Filter
import BrokerSession.Log.Line
import BrokerSession.Loopback
import BrokerSession.Main
import BrokerSession.Message
import BrokerSession.Network
import BrokerSession.Network.Bench
import BrokerSession.Network.Dial
import BrokerSession.Network.Loop
import BrokerSession.Network.PacketIds
import BrokerSession.Network.Settings
import BrokerSession.Number.Binary64
import BrokerSession.Packet
import BrokerSession.Program
import BrokerSession.Program.Configuration
import BrokerSession.Program.Errands
import BrokerSession.Program.Records
import BrokerSession.Program.Transcript
import BrokerSession.Proofs.Session.Moves
import BrokerSession.Qos
import BrokerSession.Reason
import BrokerSession.Retry
import BrokerSession.Schedule
import BrokerSession.Session
import BrokerSession.Session.Building
import BrokerSession.Session.Journal
import BrokerSession.Session.Listener
import BrokerSession.Session.Phase
import BrokerSession.Session.Script
import BrokerSession.Session.Task
import BrokerSession.Setting
import BrokerSession.Status
import BrokerSession.Switchboard
import BrokerSession.Text.Blank
import BrokerSession.Text.Hex
import BrokerSession.Text.Quoted
import BrokerSession.Toml.Document
import BrokerSession.Toml.Printer
import BrokerSession.Toml.Scalar
import BrokerSession.Topic
import BrokerSession.Topic.Matching
import BrokerSession.Url
import BrokerSession.Url.Ipv6
import BrokerSession.Url.Percent
import BrokerSession.WorkQueue
import BrokerSession.Proofs.Histories
import BrokerSession.Proofs.Session.Worker
import BrokerSession.Proofs.Session.Orderly
import BrokerSession.Proofs.Loopback
import BrokerSession.Proofs.Session.Loopback
import BrokerSession.Proofs.Session.Rest
import BrokerSession.Proofs.Loopback.Candid
import BrokerSession.Proofs.Session.Agreement
import BrokerSession.Proofs.Session.Recording
import BrokerSession.Proofs.Session.Serialization
import BrokerSession.Proofs.Network.Dial
import BrokerSession.Proofs.Session.News
import BrokerSession.Proofs.Session.Parting
import BrokerSession.Proofs.Session.Tickets
import BrokerSession.Proofs.Session.Refusal
import BrokerSession.Proofs.Session.Waiting
import BrokerSession.Proofs.Loopback.Replies
import BrokerSession.Proofs.Session.Replay
import BrokerSession.Proofs.Session.Schedules
import BrokerSession.Proofs.Session.Routing
import BrokerSession.Proofs.Session.Messages
import BrokerSession.Proofs.Session.Callers
import BrokerSession.Proofs.Session.Accesses
import BrokerSession.Proofs.Session.Overtaking
import BrokerSession.Proofs.Session.Settling
import BrokerSession.Proofs.Session.Disconnects
import BrokerSession.Proofs.Switchboard
import BrokerSession.Proofs.Network.Traffic
import BrokerSession.Proofs.Network.Turns
import BrokerSession.Proofs.Network.Retrying
import BrokerSession.Proofs.Network.Policy
import BrokerSession.Proofs.Session.Retrying
import BrokerSession.Proofs.Network.Handshakes
import BrokerSession.Proofs.Endpoints
import BrokerSession.Proofs.Offline
import BrokerSession.Proofs.Network.FirstConnect
import BrokerSession.Proofs.Session.Building
import BrokerSession.Proofs.Schedule
import BrokerSession.Proofs.Chores
import BrokerSession.Proofs.Chores.Calls
import BrokerSession.Proofs.Loopback.Deliveries
import BrokerSession.Proofs.Network.PacketSize
import BrokerSession.Proofs.Session.Registration
import BrokerSession.Proofs.Toml
import BrokerSession.Proofs.Secrets
import BrokerSession.Proofs.Loopback.Drained
import BrokerSession.Proofs.Loopback.Emissions
import BrokerSession.Proofs.Session.Progress
import BrokerSession.Proofs.Session.LastJob
import BrokerSession.Proofs.Session.Farewell
import BrokerSession.Proofs.MessageIds
import BrokerSession.Proofs.Session.Listening
import BrokerSession.Proofs.RoundTrip
import BrokerSession.Proofs.Network.ConnectFields
import BrokerSession.Proofs.Requirement
import BrokerSession.Proofs.Topic
import BrokerSession.Proofs.Topic.Matching
import BrokerSession.Proofs.Validation
import BrokerSession.Proofs.Backoff
import BrokerSession.Proofs.Url.Percent
import BrokerSession.Proofs.Url
import BrokerSession.Proofs.Files
import BrokerSession.Proofs.Certificates
import BrokerSession.Proofs.Certificates.Lines
import BrokerSession.Proofs.Certificates.Vouching
import BrokerSession.Proofs.Session.Translation
import BrokerSession.Proofs.Session.Deserted
import BrokerSession.Proofs.Loopback.Starting
import BrokerSession.Proofs.Payload
import BrokerSession.Proofs.Subscriber
import BrokerSession.Proofs.Network.Dialer
