import SensorRelay.Api.Request
import SensorRelay.Api.Server
import SensorRelay.Bench.Client
import SensorRelay.Bench.Environment
import SensorRelay.Bench.Feed
import SensorRelay.Bench.Search
import SensorRelay.Bench.Station
import SensorRelay.Command.Arguments
import SensorRelay.Command.Logging
import SensorRelay.Command.Roles
import SensorRelay.Command.Run
import SensorRelay.Command.Session
import SensorRelay.Command.WriteBack
import SensorRelay.Config.EnvFile
import SensorRelay.Config.Settings
import SensorRelay.Config.Variables
import SensorRelay.DeadLetter
import SensorRelay.DeadLetter.Sink
import SensorRelay.Error
import SensorRelay.Files
import SensorRelay.Inventory.Basic
import SensorRelay.Inventory.Document
import SensorRelay.Json.Basic
import SensorRelay.Json.LaxInteger
import SensorRelay.Json.Parser
import SensorRelay.Json.Printer
import SensorRelay.Main
import SensorRelay.Mqtt.Client
import SensorRelay.Mqtt.Publisher
import SensorRelay.Mqtt.Receiver
import SensorRelay.Net.Authority
import SensorRelay.Net.Host
import SensorRelay.Net.Query
import SensorRelay.Number.Binary64
import SensorRelay.Number.Decimal
import SensorRelay.Number.Numeral
import SensorRelay.Number.Reading
import SensorRelay.Pipeline.Dispatcher
import SensorRelay.Pipeline.Effect
import SensorRelay.Pipeline.Handler
import SensorRelay.Pipeline.Result
import SensorRelay.Program
import SensorRelay.Proofs.Bench.Feed
import SensorRelay.Proofs.Bench.Search
import SensorRelay.Proofs.Inventory.RoundTrip
import SensorRelay.Proofs.Json.Number
import SensorRelay.Proofs.Json.RoundTrip
import SensorRelay.Proofs.Number.Rounding
import SensorRelay.Proofs.Number.Shortest
import SensorRelay.Proofs.Number.Whole
import SensorRelay.Proofs.Pipeline.Relay
import SensorRelay.Proofs.Pipeline.Results
import SensorRelay.Proofs.Pipeline.Stages
import SensorRelay.Proofs.Program.Interleaving
import SensorRelay.Proofs.Program.Run
import SensorRelay.Proofs.Reconcile.Agreement
import SensorRelay.Proofs.Reconcile.Resolving
import SensorRelay.Proofs.Sample.Raw
import SensorRelay.Proofs.Sample.RoundTrip
import SensorRelay.Proofs.Store.Growth
import SensorRelay.Proofs.Store.History
import SensorRelay.Proofs.Store.InOrder
import SensorRelay.Proofs.Store.Integrity
import SensorRelay.Proofs.Store.Paths
import SensorRelay.Proofs.Store.Recording
import SensorRelay.Proofs.Text.Digit
import SensorRelay.Proofs.Text.Encoding
import SensorRelay.Proofs.Time.Calendar
import SensorRelay.Proofs.Time.IsoText
import SensorRelay.Proofs.Topic
import SensorRelay.Proofs.Worker.Pool
import SensorRelay.Reconcile
import SensorRelay.Sample.Basic
import SensorRelay.Sample.Intermediate
import SensorRelay.Sample.Raw
import SensorRelay.Simulator
import SensorRelay.Store.Basic
import SensorRelay.Store.Engine
import SensorRelay.Store.Gateway
import SensorRelay.Store.Insert
import SensorRelay.Store.Query
import SensorRelay.Store.Url
import SensorRelay.Store.Violation
import SensorRelay.Text.Blank
import SensorRelay.Text.Casing
import SensorRelay.Text.Digit
import SensorRelay.Text.Encoding
import SensorRelay.Text.Printable
import SensorRelay.Text.Quoted
import SensorRelay.Text.Split
import SensorRelay.Text.Word
import SensorRelay.Time.Calendar
import SensorRelay.Time.IsoText
import SensorRelay.Time.QueryText
import SensorRelay.Time.Timestamp
import SensorRelay.Topic
import SensorRelay.Worker.Pool
import SensorRelay.Proofs.Reconcile.Alone
import SensorRelay.Proofs.Reconcile.Retry
import SensorRelay.Proofs.Pipeline.Storing
import SensorRelay.Proofs.Pipeline.Windows
import SensorRelay.Proofs.Reconcile.Lookups
import SensorRelay.Proofs.Reconcile.Topics
import SensorRelay.Proofs.Program.Frame
import SensorRelay.Proofs.Pipeline.Exclusive
import SensorRelay.Proofs.Pipeline.Deployment
import SensorRelay.Proofs.Store.AppendOnly
import SensorRelay.Proofs.Store.Listing
import SensorRelay.Proofs.Pipeline.CaptureOrder
import SensorRelay.Proofs.Command.Arguments
import SensorRelay.Proofs.Command.Session
import SensorRelay.Proofs.Command.WriteBack
import SensorRelay.Proofs.Command.Repetition
import SensorRelay.Proofs.Pipeline.Dispatching
import SensorRelay.Proofs.Mqtt.Accounts
import SensorRelay.Proofs.Mqtt.Station
import SensorRelay.Proofs.Store.Inserting
import SensorRelay.Proofs.Sample.RawInverse
import SensorRelay.Proofs.Pipeline.Finality
import SensorRelay.Proofs.Text.Base64
import SensorRelay.Proofs.Pipeline.DeadLetters
import SensorRelay.Proofs.Sample.Canonical
import SensorRelay.Proofs.Store.Hierarchy
import SensorRelay.Proofs.Reconcile.WrittenBack
import SensorRelay.Proofs.Mqtt.Starting
import SensorRelay.Proofs.Store.ColumnText
import SensorRelay.Proofs.Store.Paging
import SensorRelay.Proofs.Command.Subscriptions
import SensorRelay.Proofs.Simulator
import SensorRelay.Proofs.Text.Percent
import SensorRelay.Proofs.Store.Url
import SensorRelay.Proofs.Api.Responses
