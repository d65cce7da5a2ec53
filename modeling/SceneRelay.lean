import SceneRelay.Binary64.Shortest
import SceneRelay.Json.Parser
import SceneRelay.Json.Printer
import SceneRelay.Schema.Document
import SceneRelay.Schema.Violation
import SceneRelay.Schema.Load
import SceneRelay.Schema.Shipped
import SceneRelay.Text.Blank
import SceneRelay.Toml.Parser
import SceneRelay.Config.Load
import SceneRelay.Config.Printer
import SceneRelay.Tls.Handshake
import SceneRelay.Topic
import SceneRelay.Scene
import SceneRelay.Camera
import SceneRelay.Backoff
import SceneRelay.Backoff.Duration
import SceneRelay.Subscriptions
import SceneRelay.Counters
import SceneRelay.Connection.Transition
import SceneRelay.Packet
import SceneRelay.Router
import SceneRelay.Callback
import SceneRelay.Link.Tasks
import SceneRelay.Relay.Connection
import SceneRelay.Relay.Simulation
import SceneRelay.Health.Server
import SceneRelay.CommandLine
import SceneRelay.Service
import SceneRelay.Program
import SceneRelay.Main
import SceneRelay.Proofs.Link.Run
import SceneRelay.Proofs.Link.Record
import SceneRelay.Proofs.Link.Ledger
import SceneRelay.Proofs.Link.Phase
import SceneRelay.Proofs.Link.Setting
import SceneRelay.Proofs.Link.Episodes
import SceneRelay.Proofs.Link.Filters
import SceneRelay.Proofs.Link.Closed
import SceneRelay.Proofs.Link.Stopping
import SceneRelay.Proofs.Link.Shutdown
import SceneRelay.Proofs.Router.Gates
import SceneRelay.Proofs.Router.Pipeline
import SceneRelay.Proofs.Schema.CameraGate
import SceneRelay.Proofs.Json.Number
import SceneRelay.Proofs.Json.Quoted
import SceneRelay.Proofs.Json.RoundTrip
import SceneRelay.Proofs.Schema.FalseSchemas
import SceneRelay.Proofs.Scene
import SceneRelay.Proofs.Toml.Quoted
import SceneRelay.Proofs.Toml.Document
import SceneRelay.Proofs.Config.RoundTrip
import SceneRelay.Proofs.Toml.Tables
import SceneRelay.Proofs.Link.Shifts
import SceneRelay.Proofs.Link.Attempts
import SceneRelay.Proofs.Link.Subscribed
import SceneRelay.Proofs.Link.Readiness
import SceneRelay.Proofs.Link.Renewal
import SceneRelay.Proofs.Link.Balance
import SceneRelay.Proofs.Router.Validation
import SceneRelay.Proofs.Config.Flags
import SceneRelay.Proofs.Health.Port
import SceneRelay.Proofs.Backoff
import SceneRelay.Proofs.Config.Layers
import SceneRelay.Proofs.Camera
import SceneRelay.Proofs.Router.Lifecycle
import SceneRelay.Proofs.Broker
import SceneRelay.Proofs.Text.Blank
import SceneRelay.Proofs.Health.Server
import SceneRelay.Proofs.Subscriptions.Runs
