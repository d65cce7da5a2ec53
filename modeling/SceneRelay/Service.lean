import SceneRelay.Health.Server
import SceneRelay.Log.Filter
import SceneRelay.Relay.Connection

/-! The service as a whole: a relay over a link to the broker, with its probes beside it. -/
namespace SceneRelay

/-- A log record and the part of the program that wrote it. -/
structure Entry where
  target : String
  record : LogRecord
  deriving DecidableEq, Repr

inductive Signal where
  | interrupt
  | terminate
  deriving DecidableEq, Repr

def Signal.name : Signal → String
  | interrupt => "SIGINT"
  | terminate => "SIGTERM"

/-- Why the service does not start. -/
inductive StartError where
  | broker (e : BrokerError)
  | portTaken
  deriving DecidableEq, Repr

def StartError.message : StartError → String
  | broker e => s!"MQTT error: {e.message}"
  | portTaken =>
    "Healthcheck server error: error creating server listener: Address already in use (os error 98)"

/-- What the service finds where it starts. -/
structure Surroundings where
  files : Files
  identify : IdentityReader := Tls.Identity.ofPem
  portFree : Bool := true

/-- A service that runs, and the port of its probes. -/
structure Service where
  relay : Relay Link
  healthPort : UInt16
  health : HealthServer := {}

namespace Service

def version : String := "0.1.0"

/-- The name under which the main program writes its records. -/
def mainTarget : String := "tracker"

def brokerTarget : String := "scene_tracker::transport::mqtt::connection"

def entry (level : LogLevel) (message : String) (fields : List (String × LogValue)) : Entry :=
  ⟨mainTarget, ⟨level, message, fields⟩⟩

def startEntry (c : Config) : Entry :=
  entry .info "Starting scene tracker"
    [("version", .text version), ("host", .text c.broker.host),
     ("port", .number c.broker.port.toNat)]

/-- The warning that the server will not be checked, once the client's files have been read. -/
def uncheckedEntries (files : Files) (b : BrokerSettings) : List Entry :=
  match b.tls with
  | none => []
  | some tls =>
    if b.insecure ∨ tls.verifyServer ∨ (Encryption.clientFiles files tls).toOption.isNone then []
    else
      [⟨brokerTarget, ⟨.warn,
        "Server certificate verification disabled; broker identity is not checked", []⟩⟩]

def runningEntry : Entry :=
  entry .info "Tracker is running and waiting for camera data on MQTT..." []

def signalEntry (s : Signal) : Entry :=
  entry .info s!"Received {s.name}, shutting down gracefully..." []

def closedEntry (s : LinkStats) : Entry :=
  entry .info "Transport closed"
    [("connection_attempts", .number s.connectionAttempts),
     ("connection_losses", .number s.connectionLosses),
     ("publishes_dropped", .number s.publishesDropped)]

/-- How long closing waits for what is under way. -/
def drainTime : Nanoseconds := 2 * second

/-- The name by which the broker knows this process: `tracker`, the machine, the process. -/
def clientId (machine : String) (process : Nat) : String := s!"tracker-{machine}-{process}"

/-- The first name of a machine that is not blank, without white space around it. -/
def machineName (candidates : List String) : String :=
  ((candidates.map fun s => String.ofList (Text.trim s.toList)).find? (· ≠ "")).getD "unknown"

/-- Starts the service: options of the broker, probes, router, first attempt to connect. -/
def start (s : Surroundings) (clientId : String) (c : Config) : Except StartError Service := do
  let options ← (BrokerOptions.ofSettings s.identify s.files clientId c.broker).mapError .broker
  let health := HealthServer.start s.portFree {}
  if !health.alive then .error .portTaken
  else
    let validators := Validators.load s.files c.tracker.schemaValidation c.tracker.schemaDir
    let relay : Relay Link := { link := .create options {} }
    return { relay := (relay.install validators).start.onLink (·.connect)
             healthPort := c.tracker.healthPort, health }

/-- The records of a start, up to the error if there is one. -/
def startEntries (s : Surroundings) (c : Config) : List Entry :=
  startEntry c :: uncheckedEntries s.files c.broker

/-- The answer to a probe of the service. -/
def probe (s : Service) (method target : String) : Response :=
  .toRequest s.health.alive s.relay.link.isReady method target

/-- Stops taking in messages and begins to close the link. -/
def beginStop (s : Service) : Service :=
  { s with relay := s.relay.stop.onLink (·.disconnect drainTime) }

/-- Ends the probes, once the link is closed. -/
def endStop (s : Service) : Service := { s with health := s.health.stop }

end Service
end SceneRelay
