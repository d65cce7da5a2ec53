import SceneRelay.Text.Quoted

/-! The states of a connection to the broker and the events that move it between them. -/
namespace SceneRelay

inductive ConnectionState where
  | disconnected
  | connecting
  | connected
  | reconnecting
  | shuttingDown
  deriving DecidableEq, Repr, Inhabited

/-- What happens to a connection; attempts to reconnect count from one, up to the largest word. -/
inductive ConnectionEvent where
  | connectStarted
  | retryStarted (attempt : UInt32)
  | acknowledged
  | refused (code : String)
  | disconnectedByBroker
  | networkError (text : String)
  | shutdownRequested
  | shutdownComplete
  deriving DecidableEq, Repr

/-- An attempt of this number starts; a number beyond the largest word is that word. -/
def ConnectionEvent.reconnectionStarted (attempt : Nat) : ConnectionEvent :=
  .retryStarted (.ofNatClamp attempt)

namespace ConnectionState

def name : ConnectionState → String
  | disconnected => "disconnected"
  | connecting => "connecting"
  | connected => "connected"
  | reconnecting => "reconnecting"
  | shuttingDown => "shutting_down"

def all : List ConnectionState := [disconnected, connecting, connected, reconnecting, shuttingDown]

def ofName? (s : String) : Option ConnectionState := all.find? (·.name = s)

/-- The state that an event leads to from any state but shutting down. -/
def target : ConnectionEvent → ConnectionState
  | .connectStarted => connecting
  | .retryStarted _ => reconnecting
  | .acknowledged => connected
  | .refused _ | .disconnectedByBroker | .networkError _ => disconnected
  | .shutdownRequested => shuttingDown
  | .shutdownComplete => disconnected

/-- The state after an event. From shutting down only the completed shutdown leads away. -/
def next (s : ConnectionState) (e : ConnectionEvent) : ConnectionState :=
  if s = shuttingDown ∧ e ≠ .shutdownComplete then shuttingDown else target e

/-- The broker has been called and has not answered yet. -/
def isAttempting (s : ConnectionState) : Bool := s = connecting ∨ s = reconnecting

/-- Publishing and subscribing reach the broker. -/
def isOpen (s : ConnectionState) : Bool := s = connected

/-- A lost connection is to be taken up again, unless the service is stopping. -/
def wantsReconnect (s : ConnectionState) (stopping : Bool) : Bool := !stopping && s = disconnected

end ConnectionState

/-- An event as it is named in log lines. -/
def ConnectionEvent.text : ConnectionEvent → String
  | connectStarted => "ConnectStarted"
  | retryStarted n => s!"ReconnectionStarted({n})"
  | acknowledged => "ConnAckReceived"
  | refused code => s!"ConnAckRefused({Text.quoted code})"
  | disconnectedByBroker => "DisconnectedByBroker"
  | networkError text => s!"NetworkError({Text.quoted text})"
  | shutdownRequested => "ShutdownRequested"
  | shutdownComplete => "ShutdownComplete"

end SceneRelay
