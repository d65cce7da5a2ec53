import SceneRelay.Backoff
import SceneRelay.Broker
import SceneRelay.Callback
import SceneRelay.Connection.Transition
import SceneRelay.Packet
import SceneRelay.Subscriptions

/-! The link to the broker: one connection at a time, taken up again whenever it is lost. Three
tasks share its state: the session, the worker that waits between attempts, and the closing call. -/
namespace SceneRelay

/-- What the service asks of a session. -/
inductive Request where
  | subscribe (filter : String)
  | unsubscribe (filter : String)
  | publish (message : Publication)
  | disconnect

/-- A topic with wildcards cannot be published to; filters are not looked at. -/
def Request.isSendable : Request → Bool
  | publish m => m.topic.toList.all fun c => c ≠ '+' ∧ c ≠ '#'
  | _ => true

/-- The most requests that wait at a time. -/
def Client.capacity : Nat := 100

/-- A library that takes what can be sent as long as there is room. -/
def Client.usual (waiting _asked : Nat) (r : Request) : Bool :=
  r.isSendable && waiting < Client.capacity

/-- The asking side of a session: what waits to be sent, and whether the library takes a request
when so many wait and so many were made before. -/
structure Client where
  queue : List Request := []
  asked : Nat := 0
  takes : Nat → Nat → Request → Bool := Client.usual

def Client.accepts (c : Client) (r : Request) : Bool := c.takes c.queue.length c.asked r

/-- The task that reads from a connection; its patience ends at the deadline, if it has one. -/
structure Session where
  generation : Nat
  deadline : Option Nanoseconds := none
  deriving DecidableEq, Repr

/-- What the worker between attempts is doing. -/
inductive WorkerPhase where
  | deciding
  | waiting (deadline : Nanoseconds)
  | resolving
  deriving DecidableEq, Repr

/-- The worker between attempts, and how many it has made, up to the largest word. -/
structure Worker where
  attempts : UInt32 := 0
  phase : WorkerPhase := .deciding
  deriving DecidableEq, Repr

/-- The closing call: it waits for the worker, then for the session. -/
inductive Closing where
  | joining (wasOpen : Bool) (patience : Nanoseconds)
  | draining (patience deadline : Nanoseconds)
  deriving DecidableEq, Repr

/-- What a link has counted. -/
structure LinkStats where
  connectionAttempts : Nat := 0
  successfulConnections : Nat := 0
  connectionLosses : Nat := 0
  publishesSent : Nat := 0
  publishesDropped : Nat := 0
  messagesReceived : Nat := 0
  deriving DecidableEq, Repr

/-- What a link does that can be seen from outside, and when its tasks begin and end. -/
inductive Action where
  | logged (r : LogRecord)
  | moved (s : ConnectionState)
  | opened (generation : Nat)
  | closed
  | armed
  | retired
  | asked (r : Request) (accepted : Bool)
  | called (topic : String) (payload : ByteArray)
  | backedOff (attempt : Nat) (delay : Nanoseconds)

/-- `announced` is the state as the waiting tasks see it; `trace` is what was done, in order. -/
structure Link where
  options : BrokerOptions
  backoff : Backoff := {}
  now : Nanoseconds := 0
  state : ConnectionState := .disconnected
  announced : ConnectionState := .disconnected
  stopping : Bool := false
  subscribed : Bool := false
  reconnecting : Bool := false
  generation : Nat := 0
  filters : Subscriptions := {}
  callback : Option Callback := none
  client : Option Client := none
  session : Option Session := none
  worker : Option Worker := none
  closing : Option Closing := none
  stats : LinkStats := {}
  trace : List Action := []

namespace Link

/-- How long an attempt may take without any report from the library. -/
def connectTimeout : Nanoseconds := 10 * second

def act (a : Action) (l : Link) : Link := { l with trace := l.trace ++ [a] }

def log (level : LogLevel) (message : String) (fields : List (String × LogValue)) (l : Link) : Link :=
  l.act (.logged ⟨level, message, fields⟩)

def isConnected (l : Link) : Bool := l.state = .connected

/-- Messages of cameras arrive: the connection is open and a subscription was granted on it. -/
def isReady (l : Link) : Bool := l.isConnected && l.subscribed

/-- What is seen of a change of state; nothing if there is none. -/
def newsOf (s t : ConnectionState) (e : ConnectionEvent) : List Action :=
  (s.transitionRecord? t e).elim [] fun r => [.moved t, .logged r]

/-- Moves the state by an event, and tells the waiting tasks. -/
def transition (e : ConnectionEvent) (l : Link) : Link :=
  let t := l.state.next e
  { l with state := t, announced := t, trace := l.trace ++ newsOf l.state t e }

/-- The client takes requests as long as the session that reads from it lives. -/
def granted (l : Link) (c : Client) (r : Request) : Bool := l.session.isSome && c.accepts r

/-- Asks something of the client; the second part is whether it was granted, if there is one. -/
def ask (r : Request) (l : Link) : Link × Option Bool :=
  match l.client with
  | none => (l, none)
  | some c =>
    let granted := l.granted c r
    let queue := if granted then c.queue ++ [r] else c.queue
    ({ l with client := some { c with queue, asked := c.asked + 1 } }.act (.asked r granted),
      some granted)

/-- The text of the error when a request is turned down. -/
def requestError : LogValue := .text "Failed to send mqtt requests to eventloop"

/-- The session ends, if there is one. -/
def endSession (l : Link) : Link :=
  if l.session.isSome then { l with session := none }.act .closed else l

/-- Opens a session of the next generation, with a client of its own. -/
def openSession (l : Link) : Link :=
  let generation := l.generation + 1
  let opened :=
    { l with
      generation
      client := some {}
      session := some ⟨generation, some (l.now + connectTimeout)⟩
      stats.connectionAttempts := l.stats.connectionAttempts + 1 }
  (opened.act (.opened generation)).log .info "Starting MQTT session"
    [("generation", .number generation)]

/-- Opens a session for an event that starts an attempt; none unless the link is idle. A session
that is still there is cut off. -/
def startSession? (e : ConnectionEvent) (l : Link) : Option Link :=
  if l.state = .disconnected ∧ !l.stopping then some (l.transition e).endSession.openSession
  else none

/-- Sets the worker to work, unless there is one or the link is closing. -/
def scheduleReconnect (l : Link) : Link :=
  if l.stopping ∨ l.reconnecting then l
  else { l with reconnecting := true, worker := some {} }.act .armed

/-- Sets the worker to work if the connection is to be taken up again. -/
def reconnectIfLost (l : Link) : Link :=
  if l.state.wantsReconnect l.stopping then l.scheduleReconnect else l

/-- Moves the state by the event of a loss; only the loss of an open connection counts as one. -/
def noteLoss (e : ConnectionEvent) (l : Link) : Link :=
  { l.transition e with
    subscribed := false
    stats.connectionLosses := l.stats.connectionLosses + if l.state = .connected then 1 else 0 }

/-- A session failed or was lost. -/
def lose (e : ConnectionEvent) (l : Link) : Link := (l.noteLoss e).reconnectIfLost

end Link
end SceneRelay
