import SceneRelay.Link

/-! What the rest of the service can ask of a link. -/
namespace SceneRelay.Link

/-- A link that has not been connected yet. -/
def create (options : BrokerOptions) (backoff : Backoff) : Link :=
  ({ options, backoff } : Link).log .info "MQTT transport created"
    [("host", .text options.host), ("port", .number options.port.toNat),
     ("tls", .flag !options.encryption.isPlain)]

/-- Starts the first attempt; later ones are the worker's. -/
def connect (l : Link) : Link :=
  if l.stopping ∨ l.reconnecting then l else (l.startSession? .connectStarted).getD l

/-- Asks something about a filter on an open connection, and notes the answer. -/
def askFilter (r : Request) (filter granted refused : String) (l : Link) : Link :=
  if !l.state.isOpen then l
  else
    match l.ask r with
    | (l, none) => l
    | (l, some true) => l.log .info granted [("topic", .text filter)]
    | (l, some false) => l.log .warn refused [("topic", .text filter), ("error", requestError)]

def addFilter (filter : String) (l : Link) : Link :=
  { l with filters := (l.filters.insert filter).1 }

/-- Without any filter the link no longer counts as subscribed. -/
def removeFilter (filter : String) (l : Link) : Link :=
  let filters := (l.filters.erase filter).1
  { l with filters, subscribed := l.subscribed && !filters.isEmpty }

/-- Adds a filter; it is asked for at once on an open connection, otherwise on the next one. -/
def subscribe (filter : String) (l : Link) : Link :=
  (l.addFilter filter).askFilter (.subscribe filter) filter "Subscribing"
    "Subscribe request failed"

/-- Removes a filter, on an open connection also from the broker. -/
def unsubscribe (filter : String) (l : Link) : Link :=
  (l.removeFilter filter).askFilter (.unsubscribe filter) filter "Unsubscribing"
    "Unsubscribe request failed"

def countSent (l : Link) : Link := { l with stats.publishesSent := l.stats.publishesSent + 1 }

def countDropped (l : Link) : Link :=
  { l with stats.publishesDropped := l.stats.publishesDropped + 1 }

/-- Sends a message over an open connection; otherwise it is dropped and counted as such. -/
def publish (p : Publication) (l : Link) : Link :=
  if !l.state.isOpen then
    l.countDropped.log .warn "Dropping publish while not connected"
      [("topic", .text p.topic), ("state", .text l.state.name)]
  else
    match l.ask (.publish p) with
    | (l, none) => l.countDropped
    | (l, some true) => l.countSent
    | (l, some false) =>
      l.countDropped.log .warn "Publish request failed"
        [("topic", .text p.topic), ("error", requestError)]

def setCallback (callback : Option Callback) (l : Link) : Link := { l with callback }

/-- Begins to close the link, which then waits at most `patience` for what is under way. -/
def disconnect (patience : Nanoseconds) (l : Link) : Link :=
  if l.stopping then l
  else
    { l.transition .shutdownRequested with
      stopping := true
      closing := some (.joining l.state.isOpen patience) }

/-- The worker is cut off where it is, if there is one. -/
def cutWorker (l : Link) : Link :=
  if l.worker.isSome then { l with worker := none }.act .retired else l

/-- Lets go of a link: its tasks end where they are. A closing call still runs to its end. -/
def release (l : Link) : Link :=
  if l.closing.isSome then l else { l with stopping := true }.cutWorker.endSession

instance : Messaging Link := ⟨subscribe, unsubscribe, publish, setCallback⟩

end SceneRelay.Link
