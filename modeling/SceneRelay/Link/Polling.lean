import SceneRelay.Link.Calls

/-! What a session reports, and what the link does about it. -/
namespace SceneRelay.Link

/-- Whether a session reads on after a report. -/
inductive Control where
  | proceed
  | exit
  deriving DecidableEq, Repr

/-- A report of the library: a packet, or the text of an error that ends the connection. -/
abbrev Report := Except String Packet

def resubscribe (filter : String) (l : Link) : Link :=
  match l.ask (.subscribe filter) with
  | (l, none) | (l, some true) => l
  | (l, some false) =>
    l.log .error "Failed to re-subscribe" [("topic", .text filter), ("error", requestError)]

/-- Asks for every filter again, in ascending order. -/
def resubscribeAll (l : Link) : Link := l.filters.topics.foldl (fun l t => l.resubscribe t) l

def publishAll (ps : List Publication) (l : Link) : Link := ps.foldl (fun l p => l.publish p) l

/-- Does what a listener answers to a message. -/
def react (topic : String) (reaction : Reaction) (l : Link) : Link :=
  let l := l.publishAll reaction.publications
  if reaction.panicked then l.log .error "Message callback panicked" [("topic", .text topic)] else l

/-- Hands a message to the listener; one that breaks down harms nobody else. -/
def dispatch (topic : String) (payload : ByteArray) (l : Link) : Link :=
  match l.callback with
  | none => l
  | some f => (l.act (.called topic payload)).react topic (f topic payload)

def countSuccess (l : Link) : Link :=
  { l with stats.successfulConnections := l.stats.successfulConnections + 1 }

/-- The broker took the connection up. -/
def acknowledge (l : Link) : Link :=
  let l := l.transition .acknowledged
  if l.state = .connected then l.countSuccess.resubscribeAll else l

def warnOfRefusals (packetId : Nat) (codes : List Nat) (l : Link) : Link :=
  match SubAck.failure? codes with
  | some text => l.log .warn text [("packet_id", .number packetId)]
  | none => l

def countReceived (l : Link) : Link :=
  { l with stats.messagesReceived := l.stats.messagesReceived + 1 }

def setSubscribed (subscribed : Bool) (l : Link) : Link := { l with subscribed }

/-- What a report does to the link, and whether its session reads on. -/
def handleRoute : Route → Link → Link × Control
  | .acknowledged _, l => (l.acknowledge, .proceed)
  | .refused code, l => (l.lose (.refused code), .exit)
  | .message topic payload _, l => (l.countReceived.dispatch topic payload, .proceed)
  | .subscribed packetId codes, l =>
    ((l.warnOfRefusals packetId codes).setSubscribed (SubAck.anyGranted codes), .proceed)
  | .disconnected, l => (if l.stopping then l else l.lose .disconnectedByBroker, .exit)
  | .disconnectSent, l => (l, if l.stopping then .exit else .proceed)
  | .infrastructure _, l => (l, .proceed)
  | .outgoing, l => (l, .proceed)

/-- The session waits for its next report; during an attempt not for ever. -/
def rearm (l : Link) : Link :=
  let deadline := if l.state.isAttempting then some (l.now + connectTimeout) else none
  { l with session := l.session.map fun s => { s with deadline } }

/-- A report of the session; nothing happens if there is none. -/
def report (r : Report) (l : Link) : Link :=
  if l.session.isNone then l
  else
    match r with
    | .ok packet =>
      match l.handleRoute packet.route with
      | (l, .proceed) => l.rearm
      | (l, .exit) => l.endSession
    | .error text => (if l.stopping then l else l.lose (.networkError text)).endSession

/-- The session has sent all that was waiting. -/
def flush (l : Link) : Link := { l with client := l.client.map fun c => { c with queue := [] } }

/-- Which requests of the current client the library takes from now on. -/
def setAnswers (takes : Nat → Nat → Request → Bool) (l : Link) : Link :=
  { l with client := l.client.map fun c => { c with takes } }

/-- Requests that the library turns down although there is room. -/
def setRefusals (refuses : Nat → Request → Bool) : Link → Link :=
  setAnswers fun waiting asked r => Client.usual waiting asked r && !refuses asked r

/-- Reports in a row; those after the session's end are lost. -/
def reportAll (rs : List Report) (l : Link) : Link := rs.foldl (fun l r => l.report r) l

/-- The attempt has taken too long. -/
def giveUpAttempt (l : Link) : Link :=
  (l.lose (.networkError "no ConnAck within 10s")).endSession

end SceneRelay.Link
