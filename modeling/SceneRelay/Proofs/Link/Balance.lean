import Mathlib.Data.List.Basic
import SceneRelay.Proofs.Link.Shifts
import SceneRelay.Proofs.Link.Shutdown
import SceneRelay.Proofs.Link.Traffic

/-! The counters of a link balance. Of its connections as many were lost as were opened, but for the
one that is open or that the closing call took down; and every message that went out or came in is
accounted for. -/
namespace SceneRelay.Link
variable {l m : Link} {e : Event}

/-! ### What is counted of connections -/

/-- What was counted of the attempts and the connections. -/
def connections (l : Link) : LinkStats :=
  { l.stats with publishesSent := 0, publishesDropped := 0, messagesReceived := 0 }

theorem stats_of_connections {s : LinkStats} (h : m.connections = s) :
    m.stats.connectionAttempts = s.connectionAttempts ∧
      m.stats.successfulConnections = s.successfulConnections ∧
        m.stats.connectionLosses = s.connectionLosses := by
  rw [← h]
  exact ⟨rfl, rfl, rfl⟩

theorem connections_ask (l : Link) (r : Request) :
    (l.ask r).1.connections = l.connections := by
  unfold ask
  split <;> rfl

theorem connections_askFilter (l : Link) (r : Request) (filter granted refused : String) :
    (l.askFilter r filter granted refused).connections = l.connections := by
  have ha := connections_ask l r
  unfold askFilter
  split
  · rfl
  · split <;> rename_i heq <;> rw [heq] at ha <;> exact ha

theorem connections_publish (l : Link) (p : Publication) :
    (l.publish p).connections = l.connections := by
  have ha := connections_ask l (.publish p)
  unfold publish
  split
  · rfl
  · split <;> rename_i heq <;> rw [heq] at ha <;> exact ha

theorem connections_publishAll (l : Link) (ps : List Publication) :
    (l.publishAll ps).connections = l.connections := by
  induction ps generalizing l with
  | nil => rfl
  | cons p ps ih => exact (ih (l.publish p)).trans (connections_publish l p)

theorem connections_dispatch (l : Link) (topic : String) (payload : ByteArray) :
    (l.dispatch topic payload).connections = l.connections := by
  unfold dispatch
  split
  · rfl
  · rename_i f _
    have hp := connections_publishAll (l.act (.called topic payload)) (f topic payload).publications
    unfold react
    dsimp only
    split <;> exact hp

theorem connections_resubscribe (l : Link) (filter : String) :
    (l.resubscribe filter).connections = l.connections := by
  have ha := connections_ask l (.subscribe filter)
  unfold resubscribe
  split <;> rename_i heq <;> rw [heq] at ha <;> exact ha

theorem connections_resubscribeAll (l : Link) : l.resubscribeAll.connections = l.connections := by
  unfold resubscribeAll
  generalize l.filters.topics = topics
  induction topics generalizing l with
  | nil => rfl
  | cons t topics ih => exact (ih (l.resubscribe t)).trans (connections_resubscribe l t)

theorem connections_warnOfRefusals (l : Link) (packetId : Nat) (codes : List Nat) :
    (l.warnOfRefusals packetId codes).connections = l.connections := by
  unfold warnOfRefusals
  split <;> rfl

theorem connections_endSession (l : Link) : l.endSession.connections = l.connections := by
  obtain ⟨trace, he⟩ := exists_endSession_eq l
  rw [he]
  rfl

/-! ### What one event counts -/

/-- The broker answers a session that lives. -/
def Event.isAnswer (l : Link) : Event → Bool
  | .report (.ok (.connAck _ _)) => l.session.isSome
  | _ => false

/-- What an event counts on the way from `l` to `m`. -/
inductive Turn (l : Link) (e : Event) (m : Link) : Prop
  | keeps (state : m.state = l.state) (counts : m.connections = l.connections)
  | opens (before : l.state = .disconnected) (state : m.state.isAttempting)
      (counts : m.connections = { l.connections with
        connectionAttempts := l.stats.connectionAttempts + 1 })
  | accepted (event : e.isAnswer l) (state : m.state = .connected)
      (counts : m.connections = { l.connections with
        successfulConnections := l.stats.successfulConnections + 1 })
  | lost (state : m.state = .disconnected)
      (counts : m.connections = { l.connections with
        connectionLosses :=
          l.stats.connectionLosses + if l.state = .connected then 1 else 0 })

namespace Turn

theorem of_startSession? {n : Link} {c : ConnectionEvent}
    (hc : (ConnectionState.target c).isAttempting) (hn : l.startSession? c = some n)
    (hs : m.state = n.state) (hm : m.connections = n.connections) : Turn l e m := by
  obtain ⟨hd, rfl⟩ := startSession?_eq_some hn
  obtain ⟨trace, he⟩ := exists_endSession_eq (l.transition c)
  have ht : l.state.next c = ConnectionState.target c := ConnectionState.next_of_ne c (by simp [hd])
  rw [he] at hs hm
  exact .opens hd ((hs.trans ht).symm ▸ hc) hm

theorem of_lose (hv : l.state ≠ .shuttingDown) {c : ConnectionEvent} (hc : c.isLoss)
    (hs : m.state = (l.lose c).state) (hm : m.connections = (l.lose c).connections) :
    Turn l e m := by
  obtain ⟨worker, reconnecting, trace, hr⟩ := exists_reconnectIfLost_eq (l.noteLoss c)
  have hn := noteLoss_of_ne hv hc
  unfold lose at hs hm
  rw [hr] at hs hm
  exact .lost (hs.trans hn) hm

theorem of_endWorker (hs : m.state = l.state) (hm : m.connections = l.connections) :
    Turn l e m.endWorker := by
  obtain ⟨worker, reconnecting, trace, hr⟩ := exists_reconnectIfLost_eq
    ({ m with worker := none, reconnecting := false }.act .retired)
  unfold endWorker
  rw [hr]
  exact .keeps hs hm

theorem retry (l : Link) (attempts : UInt32) : Turn l e (l.retry attempts) := by
  unfold Link.retry
  split
  · rename_i n hn
    exact of_startSession? (n := n) rfl hn rfl rfl
  · exact .keeps rfl rfl

theorem of_route (hs : l.state ≠ .shuttingDown) (up : l.stopping = false) (hn : l.session.isSome)
    {packet : Packet} (hstate : m.state = (l.handleRoute packet.route).1.state)
    (hm : m.connections = (l.handleRoute packet.route).1.connections) :
    Turn l (.report (.ok packet)) m := by
  cases packet with
  | connAck code present =>
    by_cases hc : code = .success
    · subst hc
      have hnext : (l.transition .acknowledged).state = .connected :=
        ConnectionState.next_of_ne _ hs
      have ha : (l.handleRoute (Packet.connAck .success present).route).1 =
          (l.transition .acknowledged).countSuccess.resubscribeAll := if_pos hnext
      rw [ha] at hstate hm
      have hcore := core_resubscribeAll (l.transition .acknowledged).countSuccess
      exact .accepted hn (hstate.trans ((congrArg (·.state) hcore).trans hnext))
        (hm.trans (connections_resubscribeAll _))
    · have hr : (Packet.connAck code present).route = .refused code.name := by
        cases code <;> first | rfl | exact absurd rfl hc
      rw [hr] at hstate hm
      exact of_lose hs (c := .refused code.name) rfl hstate hm
  | publish topic payload retain =>
    have hd := (core_dispatch l.countReceived topic payload).trans (core_countReceived l)
    exact .keeps (hstate.trans (congrArg (·.state) hd))
      (hm.trans (connections_dispatch l.countReceived topic payload))
  | subscribeAck packetId codes =>
    have hd := core_subscribed l packetId (codes.map SubscribeCode.byte)
    exact .keeps (hstate.trans (congrArg (·.state) hd))
      (hm.trans (connections_warnOfRefusals l packetId _))
  | disconnect =>
    have hd : l.handleRoute Packet.disconnect.route = (l.lose .disconnectedByBroker, .exit) := by
      simp [Packet.route, handleRoute, up]
    rw [hd] at hstate hm
    exact of_lose hs rfl hstate hm
  | _ => exact .keeps hstate hm

theorem report (hp : l.Phase) (up : l.IsUp) (r : Report) : Turn l (.report r) (l.report r) := by
  have hs := hp.ne_shuttingDown up.1
  cases reported l r with
  | unheard _ hm => exact .keeps (congrArg (·.state) hm) (congrArg connections hm)
  | readsOn session report hm =>
    subst report
    have hc := congrArg connections hm
    exact of_route hs up.1 session (congrArg (·.state) hm) hc
  | @leaves packet session report hm =>
    subst report
    obtain ⟨trace, he⟩ := exists_endSession_eq (l.handleRoute packet.route).1
    have hc := (congrArg connections hm).trans (connections_endSession _)
    rw [he] at hm
    exact of_route hs up.1 session (congrArg (·.state) hm) hc
  | closes stopping _ _ _ => exact absurd (up.1.symm.trans stopping) Bool.false_ne_true
  | @fails text _ session report hm =>
    subst report
    obtain ⟨trace, he⟩ := exists_endSession_eq (l.lose (.networkError text))
    have hc := (congrArg connections hm).trans (connections_endSession _)
    rw [he] at hm
    exact of_lose hs (c := .networkError text) rfl (congrArg (·.state) hm) hc

theorem stepSession? (hs : l.state ≠ .shuttingDown) {s : Session}
    (hm : l.stepSession? s = some m) : Turn l e m := by
  obtain ⟨trace, he⟩ := exists_endSession_eq (l.lose (.networkError "no ConnAck within 10s"))
  obtain rfl := eq_giveUpAttempt hm
  exact of_lose hs (c := .networkError "no ConnAck within 10s") rfl (congrArg (·.state) he)
    (connections_endSession _)

theorem stepWorker? {w : Worker} (hm : l.stepWorker? w = some m) : Turn l e m := by
  cases workerMove hm with
  | ends _ hm => exact hm ▸ of_endWorker rfl rfl
  | told _ hm => exact hm ▸ of_endWorker rfl rfl
  | looksOn _ _ _ hm => exact hm ▸ .keeps rfl rfl
  | looksAgain _ _ _ hm => exact hm ▸ .keeps rfl rfl
  | backsOff _ _ _ hm => exact hm ▸ .keeps rfl rfl
  | retries _ _ _ hm => exact hm ▸ retry l _

end Turn

/-- Whatever happens to a link that nobody closes counts as one of these. -/
theorem turn_after (hl : l.Reachable) (hs : l.stopping = false) (he : ¬e.isDisconnect) :
    Turn l e (l.after e) := by
  obtain ⟨hledger, hp⟩ := hl.ledger_phase
  have up := hp.isUp hs
  cases e with
  | connect =>
    obtain hm | hm := connect_cases l
    · exact .keeps (congrArg (·.state) hm) (congrArg connections hm)
    · exact .of_startSession? rfl hm rfl rfl
  | subscribe filter =>
    exact .keeps (congrArg (·.state) (core_subscribe l filter))
      (connections_askFilter (l.addFilter filter) _ _ _ _)
  | unsubscribe filter =>
    exact .keeps (congrArg (·.state) (core_unsubscribe l filter))
      (connections_askFilter (l.removeFilter filter) _ _ _ _)
  | publish p =>
    exact .keeps (congrArg (·.state) (core_publish l p)) (connections_publish l p)
  | listen callback => exact .keeps rfl rfl
  | disconnect patience => exact absurd rfl he
  | report r => exact .report hp up r
  | flushed => exact .keeps rfl rfl
  | answers takes => exact .keeps rfl rfl
  | advance time => exact .keeps rfl rfl
  | sessionMoves =>
    exact move_keeps (.keeps rfl rfl) fun _ _ _ hm => .stepSession? (hp.ne_shuttingDown hs) hm
  | workerMoves => exact move_keeps (.keeps rfl rfl) fun _ _ _ hm => .stepWorker? hm
  | workerWakes =>
    obtain hm | ⟨k, d, -, hm⟩ := wake_cases l
    · exact .keeps (congrArg (·.state) hm) (congrArg connections hm)
    · exact (congrArg (Turn l .workerWakes) hm).mpr (.retry l k)
  | closingMoves => exact .keeps (by simp [after, up.2]) (by simp [after, up.2])

/-! ### What a run counts -/

/-- As many connections were lost as were opened, but for the one that is open; and every attempt
was accepted once at most, the one that is under way not yet. -/
structure Balanced (l : Link) : Prop where
  attempts : l.stats.successfulConnections + (if l.state.isAttempting then 1 else 0) ≤
    l.stats.connectionAttempts
  losses : l.stats.successfulConnections =
    l.stats.connectionLosses + if l.state = .connected then 1 else 0

/-- The sessions that the broker answers during a run, by their generations. -/
def answeredSessions : Link → List Event → List Nat
  | _, [] => []
  | l, e :: es => (if e.isAnswer l then [l.generation] else []) ++ answeredSessions (l.after e) es

/-- The broker answers each session once at most. -/
def AnswersOnce (l : Link) (es : List Event) : Prop := (l.answeredSessions es).Nodup

/-- Whether the link was connected when it was first told to close. -/
def closesOpen : Link → List Event → Bool
  | _, [] => false
  | l, e :: es => if e.isDisconnect then l.state.isOpen else closesOpen (l.after e) es

theorem Balanced.of_connections (h : l.Balanced) (hs : m.state = l.state)
    (hm : m.connections = l.connections) : m.Balanced := by
  obtain ⟨hattempts, hsuccesses, hlosses⟩ := stats_of_connections hm
  dsimp only [connections] at hattempts hsuccesses hlosses
  constructor
  · rw [hs, hattempts, hsuccesses]
    exact h.attempts
  · rw [hs, hsuccesses, hlosses]
    exact h.losses

theorem isAttempting_or_connected (hp : l.Phase) (hs : l.stopping = false) (ha : e.isAnswer l) :
    l.state.isAttempting ∨ l.state = .connected := by
  have hn : l.session.isSome := by
    unfold Event.isAnswer at ha
    split at ha
    · exact ha
    · exact absurd ha Bool.false_ne_true
  cases hp with
  | idle _ _ _ session _ => simp [session] at hn
  | backingOff _ _ _ session _ => simp [session] at hn
  | attempting _ state _ _ _ _ _ => exact .inl (by rw [state]; rfl)
  | retrying _ state _ _ _ _ _ => exact .inl (by rw [state]; rfl)
  | connected _ state _ _ _ _ _ => exact .inr state
  | joining stopping _ _ _ => exact absurd (hs.symm.trans stopping) Bool.false_ne_true
  | draining stopping _ _ _ _ => exact absurd (hs.symm.trans stopping) Bool.false_ne_true
  | closed stopping _ _ _ _ _ => exact absurd (hs.symm.trans stopping) Bool.false_ne_true

/-- A connection that is open after an event was opened by it or before. -/
theorem Turn.connected (hm : Turn l e m) (hl : l.Ledger) (hl' : m.Ledger)
    (hs : m.state = .connected) :
    m.generation = l.generation ∧ (l.state = .connected ∨ e.isAnswer l) := by
  rw [hl.counted, hl'.counted]
  cases hm with
  | keeps state counts =>
    exact ⟨congrArg (·.connectionAttempts) counts, .inl (state.symm.trans hs)⟩
  | opens _ state _ => simp [hs, ConnectionState.isAttempting] at state
  | accepted event _ counts => exact ⟨congrArg (·.connectionAttempts) counts, .inr event⟩
  | lost state _ => simp [hs] at state

theorem Balanced.turn (h : l.Balanced) (hm : Turn l e m)
    (hfirst : e.isAnswer l → l.state.isAttempting) : m.Balanced := by
  obtain ⟨hle, heq⟩ := h
  cases hm with
  | keeps state counts => exact Balanced.of_connections ⟨hle, heq⟩ state counts
  | opens before state counts =>
    obtain ⟨hattempts, hsuccesses, hlosses⟩ := stats_of_connections counts
    dsimp only [connections] at hattempts hsuccesses hlosses
    have hc : m.state ≠ .connected := by
      intro hs
      simp [hs, ConnectionState.isAttempting] at state
    simp only [before, reduceCtorEq, if_false] at heq
    constructor
    · rw [if_pos state]
      omega
    · rw [if_neg hc]
      omega
  | accepted event state counts =>
    obtain ⟨hattempts, hsuccesses, hlosses⟩ := stats_of_connections counts
    dsimp only [connections] at hattempts hsuccesses hlosses
    have ha := hfirst event
    have hc : l.state ≠ .connected := by
      intro hs
      simp [hs, ConnectionState.isAttempting] at ha
    rw [if_pos ha] at hle
    rw [if_neg hc] at heq
    constructor
    · rw [state, if_neg (by decide)]
      omega
    · rw [if_pos state]
      omega
  | lost state counts =>
    obtain ⟨hattempts, hsuccesses, hlosses⟩ := stats_of_connections counts
    dsimp only [connections] at hattempts hsuccesses hlosses
    constructor
    · rw [state, if_neg (by decide)]
      omega
    · rw [if_neg (by simp [state])]
      omega

theorem balanced_create (options : BrokerOptions) (backoff : Backoff) :
    Balanced (create options backoff) := ⟨Nat.le_refl _, rfl⟩

/-- The session of an open connection has been answered, so a session that is answered for the first
time is one of an attempt. -/
theorem isAttempting_of_first (hp : l.Phase) (hs : l.stopping = false) (ha : e.isAnswer l)
    {done : List Nat} (hdone : l.state = .connected → l.generation ∈ done)
    (hnew : (done ++ [l.generation]).Nodup) : l.state.isAttempting := by
  apply (isAttempting_or_connected hp hs ha).resolve_right
  intro hc
  have hne := (List.nodup_append.mp hnew).2.2 _ (hdone hc) _ (List.mem_singleton_self _)
  exact hne rfl

/-- From the first closing call on no connection is counted any more, and none is open. -/
theorem connections_run_disconnect (hl : l.Reachable) (hs : l.stopping = false)
    (patience : Nanoseconds) (es : List Event) :
    ((l.disconnect patience).run es).connections = l.connections ∧
      ((l.disconnect patience).run es).state ≠ .connected := by
  have hafter := hl.after (.disconnect patience)
  have hunder := (underway_disconnect hs patience).run hafter es
  have hopen : ((l.disconnect patience).run es).state.isOpen = false :=
    (hafter.run es).ledger_phase.2.not_open_of_stopping hunder.stopping
  constructor
  · exact congrArg (fun stats => { stats with publishesSent := 0 }) hunder.tally
  · simpa [ConnectionState.isOpen] using hopen

theorem Balanced.run_disconnect (h : l.Balanced) (hl : l.Reachable) (hs : l.stopping = false)
    (patience : Nanoseconds) (es : List Event) :
    let m := (l.disconnect patience).run es
    m.stats.successfulConnections ≤ m.stats.connectionAttempts ∧
      m.stats.successfulConnections = m.stats.connectionLosses +
        if m.state = .connected ∨ l.state = .connected then 1 else 0 := by
  intro m
  obtain ⟨hm, hc⟩ := connections_run_disconnect hl hs patience es
  obtain ⟨hattempts, hsuccesses, hlosses⟩ := stats_of_connections hm
  dsimp only [connections] at hattempts hsuccesses hlosses
  rw [hattempts, hsuccesses, hlosses]
  refine ⟨Nat.le_of_add_right_le h.attempts, ?_⟩
  simpa only [m, hc, false_or] using h.losses

/-- The counters of a run in which the broker answers each session once at most. The sessions that
it has answered before are `done`. -/
theorem Balanced.run (h : l.Balanced) (hl : l.Reachable) (hs : l.stopping = false)
    (es : List Event) (done : List Nat) (hdone : l.state = .connected → l.generation ∈ done)
    (honce : (done ++ l.answeredSessions es).Nodup) :
    (l.run es).stats.successfulConnections ≤ (l.run es).stats.connectionAttempts ∧
      (l.run es).stats.successfulConnections = (l.run es).stats.connectionLosses +
        if (l.run es).state = .connected ∨ l.closesOpen es then 1 else 0 := by
  induction es generalizing l done with
  | nil => simpa [closesOpen] using ⟨Nat.le_of_add_right_le h.attempts, h.losses⟩
  | cons e es ih =>
    obtain ⟨hledger, hp⟩ := hl.ledger_phase
    by_cases he : e.isDisconnect
    · cases e with
      | disconnect patience =>
        have hopen : l.closesOpen (.disconnect patience :: es) ↔ l.state = .connected := by
          simp [closesOpen, Event.isDisconnect, ConnectionState.isOpen]
        simp only [hopen]
        exact h.run_disconnect hl hs patience es
      | _ => exact absurd he Bool.false_ne_true
    · have hturn := turn_after hl hs he
      have hstep : l.closesOpen (e :: es) = (l.after e).closesOpen es := if_neg he
      have hanswered : l.answeredSessions (e :: es) =
          (if e.isAnswer l then [l.generation] else []) ++ (l.after e).answeredSessions es := rfl
      rw [hanswered, ← List.append_assoc] at honce
      have hfirst : e.isAnswer l → l.state.isAttempting := by
        intro ha
        have hnew := (List.nodup_append.mp honce).1
        rw [if_pos ha] at hnew
        exact isAttempting_of_first hp hs ha hdone hnew
      rw [run_cons, hstep]
      refine ih (h.turn hturn hfirst) (hl.after e) ((stopping_after l he).trans hs) _ ?_ honce
      intro hc
      obtain ⟨hg, hb⟩ := hturn.connected hledger (hledger.after e) hc
      rw [hg]
      obtain hb | hb := hb
      · exact List.mem_append_left _ (hdone hb)
      · simp [hb]

/-- What a run from a new link counts. Each message that was to be sent was sent or dropped; those
that were sent are the ones that a client took, and a client was given them, in order, only while
connected. Each message that came in reached the listener, in order, or there was none. If the
broker answers each session once at most, no more connections were opened than attempted, and all of
them were lost again but for the one that is open or that the first closing call took down. -/
theorem counters_balance (options : BrokerOptions) (backoff : Backoff) (es : List Event) :
    let start := create options backoff
    let m := start.run es
    let given := Record.sendings m.trace
    let called := Relay.callsOf m.trace
    m.stats.publishesSent + m.stats.publishesDropped = (start.publications es).length ∧
    m.stats.publishesSent = (given.filter (·.taken)).length ∧
    (∀ s ∈ given, s.state = .connected) ∧
    (given.map (·.message)).Sublist (start.publications es) ∧
    m.stats.messagesReceived = (start.arrivals es).length ∧
    called = ((start.arrivals es).filter (·.heard)).map (fun a => (a.topic, a.payload)) ∧
    m.stats.messagesReceived =
      called.length + ((start.arrivals es).filter fun a => !a.heard).length ∧
    (start.AnswersOnce es →
      m.stats.successfulConnections ≤ m.stats.connectionAttempts ∧
      (m.stats.successfulConnections : Int) - m.stats.connectionLosses =
        if m.state = .connected ∨ start.closesOpen es then 1 else 0) := by
  intro start m given called
  have hgrows := grows_run (ledger_create options backoff) es
  obtain ⟨new, hnew, hconnected, hsub, hsent⟩ := hgrows.given
  have hgiven : given = new := hnew
  have hhandled : m.stats.publishesSent + m.stats.publishesDropped =
      0 + (start.publications es).length := hgrows.handled
  have hreceived : m.stats.messagesReceived = 0 + (start.arrivals es).length := hgrows.received
  have hcalled : called =
      ((start.arrivals es).filter (·.heard)).map fun a => (a.topic, a.payload) := hgrows.calls
  have hsent : m.stats.publishesSent = 0 + (new.filter (·.taken)).length := hsent
  rw [Nat.zero_add] at hhandled hreceived hsent
  refine ⟨hhandled, hgiven ▸ hsent, hgiven ▸ hconnected, hgiven ▸ hsub, hreceived, hcalled, ?_, ?_⟩
  · rw [hreceived, hcalled, List.length_map]
    exact List.length_eq_length_filter_add Arrival.heard
  · intro honce
    have hrun :=
      (balanced_create options backoff).run (.create options backoff) rfl es [] nofun honce
    refine ⟨hrun.1, ?_⟩
    have heq : m.stats.successfulConnections = m.stats.connectionLosses +
      if m.state = .connected ∨ start.closesOpen es then 1 else 0 := hrun.2
    by_cases hc : m.state = .connected ∨ start.closesOpen es
    · rw [if_pos hc] at heq ⊢
      omega
    · rw [if_neg hc] at heq ⊢
      omega

/-- The second connection is taken down by the closing call; the first was lost. -/
theorem counters_balance_of_loss :
    let options : BrokerOptions := ⟨"tracker", "broker", 1883, 60, true, .plain⟩
    let es : List Event := [.connect, .report (.ok (.connAck .success false)),
      .listen (some Listener.faulty.callback), .report (.ok (.publish "a" ⟨#[]⟩ false)),
      .report (.error "reset"), .publish ⟨"b", ⟨#[]⟩⟩, .workerMoves, .advance second, .workerMoves,
      .report (.ok (.connAck .success false)), .publish ⟨"c", ⟨#[]⟩⟩, .disconnect second]
    (create options {}).AnswersOnce es ∧
      (((create options {}).run es).stats.successfulConnections : Int) -
        ((create options {}).run es).stats.connectionLosses = 1 := by
  intro options es
  have honce : (create options {}).AnswersOnce es := by
    unfold AnswersOnce
    decide +kernel
  have hclosed : (create options {}).closesOpen es = true := by decide +kernel
  have heq := ((counters_balance options {} es).2.2.2.2.2.2.2 honce).2
  rw [if_pos (.inr hclosed)] at heq
  exact ⟨honce, heq⟩

end SceneRelay.Link
