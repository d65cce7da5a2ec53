import SceneRelay.Proofs.Link.Ledger
import SceneRelay.Relay.Connection

/-! The messages that pass through a link. Each message that it is to send is taken by a client or
dropped, each one that arrives reaches the listener that there is at the time, and all of them are
counted. -/
namespace SceneRelay

/-- A message that a client was given: the state of the link at the time, and whether the client
took it. -/
structure Sending where
  state : ConnectionState
  message : Publication
  taken : Bool

/-- A message that came in, and whether there was a listener for it. -/
structure Arrival where
  topic : String
  payload : ByteArray
  heard : Bool

/-- A message goes out or comes in. -/
def Action.carries : Action → Bool
  | asked (.publish _) _ | called .. => true
  | _ => false

namespace Record

/-- What clients were given to send in a record that begins in state `s`. -/
def sendingsFrom (s : ConnectionState) : List Action → List Sending
  | [] => []
  | .moved t :: tr => sendingsFrom t tr
  | .asked (.publish p) taken :: tr => ⟨s, p, taken⟩ :: sendingsFrom s tr
  | _ :: tr => sendingsFrom s tr

def sendings (tr : List Action) : List Sending := sendingsFrom .disconnected tr

theorem sendingsFrom_cons (s : ConnectionState) (a : Action) (tr : List Action) :
    sendingsFrom s (a :: tr) = sendingsFrom s [a] ++ sendingsFrom (stateFrom s [a]) tr := by
  cases a with
  | asked r taken => cases r <;> rfl
  | _ => rfl

theorem sendingsFrom_append (s : ConnectionState) (tr new : List Action) :
    sendingsFrom s (tr ++ new) = sendingsFrom s tr ++ sendingsFrom (stateFrom s tr) new := by
  induction tr generalizing s with
  | nil => rfl
  | cons a tr ih =>
    have hs : stateFrom s (a :: tr) = stateFrom (stateFrom s [a]) tr := stateFrom_append s [a] tr
    rw [List.cons_append, sendingsFrom_cons, ih, ← List.append_assoc, ← sendingsFrom_cons, hs]

theorem sendings_append (tr new : List Action) :
    sendings (tr ++ new) = sendings tr ++ sendingsFrom (state tr) new :=
  sendingsFrom_append .disconnected tr new

theorem sendingsFrom_eq_nil (s : ConnectionState) {new : List Action}
    (h : ∀ a ∈ new, a.carries = false) : sendingsFrom s new = [] := by
  induction new generalizing s with
  | nil => rfl
  | cons a new ih =>
    obtain ⟨ha, hnew⟩ := List.forall_mem_cons.mp h
    rw [sendingsFrom_cons, ih _ hnew, List.append_nil]
    cases a with
    | asked r taken =>
      cases r with
      | publish p => exact absurd ha.symm Bool.false_ne_true
      | _ => rfl
    | _ => rfl

theorem callsOf_append (tr new : List Action) :
    Relay.callsOf (tr ++ new) = Relay.callsOf tr ++ Relay.callsOf new := List.filterMap_append

theorem callsOf_eq_nil {new : List Action} (h : ∀ a ∈ new, a.carries = false) :
    Relay.callsOf new = [] := by
  apply List.filterMap_eq_nil_iff.mpr
  intro a ha
  cases a with
  | called topic payload => exact absurd (h _ ha).symm Bool.false_ne_true
  | _ => rfl

end Record

/-- What a link has counted of its messages, and what is on record of them. -/
structure Traffic where
  sent : Nat
  dropped : Nat
  received : Nat
  sendings : List Sending
  calls : List (String × ByteArray)

/-- From `t` to `u` the messages `out` were to be sent, and `arrived` came in. Those that a client
was given are among the first, in their order and while the link was connected; those that were
heard are on record as they came. -/
structure Traffic.Grows (t : Traffic) (out : List Publication) (arrived : List Arrival)
    (u : Traffic) : Prop where
  handled : u.sent + u.dropped = t.sent + t.dropped + out.length
  given : ∃ new, u.sendings = t.sendings ++ new ∧ (∀ s ∈ new, s.state = .connected) ∧
    (new.map (·.message)).Sublist out ∧ u.sent = t.sent + (new.filter (·.taken)).length
  received : u.received = t.received + arrived.length
  calls : u.calls = t.calls ++ (arrived.filter (·.heard)).map fun a => (a.topic, a.payload)

namespace Traffic.Grows
variable {t u v : Traffic} {out out' : List Publication} {arrived arrived' : List Arrival}

theorem refl (t : Traffic) : t.Grows [] [] t :=
  ⟨rfl, ⟨[], by simp⟩, rfl, (List.append_nil _).symm⟩

/-- No client is given the message. -/
theorem kept (t : Traffic) (p : Publication) : t.Grows [p] [] { t with dropped := t.dropped + 1 } :=
  ⟨(Nat.add_assoc ..).symm, ⟨[], by simp⟩, rfl, (List.append_nil _).symm⟩

theorem taken (t : Traffic) (p : Publication) :
    t.Grows [p] [] { t with
      sent := t.sent + 1
      sendings := t.sendings ++ [⟨.connected, p, true⟩] } :=
  ⟨Nat.add_right_comm .., ⟨_, rfl, List.forall_mem_singleton.mpr rfl, .refl _, rfl⟩, rfl,
    (List.append_nil _).symm⟩

/-- The client does not take the message. -/
theorem refused (t : Traffic) (p : Publication) :
    t.Grows [p] [] { t with
      dropped := t.dropped + 1
      sendings := t.sendings ++ [⟨.connected, p, false⟩] } :=
  ⟨(Nat.add_assoc ..).symm, ⟨_, rfl, List.forall_mem_singleton.mpr rfl, .refl _, rfl⟩, rfl,
    (List.append_nil _).symm⟩

theorem heard (t : Traffic) (topic : String) (payload : ByteArray) :
    t.Grows [] [⟨topic, payload, true⟩] { t with
      received := t.received + 1
      calls := t.calls ++ [(topic, payload)] } :=
  ⟨rfl, ⟨[], by simp⟩, rfl, rfl⟩

theorem unheard (t : Traffic) (topic : String) (payload : ByteArray) :
    t.Grows [] [⟨topic, payload, false⟩] { t with received := t.received + 1 } :=
  ⟨rfl, ⟨[], by simp⟩, rfl, (List.append_nil _).symm⟩

theorem trans (h : t.Grows out arrived u) (h' : u.Grows out' arrived' v) :
    t.Grows (out ++ out') (arrived ++ arrived') v := by
  obtain ⟨new, hnew, hstate, hmem, hsent⟩ := h.given
  obtain ⟨new', hnew', hstate', hmem', hsent'⟩ := h'.given
  refine ⟨?_, ⟨new ++ new', ?_, ?_, ?_, ?_⟩, ?_, ?_⟩
  · rw [h'.handled, h.handled, List.length_append, Nat.add_assoc]
  · rw [hnew', hnew, List.append_assoc]
  · exact List.forall_mem_append.mpr ⟨hstate, hstate'⟩
  · rw [List.map_append]
    exact hmem.append hmem'
  · rw [hsent', hsent, List.filter_append, List.length_append, Nat.add_assoc]
  · rw [h'.received, h.received, List.length_append, Nat.add_assoc]
  · rw [h'.calls, h.calls, List.filter_append, List.map_append, List.append_assoc]

end Traffic.Grows

namespace Link
open Record

def traffic (l : Link) : Traffic where
  sent := l.stats.publishesSent
  dropped := l.stats.publishesDropped
  received := l.stats.messagesReceived
  sendings := Record.sendings l.trace
  calls := Relay.callsOf l.trace

variable {l m : Link}

/-! ### What has nothing to do with messages -/

theorem traffic_append (l : Link) (new : List Action) (h : ∀ a ∈ new, a.carries = false) :
    ({ l with trace := l.trace ++ new } : Link).traffic = l.traffic := by
  have hs := sendings_append l.trace new
  have hc := callsOf_append l.trace new
  rw [sendingsFrom_eq_nil _ h, List.append_nil] at hs
  rw [callsOf_eq_nil h, List.append_nil] at hc
  simp only [traffic, hs, hc]

theorem traffic_act (l : Link) {a : Action} (ha : a.carries = false) :
    (l.act a).traffic = l.traffic := by
  refine traffic_append l [a] ?_
  intro b hb
  rw [List.mem_singleton.mp hb]
  exact ha

theorem traffic_log (l : Link) (level : LogLevel) (message : String)
    (fields : List (String × LogValue)) : (l.log level message fields).traffic = l.traffic :=
  traffic_act l rfl

theorem traffic_transition (l : Link) (e : ConnectionEvent) :
    (l.transition e).traffic = l.traffic := by
  refine traffic_append l (newsOf l.state (l.state.next e) e) ?_
  intro a ha
  unfold newsOf at ha
  cases hr : l.state.transitionRecord? (l.state.next e) e with
  | none => simp [hr] at ha
  | some r =>
    simp only [hr, Option.elim_some, List.mem_cons, List.not_mem_nil, or_false] at ha
    obtain rfl | rfl := ha <;> rfl

theorem traffic_ask (l : Link) {r : Request} (hr : ∀ p, r ≠ .publish p) :
    (l.ask r).1.traffic = l.traffic := by
  unfold ask
  split
  · rfl
  · rename_i c _
    refine traffic_append l [.asked r (l.granted c r)] ?_
    intro a ha
    rw [List.mem_singleton.mp ha]
    cases r with
    | publish p => exact absurd rfl (hr p)
    | _ => rfl

theorem traffic_askFilter (l : Link) {r : Request} (hr : ∀ p, r ≠ .publish p)
    (filter granted refused : String) :
    (l.askFilter r filter granted refused).traffic = l.traffic := by
  have ha := traffic_ask l hr
  unfold askFilter
  split
  · rfl
  · split <;> rename_i heq <;> rw [heq] at ha
    · exact ha
    · exact (traffic_log _ _ _ _).trans ha
    · exact (traffic_log _ _ _ _).trans ha

theorem traffic_endSession (l : Link) : l.endSession.traffic = l.traffic := by
  unfold endSession
  split
  · exact traffic_act { l with session := none } rfl
  · rfl

theorem traffic_openSession (l : Link) : l.openSession.traffic = l.traffic :=
  (traffic_log _ _ _ _).trans (traffic_act _ rfl)

theorem traffic_startSession? {e : ConnectionEvent} (hm : l.startSession? e = some m) :
    m.traffic = l.traffic := by
  obtain ⟨-, rfl⟩ := startSession?_eq_some hm
  rw [traffic_openSession, traffic_endSession, traffic_transition]

theorem traffic_connect (l : Link) : l.connect.traffic = l.traffic := by
  obtain hm | hm := connect_cases l
  · rw [hm]
  · exact traffic_startSession? hm

theorem traffic_reconnectIfLost (l : Link) : l.reconnectIfLost.traffic = l.traffic := by
  unfold reconnectIfLost scheduleReconnect
  split
  · split
    · rfl
    · exact traffic_act { l with reconnecting := true, worker := some {} } rfl
  · rfl

theorem traffic_lose (l : Link) (e : ConnectionEvent) : (l.lose e).traffic = l.traffic :=
  (traffic_reconnectIfLost _).trans (traffic_transition l e)

theorem traffic_resubscribe (l : Link) (filter : String) :
    (l.resubscribe filter).traffic = l.traffic := by
  have ha := traffic_ask l (r := .subscribe filter) nofun
  unfold resubscribe
  split <;> rename_i heq <;> rw [heq] at ha
  · exact ha
  · exact ha
  · exact (traffic_log _ _ _ _).trans ha

theorem traffic_resubscribeAll (l : Link) : l.resubscribeAll.traffic = l.traffic := by
  unfold resubscribeAll
  generalize l.filters.topics = topics
  induction topics generalizing l with
  | nil => rfl
  | cons t topics ih => exact (ih (l.resubscribe t)).trans (traffic_resubscribe l t)

theorem traffic_acknowledge (l : Link) : l.acknowledge.traffic = l.traffic := by
  have ht := traffic_transition l .acknowledged
  unfold acknowledge
  dsimp only
  split
  · exact (traffic_resubscribeAll _).trans ht
  · exact ht

theorem traffic_endWorker (l : Link) : l.endWorker.traffic = l.traffic :=
  (traffic_reconnectIfLost _).trans
    (traffic_act { l with worker := none, reconnecting := false } rfl)

theorem traffic_backOff (l : Link) (k : UInt32) : (l.backOff k).traffic = l.traffic := by
  have ha := traffic_act l (a := .backedOff (k + 1).toNat (l.backoff.delay k.toNat)) rfl
  have hm := traffic_log (l.act (.backedOff (k + 1).toNat (l.backoff.delay k.toNat))) .info
    "Reconnecting to MQTT broker after delay" [("attempt", .number (k + 1).toNat),
      ("delay_ms", .number (l.backoff.delay k.toNat / millisecond))]
  exact hm.trans ha

theorem traffic_retry (l : Link) (attempts : UInt32) : (l.retry attempts).traffic = l.traffic := by
  unfold retry
  split
  · rename_i m hm
    exact traffic_startSession? (m := m) hm
  · rfl

theorem traffic_stepWorker? {w : Worker} (hm : l.stepWorker? w = some m) :
    m.traffic = l.traffic := by
  cases workerMove hm with
  | ends _ hm => exact hm ▸ traffic_endWorker l
  | told _ hm => exact hm ▸ (traffic_endWorker _).trans (traffic_log l _ _ _)
  | looksOn _ _ _ hm => exact hm ▸ rfl
  | looksAgain _ _ _ hm => exact hm ▸ rfl
  | backsOff _ _ _ hm => exact hm ▸ traffic_backOff l _
  | retries _ _ _ hm => exact hm ▸ traffic_retry l _

theorem traffic_wake (l : Link) : l.wake.traffic = l.traffic := by
  obtain hm | ⟨k, d, -, hm⟩ := wake_cases l
  · rw [hm]
  · exact hm ▸ traffic_retry l k

theorem traffic_finishClosing (l : Link) : l.finishClosing.traffic = l.traffic :=
  (traffic_log _ _ _ _).trans (traffic_transition { l with closing := none, subscribed := false } _)

theorem traffic_cutOff (l : Link) : l.cutOff.traffic = l.traffic :=
  (traffic_finishClosing _).trans (traffic_endSession { l with client := none })

theorem traffic_drain (l : Link) (wasOpen : Bool) (patience : Nanoseconds) :
    (l.drain wasOpen patience).traffic = l.traffic := by
  have ha := traffic_ask l (r := .disconnect) nofun
  cases drained l wasOpen patience with
  | cutsOff _ hm => exact hm ▸ traffic_cutOff l
  | awaits _ _ hm => exact hm ▸ ha
  | warns _ _ hm => exact hm ▸ (traffic_log (l.ask .disconnect).1 _ _ _).trans ha

theorem traffic_stepClosing? {c : Closing} (hm : l.stepClosing? c = some m) :
    m.traffic = l.traffic := by
  cases closingMove hm with
  | drains _ _ hm => exact hm ▸ traffic_drain l _ _
  | finishes _ _ hm => exact hm ▸ traffic_finishClosing l
  | expires _ _ hm =>
    rw [hm, traffic_finishClosing, traffic_endSession, traffic_log]

theorem traffic_disconnect (l : Link) (patience : Nanoseconds) :
    (l.disconnect patience).traffic = l.traffic := by
  unfold disconnect
  split
  · rfl
  · exact traffic_transition l _

/-! ### Messages that are to be sent -/

theorem traffic_countSent (l : Link) :
    l.countSent.traffic = { l.traffic with sent := l.traffic.sent + 1 } := rfl

theorem traffic_countDropped (l : Link) :
    l.countDropped.traffic = { l.traffic with dropped := l.traffic.dropped + 1 } := rfl

theorem traffic_ask_publish {c : Client} (hc : l.client = some c) (p : Publication) :
    (l.ask (.publish p)).1.traffic = { l.traffic with
      sendings := l.traffic.sendings ++
        [⟨Record.state l.trace, p, l.granted c (.publish p)⟩] } := by
  have hs := sendings_append l.trace [.asked (.publish p) (l.granted c (.publish p))]
  have hcalls := callsOf_append l.trace [.asked (.publish p) (l.granted c (.publish p))]
  have hnone : Relay.callsOf [.asked (.publish p) (l.granted c (.publish p))] = [] := rfl
  rw [hnone, List.append_nil] at hcalls
  unfold ask
  rw [hc]
  simp only [traffic, act, hs, hcalls]
  rfl

/-- A message that is to be sent is sent or dropped. -/
theorem grows_publish (hl : l.Ledger) (p : Publication) :
    l.traffic.Grows [p] [] (l.publish p).traffic := by
  unfold publish
  split
  · rw [traffic_log, traffic_countDropped]
    exact .kept _ p
  · rename_i ho
    have hopen : Record.state l.trace = .connected := by
      rw [hl.state]
      simpa [ConnectionState.isOpen] using ho
    cases hc : l.client with
    | none =>
      rw [ask_of_none hc]
      exact .kept _ p
    | some c =>
      have ht := traffic_ask_publish hc p
      rw [hopen] at ht
      rw [ask_of_some hc]
      cases hg : l.granted c (.publish p) with
      | true =>
        rw [hg] at ht
        dsimp only
        rw [traffic_countSent, ht]
        exact .taken _ p
      | false =>
        rw [hg] at ht
        dsimp only
        rw [traffic_log, traffic_countDropped, ht]
        exact .refused _ p

theorem grows_publishAll (hl : l.Ledger) (ps : List Publication) :
    l.traffic.Grows ps [] (l.publishAll ps).traffic := by
  induction ps generalizing l with
  | nil => exact .refl _
  | cons p ps ih => exact (grows_publish hl p).trans (ih (hl.publish p))

/-! ### Messages that come in -/

/-- What the listener answers to a message. -/
def answers (l : Link) (topic : String) (payload : ByteArray) : List Publication :=
  l.callback.elim [] fun f => (f topic payload).publications

theorem traffic_react (l : Link) (topic : String) (reaction : Reaction) :
    (l.react topic reaction).traffic = (l.publishAll reaction.publications).traffic := by
  unfold react
  dsimp only
  split
  · exact traffic_log _ _ _ _
  · rfl

theorem traffic_countReceived (l : Link) :
    l.countReceived.traffic = { l.traffic with received := l.traffic.received + 1 } := rfl

theorem traffic_act_called (l : Link) (topic : String) (payload : ByteArray) :
    (l.act (.called topic payload)).traffic =
      { l.traffic with calls := l.traffic.calls ++ [(topic, payload)] } := by
  have hs := sendings_append l.trace [.called topic payload]
  have hcalls := callsOf_append l.trace [.called topic payload]
  have hnone : sendingsFrom (Record.state l.trace) [.called topic payload] = [] := rfl
  rw [hnone, List.append_nil] at hs
  simp only [traffic, act, hs, hcalls]
  rfl

/-- A message that comes in is counted, and handed to the listener if there is one. -/
theorem grows_arrival (hl : l.Ledger) (topic : String) (payload : ByteArray) :
    l.traffic.Grows (l.answers topic payload) [⟨topic, payload, l.callback.isSome⟩]
      (l.countReceived.dispatch topic payload).traffic := by
  have hcallback : l.countReceived.callback = l.callback := rfl
  unfold dispatch answers
  rw [hcallback]
  cases hc : l.callback with
  | none =>
    dsimp only
    rw [traffic_countReceived]
    exact .unheard _ topic payload
  | some f =>
    have hledger : Ledger (l.countReceived.act (.called topic payload)) :=
      Ledger.act (l := l.countReceived) { hl with } rfl
    have hstep : l.traffic.Grows [] [⟨topic, payload, true⟩]
        (l.countReceived.act (.called topic payload)).traffic := by
      rw [traffic_act_called, traffic_countReceived]
      exact .heard _ topic payload
    dsimp only
    rw [traffic_react]
    exact hstep.trans (grows_publishAll hledger (f topic payload).publications)

/-! ### Events -/

/-- The messages that come in with an event. -/
def Event.arrivals (l : Link) : Event → List Arrival
  | .report (.ok (.publish topic payload _)) =>
    if l.session.isSome then [⟨topic, payload, l.callback.isSome⟩] else []
  | _ => []

/-- The messages that are to be sent with an event: the one that is published, or those that the
listener answers to what comes in. -/
def Event.publications (l : Link) : Event → List Publication
  | .publish p => [p]
  | e => (e.arrivals l).flatMap fun a => l.answers a.topic a.payload

theorem grows_handleRoute (hl : l.Ledger) (hs : l.session.isSome) (packet : Packet) :
    l.traffic.Grows (Event.publications l (.report (.ok packet)))
      (Event.arrivals l (.report (.ok packet))) (l.handleRoute packet.route).1.traffic := by
  cases packet with
  | publish topic payload retain =>
    simp only [Event.publications, Event.arrivals, hs, if_true, List.flatMap_singleton]
    exact grows_arrival hl topic payload
  | connAck code present =>
    have ht : (l.handleRoute (Packet.connAck code present).route).1.traffic = l.traffic := by
      cases code with
      | success => exact traffic_acknowledge l
      | _ => exact traffic_lose l _
    exact ht ▸ .refl _
  | subscribeAck packetId codes =>
    have ht : (l.warnOfRefusals packetId (codes.map SubscribeCode.byte)).traffic = l.traffic := by
      unfold warnOfRefusals
      split
      · exact traffic_log _ _ _ _
      · rfl
    have hr : (l.handleRoute (Packet.subscribeAck packetId codes).route).1.traffic =
        (l.warnOfRefusals packetId (codes.map SubscribeCode.byte)).traffic := rfl
    exact (hr.trans ht) ▸ .refl _
  | disconnect =>
    have ht : (l.handleRoute Packet.disconnect.route).1.traffic = l.traffic := by
      dsimp only [Packet.route, handleRoute]
      split
      · rfl
      · exact traffic_lose l _
    exact ht ▸ .refl _
  | _ => exact .refl _

theorem grows_report (hl : l.Ledger) (r : Report) :
    l.traffic.Grows (Event.publications l (.report r)) (Event.arrivals l (.report r))
      (l.report r).traffic := by
  cases reported l r with
  | unheard session hm =>
    have ha : Event.arrivals l (.report r) = [] := by
      unfold Event.arrivals
      split <;> simp [session]
    have hp : Event.publications l (.report r) = [] := by simp [Event.publications, ha]
    rw [hm, ha, hp]
    exact .refl _
  | @readsOn packet session report hm =>
    subst report
    exact hm ▸ grows_handleRoute hl session packet
  | @leaves packet session report hm =>
    subst report
    rw [hm, traffic_endSession]
    exact grows_handleRoute hl session packet
  | closes _ _ report hm =>
    subst report
    rw [hm, traffic_endSession]
    exact .refl _
  | fails _ _ report hm =>
    subst report
    rw [hm, traffic_endSession, traffic_lose]
    exact .refl _

/-- What goes out and comes in with an event is counted and on record. -/
theorem grows_after (hl : l.Ledger) (e : Event) :
    l.traffic.Grows (e.publications l) (e.arrivals l) (l.after e).traffic := by
  have still {n : Link} (h : n.traffic = l.traffic) : l.traffic.Grows [] [] n.traffic :=
    h ▸ .refl _
  cases e with
  | connect => exact still (traffic_connect l)
  | subscribe filter =>
    exact still (traffic_askFilter (l.addFilter filter) (r := .subscribe filter) (by simp) _ _ _)
  | unsubscribe filter =>
    exact still (traffic_askFilter (l.removeFilter filter) (r := .unsubscribe filter) (by simp)
      _ _ _)
  | publish p => exact grows_publish hl p
  | listen callback => exact still rfl
  | disconnect patience => exact still (traffic_disconnect l patience)
  | report r => exact grows_report hl r
  | flushed => exact still rfl
  | answers takes => exact still rfl
  | advance time => exact still rfl
  | sessionMoves =>
    refine still (move_keeps (P := fun m => m.traffic = l.traffic) rfl fun _ _ _ hm => ?_)
    rw [eq_giveUpAttempt hm, giveUpAttempt, traffic_endSession, traffic_lose]
  | workerMoves =>
    exact still (move_keeps (P := fun m => m.traffic = l.traffic) rfl
      fun _ _ _ hm => traffic_stepWorker? hm)
  | workerWakes => exact still (traffic_wake l)
  | closingMoves =>
    exact still (move_keeps (P := fun m => m.traffic = l.traffic) rfl
      fun _ _ _ hm => traffic_stepClosing? hm)

/-! ### Runs -/

/-- The messages that come in during a run. -/
def arrivals : Link → List Event → List Arrival
  | _, [] => []
  | l, e :: es => e.arrivals l ++ arrivals (l.after e) es

/-- The messages that are to be sent during a run. -/
def publications : Link → List Event → List Publication
  | _, [] => []
  | l, e :: es => e.publications l ++ publications (l.after e) es

theorem grows_run (hl : l.Ledger) (es : List Event) :
    l.traffic.Grows (l.publications es) (l.arrivals es) (l.run es).traffic := by
  induction es generalizing l with
  | nil => exact .refl _
  | cons e es ih => exact (grows_after hl e).trans (ih (hl.after e))

end Link
end SceneRelay
