import SceneRelay.Proofs.Link.Ledger

/-! The phases of a link, from before its first attempt to the end of its closing call: what its
state, its session, its worker and its client are together. Every event leads from one phase to
another. -/
namespace SceneRelay

/-- A connection that was tried or open ends by this event. -/
def ConnectionEvent.isLoss : ConnectionEvent → Bool
  | refused _ | disconnectedByBroker | networkError _ => true
  | _ => false

namespace ConnectionState

/-- Only the end of the closing call leads away from shutting down. -/
theorem next_of_shuttingDown {e : ConnectionEvent} (he : e ≠ .shutdownComplete) :
    shuttingDown.next e = shuttingDown := if_pos ⟨rfl, he⟩

theorem next_of_ne {s : ConnectionState} (e : ConnectionEvent) (hs : s ≠ shuttingDown) :
    s.next e = target e := if_neg fun h => hs h.1

theorem target_of_isLoss {e : ConnectionEvent} (he : e.isLoss) : target e = disconnected := by
  cases e <;> first | rfl | exact absurd he Bool.false_ne_true

theorem next_shutdownRequested (s : ConnectionState) :
    s.next .shutdownRequested = shuttingDown := by
  unfold next
  split <;> rfl

theorem next_shutdownComplete (s : ConnectionState) : s.next .shutdownComplete = disconnected :=
  if_neg fun h => h.2 rfl

end ConnectionState

theorem ConnectionEvent.ne_shutdownComplete {e : ConnectionEvent} (he : e.isLoss) :
    e ≠ .shutdownComplete := by
  rintro rfl
  exact absurd he Bool.false_ne_true

namespace Link

/-- Nobody has begun to close the link. -/
def IsUp (l : Link) : Prop := l.stopping = false ∧ l.closing = none

/-- Where a link stands. -/
inductive Phase (l : Link) : Prop
  | idle (up : l.IsUp) (state : l.state = .disconnected)
      (attempts : l.stats.connectionAttempts = 0) (session : l.session = none)
      (worker : l.worker = none)
  | backingOff {w : Worker} (up : l.IsUp) (state : l.state = .disconnected)
      (attempts : 0 < l.stats.connectionAttempts) (session : l.session = none)
      (worker : l.worker = some w)
  | attempting {s : Session} (up : l.IsUp) (state : l.state = .connecting)
      (attempts : 0 < l.stats.connectionAttempts) (session : l.session = some s)
      (deadline : s.deadline.isSome) (client : l.client.isSome) (worker : l.worker = none)
  | retrying {s : Session} {k : UInt32} (up : l.IsUp) (state : l.state = .reconnecting)
      (attempts : 0 < l.stats.connectionAttempts) (session : l.session = some s)
      (deadline : s.deadline.isSome) (client : l.client.isSome)
      (worker : l.worker = some ⟨k, .resolving⟩)
  | connected {s : Session} (up : l.IsUp) (state : l.state = .connected)
      (attempts : 0 < l.stats.connectionAttempts) (session : l.session = some s)
      (deadline : s.deadline = none) (client : l.client.isSome)
      (worker : ∀ w ∈ l.worker, ∀ d, w.phase ≠ .waiting d)
  | joining {wasOpen : Bool} {patience : Nanoseconds} (stopping : l.stopping = true)
      (closing : l.closing = some (.joining wasOpen patience)) (state : l.state = .shuttingDown)
      (client : wasOpen = true → l.client.isSome)
  | draining {patience deadline : Nanoseconds} (stopping : l.stopping = true)
      (closing : l.closing = some (.draining patience deadline)) (state : l.state = .shuttingDown)
      (client : l.client = none) (worker : l.worker = none)
  | closed (stopping : l.stopping = true) (closing : l.closing = none)
      (state : l.state = .disconnected) (session : l.session = none) (worker : l.worker = none)
      (client : l.client = none)

theorem phase_create (options : BrokerOptions) (backoff : Backoff) :
    Phase (create options backoff) := .idle ⟨rfl, rfl⟩ rfl rfl rfl rfl

/-! ### What the parts of an event do -/

section
variable {l : Link}

/-- What it means that a session was opened for an event. -/
structure Started (l : Link) (e : ConnectionEvent) (m : Link) : Prop where
  state : m.state = ConnectionState.disconnected.next e
  stopping : m.stopping = false
  closing : m.closing = l.closing
  attempts : m.stats.connectionAttempts = l.stats.connectionAttempts + 1
  session : m.session = some ⟨l.generation + 1, some (l.now + connectTimeout)⟩
  client : m.client.isSome
  worker : m.worker = l.worker

theorem startSession?_of_idle (hr : l.stopping = false) (hs : l.state = .disconnected)
    (e : ConnectionEvent) : ∃ m, l.startSession? e = some m ∧ Started l e m := by
  refine ⟨_, if_pos ⟨hs, by simp [hr]⟩, ?_⟩
  obtain ⟨trace, he⟩ := exists_endSession_eq (l.transition e)
  rw [he]
  exact ⟨congrArg (·.next e) hs, hr, rfl, rfl, rfl, rfl, rfl⟩

theorem startSession?_eq_none (e : ConnectionEvent)
    (h : l.stopping = true ∨ l.state ≠ .disconnected) : l.startSession? e = none := by
  apply if_neg
  rintro ⟨hd, hup⟩
  obtain hs | hs := h
  · simp [hs] at hup
  · exact hs hd

theorem connect_of_up (hs : l.stopping = false) (hr : l.reconnecting = false) :
    l.connect = (l.startSession? .connectStarted).getD l := by simp [connect, hs, hr]

/-- A call to connect changes nothing but an idle link. -/
theorem connect_eq_self
    (h : l.stopping = true ∨ l.reconnecting = true ∨ l.state ≠ .disconnected) : l.connect = l := by
  unfold connect
  split
  · rfl
  · rename_i hc
    rw [startSession?_eq_none _ (by tauto), Option.getD_none]

theorem noteLoss_of_ne (hs : l.state ≠ .shuttingDown) {e : ConnectionEvent} (he : e.isLoss) :
    (l.noteLoss e).state = .disconnected :=
  (ConnectionState.next_of_ne e hs).trans (ConnectionState.target_of_isLoss he)

theorem noteLoss_of_shuttingDown (hs : l.state = .shuttingDown) {e : ConnectionEvent}
    (he : e.isLoss) : (l.noteLoss e).state = .shuttingDown := by
  have hn := ConnectionState.next_of_shuttingDown (ConnectionEvent.ne_shutdownComplete he)
  exact (congrArg (·.next e) hs).trans hn

/-- After a loss there is a worker: the one there was, or a new one. -/
theorem reconnectIfLost_worker (hs : l.stopping = false) (hd : l.state = .disconnected)
    (hg : l.reconnecting = l.worker.isSome) :
    l.reconnectIfLost.worker = some (l.worker.getD {}) := by
  unfold reconnectIfLost scheduleReconnect
  cases hw : l.worker <;> simp_all [ConnectionState.wantsReconnect, act]

theorem newsOf_self (s : ConnectionState) (e : ConnectionEvent) : newsOf s s e = [] := by
  rw [newsOf, (s.transitionRecord?_eq_none_iff s e).mpr rfl, Option.elim_none]

/-- An event that does not move the state changes nothing. -/
theorem transition_eq_self (hm : l.announced = l.state) {e : ConnectionEvent}
    (hs : l.state.next e = l.state) : l.transition e = l := by
  simp only [transition, hs, newsOf_self, List.append_nil]
  nth_rewrite 2 [← hm]
  rfl

theorem acknowledge_of_shuttingDown (hm : l.announced = l.state) (hs : l.state = .shuttingDown) :
    l.acknowledge = l := by
  have ht : l.transition .acknowledged = l :=
    transition_eq_self hm (by rw [hs]; exact ConnectionState.next_of_shuttingDown nofun)
  simp [acknowledge, ht, hs]

theorem reconnectIfLost_of_stopping (hs : l.stopping = true) : l.reconnectIfLost = l := by
  simp [reconnectIfLost, ConnectionState.wantsReconnect, hs]

/-- A worker that is not needed any more ends for good. -/
theorem endWorker_eq (h : l.stopping = true ∨ l.state ≠ .disconnected) :
    l.endWorker = { l with worker := none, reconnecting := false }.act .retired := by
  unfold endWorker reconnectIfLost
  apply if_neg
  intro hw
  simp only [ConnectionState.wantsReconnect, act, Bool.and_eq_true, Bool.not_eq_true'] at hw
  obtain hs | hs := h
  · simp [hs] at hw
  · exact hs (of_decide_eq_true hw.2)

theorem decide_eq_endWorker (k : UInt32)
    (h : l.stopping = true ∨ l.state = .connected ∨ l.state = .shuttingDown) :
    l.decide k = l.endWorker := by
  unfold decide
  split
  · rfl
  · exact if_pos (h.resolve_left ‹_›)

theorem lose_of_stopping (hs : l.stopping = true) (e : ConnectionEvent) : l.lose e = l.noteLoss e :=
  reconnectIfLost_of_stopping hs

end

namespace Phase
variable {l m : Link}

/-- The phase of a link hangs on its core, whatever the time, the filters and the listener. -/
theorem of_core (h : l.Phase) {now : Nanoseconds} {filters : Subscriptions} {subscribed : Bool}
    {callback : Option Callback}
    (hm : m.core = { l.core with now, filters, subscribed, callback }) : m.Phase := by
  have hstate : m.state = l.state := congrArg (·.state) hm
  have hstopping : m.stopping = l.stopping := congrArg (·.stopping) hm
  have hclosing : m.closing = l.closing := congrArg (·.closing) hm
  have hattempts : m.stats.connectionAttempts = l.stats.connectionAttempts :=
    congrArg (·.stats.connectionAttempts) hm
  have hsession : m.session = l.session := congrArg (·.session) hm
  have hworker : m.worker = l.worker := congrArg (·.worker) hm
  have hclient : m.client.isSome = l.client.isSome := by
    simpa [core] using congrArg (·.client.isSome) hm
  have hnone : l.client = none → m.client = none := by
    intro hn
    simpa [hn] using hclient
  have hup : l.IsUp → m.IsUp := by
    intro hu
    exact ⟨hstopping.trans hu.1, hclosing.trans hu.2⟩
  cases h with
  | idle up state attempts session worker =>
    exact .idle (hup up) (hstate.trans state) (hattempts.trans attempts) (hsession.trans session)
      (hworker.trans worker)
  | backingOff up state attempts session worker =>
    exact .backingOff (hup up) (hstate.trans state) (hattempts ▸ attempts)
      (hsession.trans session) (hworker.trans worker)
  | attempting up state attempts session deadline client worker =>
    exact .attempting (hup up) (hstate.trans state) (hattempts ▸ attempts)
      (hsession.trans session) deadline (hclient.trans client) (hworker.trans worker)
  | retrying up state attempts session deadline client worker =>
    exact .retrying (hup up) (hstate.trans state) (hattempts ▸ attempts)
      (hsession.trans session) deadline (hclient.trans client) (hworker.trans worker)
  | connected up state attempts session deadline client worker =>
    exact .connected (hup up) (hstate.trans state) (hattempts ▸ attempts)
      (hsession.trans session) deadline (hclient.trans client) (hworker ▸ worker)
  | joining stopping closing state client =>
    exact .joining (hstopping.trans stopping) (hclosing.trans closing) (hstate.trans state)
      fun ho => hclient.trans (client ho)
  | draining stopping closing state client worker =>
    exact .draining (hstopping.trans stopping) (hclosing.trans closing) (hstate.trans state)
      (hnone client) (hworker.trans worker)
  | closed stopping closing state session worker client =>
    exact .closed (hstopping.trans stopping) (hclosing.trans closing) (hstate.trans state)
      (hsession.trans session) (hworker.trans worker) (hnone client)

theorem of_core_eq (h : l.Phase) (hm : m.core = l.core) : m.Phase := h.of_core hm

theorem client_of_connected (h : l.Phase) (hs : l.state = .connected) : l.client.isSome := by
  cases h <;> simp_all

theorem stopping_of_closing (h : l.Phase) {c : Closing} (hc : l.closing = some c) :
    l.stopping = true := by
  cases h <;> simp_all [IsUp]

theorem client_of_joining (h : l.Phase) {patience : Nanoseconds}
    (hc : l.closing = some (.joining true patience)) : l.client.isSome := by
  cases h <;> simp_all [IsUp]

theorem state_of_stopping (h : l.Phase) (hs : l.stopping = true) :
    l.state = .disconnected ∨ l.state = .shuttingDown := by
  cases h <;> simp_all [IsUp]

/-! ### Calls -/

theorem connect (h : l.Phase) (hl : l.Ledger) : Phase l.connect := by
  have hp := h
  cases hp with
  | idle up state attempts session worker =>
    have hr : l.reconnecting = false := by simp [hl.guard, worker]
    obtain ⟨m, hm, hs⟩ := startSession?_of_idle up.1 state .connectStarted
    rw [connect_of_up up.1 hr, hm]
    exact .attempting ⟨hs.stopping, hs.closing.trans up.2⟩ hs.state (hs.attempts ▸ Nat.succ_pos _)
      hs.session rfl hs.client (hs.worker.trans worker)
  | backingOff up state attempts session worker =>
    rwa [connect_eq_self (.inr (.inl (by simp [hl.guard, worker])))]
  | attempting up state attempts session deadline client worker =>
    rwa [connect_eq_self (.inr (.inr (by simp [state])))]
  | retrying up state attempts session deadline client worker =>
    rwa [connect_eq_self (.inr (.inr (by simp [state])))]
  | connected up state attempts session deadline client worker =>
    rwa [connect_eq_self (.inr (.inr (by simp [state])))]
  | joining stopping closing state client => rwa [connect_eq_self (.inl stopping)]
  | draining stopping closing state client worker => rwa [connect_eq_self (.inl stopping)]
  | closed stopping closing state session worker client => rwa [connect_eq_self (.inl stopping)]

theorem disconnect (h : l.Phase) (patience : Nanoseconds) : Phase (l.disconnect patience) := by
  by_cases hs : l.stopping
  · rwa [Link.disconnect, if_pos hs]
  · rw [Link.disconnect, if_neg hs]
    refine .joining rfl rfl (ConnectionState.next_shutdownRequested l.state) ?_
    intro ho
    apply h.client_of_connected
    simpa [ConnectionState.isOpen] using ho

/-! ### Reports -/

theorem lost_of_up (up : l.IsUp) (hg : l.reconnecting = l.worker.isSome)
    (hs : l.state ≠ .shuttingDown) (attempts : 0 < l.stats.connectionAttempts)
    {e : ConnectionEvent} (he : e.isLoss) : Phase (l.lose e).endSession := by
  have hn := noteLoss_of_ne hs he
  have hw := reconnectIfLost_worker (l := l.noteLoss e) up.1 hn hg
  obtain ⟨worker, reconnecting, trace, hr⟩ := exists_reconnectIfLost_eq (l.noteLoss e)
  obtain ⟨trace', he⟩ := exists_endSession_eq (l.lose e)
  rw [he]
  unfold Link.lose
  rw [hr] at hw ⊢
  exact .backingOff up hn attempts rfl hw

theorem endSession_of_stopping (h : l.Phase) (hs : l.stopping = true) : Phase l.endSession := by
  obtain ⟨trace, he⟩ := exists_endSession_eq l
  rw [he]
  cases h with
  | idle up _ _ _ _ => exact absurd (up.1.symm.trans hs) Bool.false_ne_true
  | backingOff up _ _ _ _ => exact absurd (up.1.symm.trans hs) Bool.false_ne_true
  | attempting up _ _ _ _ _ _ => exact absurd (up.1.symm.trans hs) Bool.false_ne_true
  | retrying up _ _ _ _ _ _ => exact absurd (up.1.symm.trans hs) Bool.false_ne_true
  | connected up _ _ _ _ _ _ => exact absurd (up.1.symm.trans hs) Bool.false_ne_true
  | joining stopping closing state client => exact .joining stopping closing state client
  | draining stopping closing state client worker =>
    exact .draining stopping closing state client worker
  | closed stopping closing state _ worker client =>
    exact .closed stopping closing state rfl worker client

/-- However a live session ends by a loss, the link backs off from then on, unless it is closing. -/
theorem lost (h : l.Phase) (hl : l.Ledger) (hs : l.session.isSome) {e : ConnectionEvent}
    (he : e.isLoss) : Phase (l.lose e).endSession := by
  have hp := h
  cases hp with
  | idle _ _ _ session _ => simp [session] at hs
  | backingOff _ _ _ session _ => simp [session] at hs
  | attempting up state attempts _ _ _ _ =>
    exact lost_of_up up hl.guard (by simp [state]) attempts he
  | retrying up state attempts _ _ _ _ =>
    exact lost_of_up up hl.guard (by simp [state]) attempts he
  | connected up state attempts _ _ _ _ =>
    exact lost_of_up up hl.guard (by simp [state]) attempts he
  | joining stopping closing state client =>
    rw [lose_of_stopping stopping]
    have hn := noteLoss_of_shuttingDown state he
    exact endSession_of_stopping (.joining stopping closing hn client) stopping
  | draining stopping closing state client worker =>
    rw [lose_of_stopping stopping]
    have hn := noteLoss_of_shuttingDown state he
    exact endSession_of_stopping (.draining stopping closing hn client worker) stopping
  | closed _ _ _ session _ _ => simp [session] at hs

theorem rearm (h : l.Phase) : Phase l.rearm := by
  cases h with
  | idle up state attempts session worker =>
    exact .idle up state attempts (by simp [Link.rearm, session]) worker
  | backingOff up state attempts session worker =>
    exact .backingOff up state attempts (by simp [Link.rearm, session]) worker
  | attempting up state attempts session deadline client worker =>
    exact .attempting up state attempts (by rw [Link.rearm, session, Option.map_some])
      (by simp [state, ConnectionState.isAttempting]) client worker
  | retrying up state attempts session deadline client worker =>
    exact .retrying up state attempts (by rw [Link.rearm, session, Option.map_some])
      (by simp [state, ConnectionState.isAttempting]) client worker
  | connected up state attempts session deadline client worker =>
    exact .connected up state attempts (by rw [Link.rearm, session, Option.map_some])
      (by simp [state, ConnectionState.isAttempting]) client worker
  | joining stopping closing state client => exact .joining stopping closing state client
  | draining stopping closing state client worker =>
    exact .draining stopping closing state client worker
  | closed stopping closing state session worker client =>
    exact .closed stopping closing state (by simp [Link.rearm, session]) worker client

/-- Once the broker has taken it up, the session waits without a deadline. -/
theorem acknowledged_of_up (up : l.IsUp) (hs : l.state ≠ .shuttingDown)
    (attempts : 0 < l.stats.connectionAttempts) (session : l.session.isSome)
    (client : l.client.isSome) (worker : ∀ w ∈ l.worker, ∀ d, w.phase ≠ .waiting d) :
    Phase l.acknowledge.rearm := by
  have hn : (l.transition .acknowledged).state = .connected :=
    ConnectionState.next_of_ne _ hs
  obtain ⟨s, session⟩ := Option.isSome_iff_exists.mp session
  have hc : l.acknowledge.rearm.core = (l.transition .acknowledged).rearm.core :=
    congrArg Link.rearm (core_acknowledge l)
  refine of_core_eq (l := (l.transition .acknowledged).rearm) ?_ hc
  refine .connected (s := ⟨s.generation, none⟩) up hn attempts ?_ rfl client worker
  have hse : (l.transition .acknowledged).session = some s := session
  simp [Link.rearm, hse, hn, ConnectionState.isAttempting]

theorem acknowledge (h : l.Phase) (hl : l.Ledger) (hs : l.session.isSome) :
    Phase l.acknowledge.rearm := by
  have hp := h
  cases hp with
  | idle _ _ _ session _ => simp [session] at hs
  | backingOff _ _ _ session _ => simp [session] at hs
  | attempting up state attempts _ _ client worker =>
    exact acknowledged_of_up up (by simp [state]) attempts hs client (by simp [worker])
  | retrying up state attempts _ _ client worker =>
    exact acknowledged_of_up up (by simp [state]) attempts hs client (by simp [worker])
  | connected up state attempts _ _ client worker =>
    exact acknowledged_of_up up (by simp [state]) attempts hs client worker
  | joining stopping closing state client =>
    exact (acknowledge_of_shuttingDown hl.mirror state).symm ▸ h.rearm
  | draining stopping closing state client worker =>
    exact (acknowledge_of_shuttingDown hl.mirror state).symm ▸ h.rearm
  | closed _ _ _ session _ _ => simp [session] at hs

theorem report (h : l.Phase) (hl : l.Ledger) (r : Report) : Phase (l.report r) := by
  unfold Link.report
  split
  · exact h
  · have hs : l.session.isSome := Option.isNone_eq_false_iff.mp (Bool.eq_false_iff.mpr ‹_›)
    cases r with
    | error text =>
      dsimp only
      split
      · exact h.endSession_of_stopping ‹_›
      · exact h.lost hl hs rfl
    | ok packet =>
      dsimp only
      cases packet.route with
      | acknowledged present => exact h.acknowledge hl hs
      | refused code => exact h.lost hl hs rfl
      | message topic payload retain =>
        exact (h.of_core_eq (m := l.countReceived.dispatch topic payload) (by simp)).rearm
      | subscribed packetId codes =>
        exact (h.of_core (core_subscribed l packetId codes)).rearm
      | disconnected =>
        simp only [Link.handleRoute]
        split
        · exact h.endSession_of_stopping ‹_›
        · exact h.lost hl hs rfl
      | disconnectSent =>
        simp only [Link.handleRoute]
        by_cases ht : l.stopping
        · rw [if_pos ht]
          exact h.endSession_of_stopping ht
        · rw [if_neg ht]
          exact h.rearm
      | infrastructure text => exact h.rearm
      | outgoing => exact h.rearm

/-! ### Moves of the tasks -/

theorem stepSession? (h : l.Phase) (hl : l.Ledger) {s : Session} (hs : l.session = some s)
    (hm : l.stepSession? s = some m) : m.Phase := by
  obtain rfl := eq_giveUpAttempt hm
  exact h.lost hl (by rw [hs, Option.isSome_some]) rfl

theorem retry (h : l.Phase) (hw : l.worker.isSome)
    (hs : l.stopping = true ∨ l.state = .disconnected) (k : UInt32) : Phase (l.retry k) := by
  have hp := h
  cases hp with
  | idle _ _ _ _ worker => simp [worker] at hw
  | backingOff up state attempts session worker =>
    obtain ⟨m, hm, hst⟩ := startSession?_of_idle up.1 state (.retryStarted (nextAttempt k))
    simp only [Link.retry, hm]
    exact .retrying ⟨hst.stopping, hst.closing.trans up.2⟩ hst.state
      (hst.attempts ▸ Nat.succ_pos _) hst.session rfl hst.client rfl
  | attempting _ _ _ _ _ _ worker => simp [worker] at hw
  | retrying up state _ _ _ _ _ => simp [up.1, state] at hs
  | connected up state _ _ _ _ _ => simp [up.1, state] at hs
  | joining stopping closing state client =>
    simp only [Link.retry, startSession?_eq_none _ (.inl stopping)]
    exact .joining stopping closing state client
  | draining _ _ _ _ worker => simp [worker] at hw
  | closed _ _ _ _ worker _ => simp [worker] at hw

theorem wake (h : l.Phase) : Phase l.wake := by
  obtain hm | ⟨k, d, hw, hm⟩ := wake_cases l
  · rwa [hm]
  · refine hm ▸ h.retry (by rw [hw, Option.isSome_some]) ?_ k
    cases h with
    | idle _ state _ _ _ => exact .inr state
    | backingOff _ state _ _ _ => exact .inr state
    | attempting _ _ _ _ _ _ worker => simp [worker] at hw
    | retrying _ _ _ _ _ _ worker => simp [worker] at hw
    | connected _ _ _ _ _ _ worker => exact absurd rfl (worker _ hw d)
    | joining stopping _ _ _ => exact .inl stopping
    | draining stopping _ _ _ _ => exact .inl stopping
    | closed stopping _ _ _ _ _ => exact .inl stopping

/-- While the link shuts down its worker can only end. -/
theorem endWorker_of_joining {wasOpen : Bool} {patience : Nanoseconds}
    (stopping : l.stopping = true) (closing : l.closing = some (.joining wasOpen patience))
    (state : l.state = .shuttingDown) (client : wasOpen = true → l.client.isSome) :
    Phase l.endWorker := by
  rw [endWorker_eq (.inl stopping)]
  exact .joining stopping closing state client

/-- The worker of a link that backs off goes on, and in the end makes the next attempt. -/
theorem stepWorker?_of_backingOff {w w' : Worker} (up : l.IsUp) (state : l.state = .disconnected)
    (attempts : 0 < l.stats.connectionAttempts) (session : l.session = none)
    (worker : l.worker = some w) (hl : l.Ledger) (hm : l.stepWorker? w' = some m) : m.Phase := by
  have ha : l.announced = .disconnected := hl.mirror.trans state
  have hk (k : UInt32) (phase : WorkerPhase) : Phase (l.setWorker k phase) :=
    .backingOff up state attempts session rfl
  cases workerMove hm with
  | ends hd _ => simp [up.1, state, ha] at hd
  | told stopping _ => simp [up.1] at stopping
  | looksOn _ _ hs _ => simp [state, ConnectionState.isAttempting] at hs
  | looksAgain _ _ _ hm => exact hm ▸ hk _ _
  | backsOff _ _ _ hm => exact hm ▸ .backingOff up state attempts session rfl
  | retries _ _ _ hm =>
    refine hm ▸ Phase.retry ?_ (by rw [worker, Option.isSome_some]) (.inr state) _
    exact .backingOff up state attempts session worker

/-- The worker of a connected link ends, after one more look. -/
theorem stepWorker?_of_connected {s : Session} {w : Worker} (up : l.IsUp)
    (state : l.state = .connected) (attempts : 0 < l.stats.connectionAttempts)
    (session : l.session = some s) (deadline : s.deadline = none) (client : l.client.isSome)
    (hw : ∀ d, w.phase ≠ .waiting d) (hm : l.stepWorker? w = some m) : m.Phase := by
  cases workerMove hm with
  | ends _ hm =>
    rw [hm, endWorker_eq (.inr (by simp [state]))]
    exact .connected up state attempts session deadline client (by simp [act])
  | told stopping _ => simp [up.1] at stopping
  | looksOn _ _ hs _ => simp [state, ConnectionState.isAttempting] at hs
  | looksAgain _ _ _ hm =>
    exact hm ▸ .connected up state attempts session deadline client (by simp [Link.setWorker])
  | backsOff _ _ hs _ => exact absurd (.inl state) hs
  | retries _ phase _ _ => exact absurd phase (hw _)

theorem stepWorker? (h : l.Phase) (hl : l.Ledger) {w : Worker} (hw : l.worker = some w)
    (hm : l.stepWorker? w = some m) : m.Phase := by
  cases h with
  | idle _ _ _ _ worker => simp [worker] at hw
  | backingOff up state attempts session worker =>
    exact stepWorker?_of_backingOff up state attempts session worker hl hm
  | attempting _ _ _ _ _ _ worker => simp [worker] at hw
  | retrying up state _ _ _ _ worker =>
    rw [worker] at hw
    cases hw
    have ha : l.announced = .reconnecting := hl.mirror.trans state
    simp [Link.stepWorker?, up.1, ha, ConnectionState.isAttempting] at hm
  | connected up state attempts session deadline client worker =>
    exact stepWorker?_of_connected up state attempts session deadline client (worker w hw) hm
  | joining stopping closing state client =>
    cases workerMove hm with
    | ends _ hm => exact hm ▸ endWorker_of_joining stopping closing state client
    | told _ hm =>
      exact hm ▸ endWorker_of_joining (l := l.log .info _ _) stopping closing state client
    | looksOn up _ _ _ => simp [stopping] at up
    | looksAgain up _ _ _ => simp [stopping] at up
    | backsOff up _ _ _ => simp [stopping] at up
    | retries up _ _ _ => simp [stopping] at up
  | draining _ _ _ _ worker => simp [worker] at hw
  | closed _ _ _ _ worker _ => simp [worker] at hw

theorem finished (stopping : l.stopping = true) (session : l.session = none)
    (worker : l.worker = none) (client : l.client = none) : Phase l.finishClosing :=
  .closed stopping rfl (ConnectionState.next_shutdownComplete l.state) session worker client

theorem cutOff (stopping : l.stopping = true) (worker : l.worker = none) : Phase l.cutOff := by
  obtain ⟨trace, he⟩ := exists_endSession_eq { l with client := none }
  rw [Link.cutOff, he]
  exact finished stopping rfl worker rfl

theorem awaitSession (stopping : l.stopping = true) (state : l.state = .shuttingDown)
    (worker : l.worker = none) (patience : Nanoseconds) : Phase (l.awaitSession patience) :=
  .draining stopping rfl state rfl worker

theorem drain (stopping : l.stopping = true) (state : l.state = .shuttingDown)
    (worker : l.worker = none) (wasOpen : Bool) (patience : Nanoseconds) :
    Phase (l.drain wasOpen patience) := by
  have ha := core_ask l .disconnect
  have hstopping : (l.ask .disconnect).1.stopping = true :=
    (congrArg (·.stopping) ha).trans stopping
  have hstate : (l.ask .disconnect).1.state = .shuttingDown := (congrArg (·.state) ha).trans state
  have hworker : (l.ask .disconnect).1.worker = none := (congrArg (·.worker) ha).trans worker
  cases drained l wasOpen patience with
  | cutsOff _ hm => exact hm ▸ cutOff stopping worker
  | awaits _ _ hm => exact hm ▸ awaitSession hstopping hstate hworker patience
  | warns _ _ hm =>
    exact hm ▸ awaitSession (l := Link.log _ _ _ _) hstopping hstate hworker patience

theorem stepClosing? (h : l.Phase) {c : Closing} (hc : l.closing = some c)
    (hm : l.stepClosing? c = some m) : m.Phase := by
  cases h with
  | idle up _ _ _ _ => simp [up.2] at hc
  | backingOff up _ _ _ _ => simp [up.2] at hc
  | attempting up _ _ _ _ _ _ => simp [up.2] at hc
  | retrying up _ _ _ _ _ _ => simp [up.2] at hc
  | connected up _ _ _ _ _ _ => simp [up.2] at hc
  | joining stopping closing state client =>
    rw [closing] at hc
    cases hc
    cases closingMove hm with
    | drains _ worker hm => exact hm ▸ drain stopping state worker _ _
    | finishes call _ _ => cases call
    | expires call _ _ => cases call
  | draining stopping closing state client worker =>
    rw [closing] at hc
    cases hc
    cases closingMove hm with
    | drains call _ _ => cases call
    | finishes _ session hm => exact hm ▸ finished stopping session worker client
    | expires _ _ hm =>
      obtain ⟨trace, he⟩ := exists_endSession_eq (l.log .warn _ _)
      rw [hm, he]
      exact finished stopping rfl worker client
  | closed _ closing _ _ _ _ => simp [closing] at hc

theorem after (h : l.Phase) (hl : l.Ledger) (e : Event) : Phase (l.after e) := by
  cases e with
  | connect => exact h.connect hl
  | subscribe filter => exact h.of_core (core_subscribe l filter)
  | unsubscribe filter => exact h.of_core (core_unsubscribe l filter)
  | publish p => exact h.of_core_eq (core_publish l p)
  | listen callback => exact h.of_core (m := l.setCallback callback) rfl
  | disconnect patience => exact h.disconnect patience
  | report r => exact h.report hl r
  | flushed => exact h.of_core_eq (core_flush l)
  | answers takes => exact h.of_core_eq (core_setAnswers l takes)
  | advance time => exact h.of_core (m := l.advance time) rfl
  | sessionMoves => exact move_keeps h fun s hs m hm => h.stepSession? hl hs hm
  | workerMoves => exact move_keeps h fun w hw m hm => h.stepWorker? hl hw hm
  | workerWakes => exact h.wake
  | closingMoves => exact move_keeps h fun c hc m hm => h.stepClosing? hc hm

end Phase

/-- Whatever happens, the ledger is right and the link is in one of its phases. -/
theorem Reachable.ledger_phase {l : Link} (h : l.Reachable) : l.Ledger ∧ l.Phase := by
  induction h with
  | create options backoff => exact ⟨ledger_create options backoff, phase_create options backoff⟩
  | after _ e ih => exact ⟨ih.1.after e, ih.2.after ih.1 e⟩

end Link
end SceneRelay
