import SceneRelay.Proofs.Link.Phase
import SceneRelay.Proofs.Link.Setting

/-! What one event can do to a link that nobody has begun to close: to its state, its worker and its
session. -/
namespace SceneRelay.Link

/-! ### Where a link stands that nobody closes -/

namespace Phase
variable {l : Link}

theorem isUp (hp : l.Phase) (hs : l.stopping = false) : l.IsUp := by
  cases hp with
  | joining stopping _ _ _ => exact absurd (hs.symm.trans stopping) Bool.false_ne_true
  | draining stopping _ _ _ _ => exact absurd (hs.symm.trans stopping) Bool.false_ne_true
  | closed stopping _ _ _ _ _ => exact absurd (hs.symm.trans stopping) Bool.false_ne_true
  | _ => assumption

theorem ne_shuttingDown (hp : l.Phase) (hs : l.stopping = false) : l.state ≠ .shuttingDown := by
  cases hp <;> simp_all

/-- The worker waits only while the connection is down. -/
theorem state_of_waiting (hp : l.Phase) (hs : l.stopping = false) {k : UInt32} {d : Nanoseconds}
    (hw : l.worker = some ⟨k, .waiting d⟩) : l.state = .disconnected := by
  cases hp with
  | backingOff _ state _ _ _ => exact state
  | connected _ _ _ _ _ _ worker => exact absurd rfl (worker _ hw d)
  | _ => simp_all

/-- A worker that looks at the link finds it disconnected or connected: during an attempt it waits
for the outcome. -/
theorem state_of_deciding (hp : l.Phase) (hs : l.stopping = false) {w : Worker}
    (hw : l.worker = some w) (hd : w.phase = .deciding) :
    l.state = .disconnected ∨ l.state = .connected := by
  cases hp with
  | backingOff _ state _ _ _ => exact .inl state
  | retrying _ _ _ _ _ _ worker =>
    cases hw.symm.trans worker
    cases hd
  | connected _ state _ _ _ _ _ => exact .inr state
  | _ => simp_all

end Phase

/-! ### Events -/

/-- The session is lost: the broker refuses it, its attempt takes too long or, unless the link is
closing, the connection breaks. -/
def Event.losesSession (l : Link) : Event → Bool
  | .report (.ok packet) => l.session.isSome &&
    match packet.route with
    | .refused _ => true
    | .disconnected => !l.stopping
    | _ => false
  | .report (.error _) => l.session.isSome && !l.stopping
  | .sessionMoves => l.session.any fun s => s.deadline.any (· ≤ l.now)
  | _ => false

/-- An event leads from `l` to `m`. -/
inductive Shift (l : Link) (e : Event) (m : Link) : Prop
  | rests (state : m.state = l.state) (worker : m.worker = l.worker)
      (session : m.session = l.session)
  /-- A report other than the broker's answer, and not a loss. -/
  | reads {packet : Packet} (event : e = .report (.ok packet))
      (other : ∀ code present, packet ≠ .connAck code present) (state : m.state = l.state)
      (worker : m.worker = l.worker)
  | connects (before : l.state = .disconnected) (state : m.state = .connecting)
      (worker : l.worker = none ∧ m.worker = none)
      (session : ∃ g, m.session = some ⟨g, some (l.now + connectTimeout)⟩)
  | accepted (before : l.worker = none ∨ l.state = .reconnecting ∨ l.state = .connected)
      (state : m.state = .connected) (worker : m.worker = l.worker)
  | lost (event : e.losesSession l) (before : l.state ≠ .disconnected)
      (idle : ∀ w ∈ l.worker, ∀ d, w.phase ≠ .waiting d) (state : m.state = .disconnected)
      (worker : m.worker = some (l.worker.getD {}))
  | waits {k : UInt32} (before : l.state = .disconnected)
      (deciding : l.worker = some ⟨k, .deciding⟩) (state : m.state = .disconnected)
      (worker : m.worker = some ⟨k, .waiting (l.now + l.backoff.delay k.toNat)⟩)
  | tries {k : UInt32} {d : Nanoseconds} (before : l.state = .disconnected)
      (waiting : l.worker = some ⟨k, .waiting d⟩) (due : d ≤ l.now)
      (state : m.state = .reconnecting) (worker : m.worker = some ⟨nextAttempt k, .resolving⟩)
      (session : ∃ g, m.session = some ⟨g, some (l.now + connectTimeout)⟩)
      (record : ∃ later, m.trace = l.trace ++ .moved .reconnecting ::
        .logged ⟨.info, "Starting MQTT reconnection attempt",
          [("attempt", .number (nextAttempt k).toNat)]⟩ :: later)
  | looks {k : UInt32} (before : ¬l.state.isAttempting)
      (resolving : l.worker = some ⟨k, .resolving⟩) (state : m.state = l.state)
      (worker : m.worker = some ⟨k, .deciding⟩)
  | retires (before : l.state = .connected) (state : m.state = .connected)
      (worker : m.worker = none)

namespace Shift
variable {l m : Link} {e : Event}

theorem of_eq (h : m = l) : Shift l e m := .rests (h ▸ rfl) (h ▸ rfl) (h ▸ rfl)

theorem of_core (h : m.core = l.core) : Shift l e m :=
  .rests (congrArg (·.state) h) (congrArg (·.worker) h) (congrArg (·.session) h)

/-! ### Calls and reports -/

theorem connect (hl : l.Ledger) (up : l.IsUp) : Shift l .connect l.connect := by
  by_cases hi : l.reconnecting = true ∨ l.state ≠ .disconnected
  · exact of_eq (connect_eq_self (.inr hi))
  · obtain ⟨hr, hs⟩ := not_or.mp hi
    have hr : l.reconnecting = false := Bool.eq_false_iff.mpr hr
    have hs : l.state = .disconnected := not_not.mp hs
    have hw : l.worker = none := by
      have hg := hl.guard
      cases hw : l.worker <;> simp_all
    obtain ⟨m, hm, hst⟩ := startSession?_of_idle up.1 hs .connectStarted
    rw [connect_of_up up.1 hr, hm]
    exact .connects hs hst.state ⟨hw, hst.worker.trans hw⟩ ⟨_, hst.session⟩

/-- Where the link stands while a session lives. -/
structure Live (l : Link) : Prop where
  state : l.state ≠ .disconnected
  running : l.state ≠ .shuttingDown
  idle : ∀ w ∈ l.worker, ∀ d, w.phase ≠ .waiting d
  worker : l.worker = none ∨ l.state = .reconnecting ∨ l.state = .connected

theorem live_of_session (hp : l.Phase) (up : l.IsUp) (hs : l.session.isSome) : Live l := by
  cases hp with
  | idle _ _ _ session _ => simp [session] at hs
  | backingOff _ _ _ session _ => simp [session] at hs
  | attempting _ state _ _ _ _ worker =>
    exact ⟨by simp [state], by simp [state], by simp [worker], .inl worker⟩
  | retrying _ state _ _ _ _ worker =>
    exact ⟨by simp [state], by simp [state], by simp [worker], .inr (.inl state)⟩
  | connected _ state _ _ _ _ worker =>
    exact ⟨by simp [state], by simp [state], worker, .inr (.inr state)⟩
  | joining stopping _ _ _ => simp [up.1] at stopping
  | draining stopping _ _ _ _ => simp [up.1] at stopping
  | closed stopping _ _ _ _ _ => simp [up.1] at stopping

theorem of_lose (hl : l.Ledger) (up : l.IsUp) (hv : Live l) {c : ConnectionEvent} (hc : c.isLoss)
    (he : e.losesSession l) (hs : m.state = (l.lose c).state)
    (hw : m.worker = (l.lose c).worker) : Shift l e m := by
  have hn := noteLoss_of_ne hv.running hc
  obtain ⟨worker, reconnecting, trace, hr⟩ := exists_reconnectIfLost_eq (l.noteLoss c)
  have hstate : (l.lose c).state = .disconnected := by
    unfold lose
    rw [hr]
    exact hn
  have hworker : (l.lose c).worker = some (l.worker.getD {}) :=
    reconnectIfLost_worker (l := l.noteLoss c) up.1 hn hl.guard
  exact .lost he hv.state hv.idle (hs.trans hstate) (hw.trans hworker)

theorem of_packet (hl : l.Ledger) (up : l.IsUp) (hv : Live l) (hn : l.session.isSome)
    {packet : Packet} (hs : m.state = (l.handleRoute packet.route).1.state)
    (hw : m.worker = (l.handleRoute packet.route).1.worker) :
    Shift l (.report (.ok packet)) m := by
  cases packet with
  | connAck code present =>
    by_cases hc : code = .success
    · subst hc
      have ha := core_acknowledge l
      refine .accepted hv.worker (hs.trans ?_) (hw.trans (congrArg (·.worker) ha))
      exact (congrArg (·.state) ha).trans (ConnectionState.next_of_ne _ hv.running)
    · have hr : (Packet.connAck code present).route = .refused code.name := by
        cases code <;> first | rfl | exact absurd rfl hc
      rw [hr] at hs hw
      exact of_lose hl up hv (c := .refused code.name) rfl
        (by simp [Event.losesSession, hn, hr]) hs hw
  | publish topic payload retain =>
    have hd := (core_dispatch l.countReceived topic payload).trans (core_countReceived l)
    exact .reads rfl (by simp) (hs.trans (congrArg (·.state) hd))
      (hw.trans (congrArg (·.worker) hd))
  | subscribeAck packetId codes =>
    have hd := core_subscribed l packetId (codes.map SubscribeCode.byte)
    exact .reads rfl (by simp) (hs.trans (congrArg (·.state) hd))
      (hw.trans (congrArg (·.worker) hd))
  | disconnect =>
    have hd : l.handleRoute Packet.disconnect.route = (l.lose .disconnectedByBroker, .exit) := by
      simp [Packet.route, handleRoute, up.1]
    rw [hd] at hs hw
    exact of_lose hl up hv rfl (by simp [Event.losesSession, hn, Packet.route, up.1]) hs hw
  | _ => exact .reads rfl (by simp) hs hw

theorem report (hl : l.Ledger) (hp : l.Phase) (up : l.IsUp) (r : Report) :
    Shift l (.report r) (l.report r) := by
  have hv := live_of_session hp up
  cases reported l r with
  | unheard _ h => exact of_eq h
  | readsOn session report h =>
    subst report
    exact of_packet hl up (hv session) session (congrArg (·.state) h) (congrArg (·.worker) h)
  | leaves session report h =>
    subst report
    obtain ⟨trace, he⟩ := exists_endSession_eq (l.handleRoute _).1
    rw [he] at h
    exact of_packet hl up (hv session) session (congrArg (·.state) h) (congrArg (·.worker) h)
  | closes stopping _ _ _ => simp [up.1] at stopping
  | @fails text _ session report h =>
    subst report
    obtain ⟨trace, he⟩ := exists_endSession_eq (l.lose (.networkError text))
    rw [he] at h
    exact of_lose hl up (hv session) (c := .networkError text) rfl
      (by simp [Event.losesSession, session, up.1]) (congrArg (·.state) h) (congrArg (·.worker) h)

/-! ### Moves of the tasks -/

theorem stepSession? (hl : l.Ledger) (hp : l.Phase) (up : l.IsUp) {s : Session}
    (hs : l.session = some s) (hm : l.stepSession? s = some m) : Shift l .sessionMoves m := by
  have hv := live_of_session hp up (by rw [hs, Option.isSome_some])
  have hd : s.deadline.any (· ≤ l.now) := by
    by_contra hd
    simp [Link.stepSession?, hd] at hm
  obtain ⟨trace, he⟩ := exists_endSession_eq (l.lose (.networkError "no ConnAck within 10s"))
  obtain rfl := eq_giveUpAttempt hm
  refine of_lose hl up hv (c := .networkError "no ConnAck within 10s") rfl ?_ ?_ ?_
  · simpa [Event.losesSession, hs] using hd
  · exact congrArg (·.state) he
  · exact congrArg (·.worker) he

theorem retry (hp : l.Phase) (up : l.IsUp) {k : UInt32} {d : Nanoseconds}
    (hw : l.worker = some ⟨k, .waiting d⟩) (due : d ≤ l.now) : Shift l e (l.retry k) := by
  cases hp with
  | idle _ _ _ _ worker => simp [worker] at hw
  | backingOff _ state _ session _ =>
    obtain ⟨m, hm, hs⟩ := startSession?_of_idle up.1 state (.retryStarted (nextAttempt k))
    obtain ⟨-, rfl⟩ := startSession?_eq_some hm
    have hn : (l.transition (.retryStarted (nextAttempt k))).endSession =
        l.transition (.retryStarted (nextAttempt k)) := if_neg (by simp [transition, session])
    rw [hn] at hm hs
    simp only [Link.retry, hm]
    refine .tries state hw due hs.state rfl ⟨_, hs.session⟩
      ⟨[.opened (l.generation + 1), .logged ⟨.info, "Starting MQTT session",
        [("generation", .number (l.generation + 1))]⟩], ?_⟩
    simp [setWorker, openSession, log, act, transition, state, newsOf, ConnectionState.next,
      ConnectionState.target, ConnectionState.transitionRecord?]
  | attempting _ _ _ _ _ _ worker => simp [worker] at hw
  | retrying _ _ _ _ _ _ worker => simp [worker] at hw
  | connected _ _ _ _ _ _ worker => exact absurd rfl (worker _ hw d)
  | joining stopping _ _ _ => simp [up.1] at stopping
  | draining stopping _ _ _ _ => simp [up.1] at stopping
  | closed stopping _ _ _ _ _ => simp [up.1] at stopping

theorem wake (hp : l.Phase) (up : l.IsUp) : Shift l e l.wake := by
  unfold Link.wake
  split
  · rename_i k d hw
    split
    · exact retry hp up hw ‹_›
    · exact of_eq rfl
  · exact of_eq rfl

theorem stepWorker? (hl : l.Ledger) (hp : l.Phase) (up : l.IsUp) {w : Worker}
    (hw : l.worker = some w) (hm : l.stepWorker? w = some m) : Shift l .workerMoves m := by
  obtain ⟨k, phase⟩ := w
  cases workerMove hm with
  | ends done h =>
    have hs : l.state = .connected := by
      have hn := hp.ne_shuttingDown up.1
      obtain hd | hd | hd | hd := done
      · exact absurd (up.1.symm.trans hd) Bool.false_ne_true
      · exact hd
      · exact absurd hd hn
      · exact hl.mirror.symm.trans hd
    rw [h, endWorker_eq (.inr (by simp [hs]))]
    exact .retires hs hs rfl
  | told stopping _ => simp [up.1] at stopping
  | looksOn _ phase state _ =>
    obtain hs | hs := hp.state_of_deciding up.1 hw phase <;>
      simp [hs, ConnectionState.isAttempting] at state
  | looksAgain _ phase announced h =>
    cases phase
    rw [hl.mirror] at announced
    exact .looks announced hw (congrArg (·.state) h) (congrArg (·.worker) h)
  | backsOff _ phase state h =>
    have hs := (hp.state_of_deciding up.1 hw phase).resolve_right fun hc => state (.inl hc)
    cases phase
    subst h
    exact .waits hs hw hs rfl
  | retries _ phase due h =>
    cases phase
    exact h ▸ retry hp up hw due

end Shift

/-- Whatever happens to a link that nobody closes is one of these. -/
theorem shift {l : Link} (hl : l.Ledger) (hp : l.Phase) (up : l.IsUp) {e : Event}
    (he : ¬e.isDisconnect) : Shift l e (l.after e) := by
  cases e with
  | connect => exact .connect hl up
  | subscribe filter =>
    have hc := core_subscribe l filter
    exact .rests (congrArg (·.state) hc) (congrArg (·.worker) hc) (congrArg (·.session) hc)
  | unsubscribe filter =>
    have hc := core_unsubscribe l filter
    exact .rests (congrArg (·.state) hc) (congrArg (·.worker) hc) (congrArg (·.session) hc)
  | publish p => exact .of_core (core_publish l p)
  | listen callback => exact .rests rfl rfl rfl
  | disconnect patience => exact absurd rfl he
  | report r => exact .report hl hp up r
  | flushed => exact .of_core (core_flush l)
  | answers takes => exact .of_core (core_setAnswers l takes)
  | advance time => exact .rests rfl rfl rfl
  | sessionMoves => exact move_keeps (.of_eq rfl) fun _ hs _ hm => .stepSession? hl hp up hs hm
  | workerMoves => exact move_keeps (.of_eq rfl) fun _ hw _ hm => .stepWorker? hl hp up hw hm
  | workerWakes => exact .wake hp up
  | closingMoves => exact .of_eq (by simp [after, up.2])

end SceneRelay.Link
