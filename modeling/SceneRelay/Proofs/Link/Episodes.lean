import SceneRelay.Proofs.Link.Phase
import SceneRelay.Proofs.Link.Setting

/-! Episodes without a connection. As long as nobody closes the link, a lost connection leaves one
worker behind that waits out a delay, and nothing ever runs twice. -/
namespace SceneRelay.Link
variable {l m : Link}

/-! ### How long the worker waits -/

/-- The worker of `m` waits only as that of `l` did, or because it has just begun to. -/
def WaitsFrom (l m : Link) : Prop :=
  ∀ k d, m.worker = some ⟨k, .waiting d⟩ → l.worker = m.worker ∨ d = l.now + l.backoff.delay k.toNat

namespace WaitsFrom

theorem of_worker_eq (h : m.worker = l.worker) : WaitsFrom l m := fun _ _ _ => .inl h.symm

theorem of_core_eq (h : m.core = l.core) : WaitsFrom l m := of_worker_eq (congrArg (·.worker) h)

/-- A worker that does not wait is no matter. -/
theorem of_ne (h : ∀ w ∈ m.worker, ∀ d, w.phase ≠ .waiting d) : WaitsFrom l m :=
  fun _ d hw => absurd rfl (h _ hw d)

theorem endSession (h : WaitsFrom l m) : WaitsFrom l m.endSession := by
  obtain ⟨trace, he⟩ := exists_endSession_eq m
  rw [he]
  exact h

/-- A worker that was just armed does not wait yet. -/
theorem reconnectIfLost (h : WaitsFrom l m) : WaitsFrom l m.reconnectIfLost := by
  unfold Link.reconnectIfLost scheduleReconnect
  split
  · split
    · exact h
    · exact of_ne (by simp [act])
  · exact h

theorem lose (l : Link) (e : ConnectionEvent) : WaitsFrom l (l.lose e) :=
  reconnectIfLost (m := l.noteLoss e) (of_worker_eq rfl)

theorem connect (l : Link) : WaitsFrom l l.connect := by
  obtain hm | hm := connect_cases l
  · exact of_worker_eq (congrArg (·.worker) hm)
  · exact of_worker_eq (Ledger.startSession?_worker hm)

theorem handleRoute (l : Link) (r : Route) : WaitsFrom l (l.handleRoute r).1 := by
  cases r with
  | acknowledged present =>
    have hw : l.acknowledge.worker = l.worker := congrArg (·.worker) (core_acknowledge l)
    exact of_worker_eq hw
  | refused code => exact lose l _
  | message topic payload retain =>
    exact of_core_eq ((core_dispatch _ topic payload).trans (core_countReceived l))
  | subscribed packetId codes =>
    exact of_worker_eq (congrArg (·.worker) (core_subscribed l packetId codes))
  | disconnected =>
    dsimp only [Link.handleRoute]
    split
    · exact of_worker_eq rfl
    · exact lose l _
  | disconnectSent => exact of_worker_eq rfl
  | infrastructure text => exact of_worker_eq rfl
  | outgoing => exact of_worker_eq rfl

theorem report (l : Link) (r : Report) : WaitsFrom l (l.report r) := by
  cases reported l r with
  | unheard _ hm => exact of_worker_eq (congrArg (·.worker) hm)
  | readsOn _ _ hm => exact hm ▸ handleRoute l _
  | leaves _ _ hm => exact hm ▸ (handleRoute l _).endSession
  | closes _ _ _ hm => exact hm ▸ endSession (of_worker_eq rfl)
  | fails _ _ _ hm => exact hm ▸ (lose l _).endSession

theorem stepSession? {s : Session} (hm : l.stepSession? s = some m) : WaitsFrom l m := by
  obtain rfl := eq_giveUpAttempt hm
  exact (lose l _).endSession

theorem endWorker (l m : Link) : WaitsFrom l m.endWorker :=
  reconnectIfLost (m := Link.act .retired _) (of_ne nofun)

theorem backOff (l : Link) (k : UInt32) : WaitsFrom l (l.backOff k) := by
  intro k' d hw
  cases hw
  exact .inr rfl

theorem retry (l : Link) (k : UInt32) : WaitsFrom l (l.retry k) := by
  unfold Link.retry
  split <;> exact of_ne (by simp [setWorker])

theorem stepWorker? {w : Worker} (hm : l.stepWorker? w = some m) : WaitsFrom l m := by
  cases workerMove hm with
  | ends _ hm => exact hm ▸ endWorker l l
  | told _ hm => exact hm ▸ endWorker l _
  | looksOn _ _ _ hm => exact hm ▸ of_ne (by simp [setWorker])
  | looksAgain _ _ _ hm => exact hm ▸ of_ne (by simp [setWorker])
  | backsOff _ _ _ hm => exact hm ▸ backOff l _
  | retries _ _ _ hm => exact hm ▸ retry l _

theorem wake (l : Link) : WaitsFrom l l.wake := by
  obtain hm | ⟨k, d, -, hm⟩ := wake_cases l
  · exact of_worker_eq (congrArg (·.worker) hm)
  · exact hm ▸ retry l k

theorem drain (l : Link) (wasOpen : Bool) (patience : Nanoseconds) :
    WaitsFrom l (l.drain wasOpen patience) := by
  have ha := of_core_eq (core_ask l .disconnect)
  cases drained l wasOpen patience with
  | cutsOff _ hm => exact hm ▸ endSession (m := { l with client := none }) (of_worker_eq rfl)
  | awaits _ _ hm => exact hm ▸ ha
  | warns _ _ hm => exact hm ▸ ha

theorem stepClosing? {c : Closing} (hm : l.stepClosing? c = some m) : WaitsFrom l m := by
  cases closingMove hm with
  | drains _ _ hm => exact hm ▸ drain l _ _
  | finishes _ _ hm => exact hm ▸ of_worker_eq rfl
  | expires _ _ hm => exact hm ▸ endSession (m := l.log _ _ _) (of_worker_eq rfl)

theorem after (l : Link) (e : Event) : WaitsFrom l (l.after e) := by
  have hl : WaitsFrom l l := of_worker_eq rfl
  cases e with
  | connect => exact connect l
  | subscribe filter => exact of_worker_eq (congrArg (·.worker) (core_subscribe l filter))
  | unsubscribe filter => exact of_worker_eq (congrArg (·.worker) (core_unsubscribe l filter))
  | publish p => exact of_core_eq (core_publish l p)
  | listen callback => exact hl
  | disconnect patience =>
    unfold Link.after Link.disconnect
    dsimp only
    split <;> exact of_worker_eq rfl
  | report r => exact report l r
  | flushed => exact hl
  | answers takes => exact hl
  | advance time => exact hl
  | sessionMoves => exact move_keeps hl fun _ _ _ hm => stepSession? hm
  | workerMoves => exact move_keeps hl fun _ _ _ hm => stepWorker? hm
  | workerWakes => exact wake l
  | closingMoves => exact move_keeps hl fun _ _ _ hm => stepClosing? hm

end WaitsFrom

/-- If the worker waits, it waits out a delay that began some time ago. -/
def WaitsOut (l : Link) : Prop :=
  ∀ k d, l.worker = some ⟨k, .waiting d⟩ → ∃ began ≤ l.now, d = began + l.backoff.delay k.toNat

theorem WaitsOut.after (h : l.WaitsOut) (e : Event) : (l.after e).WaitsOut := by
  intro k d hw
  have hn := now_le_after l e
  rw [backoff_after]
  obtain hs | hd := WaitsFrom.after l e k d hw
  · obtain ⟨began, hb, rfl⟩ := h k d (hs.trans hw)
    exact ⟨began, Nat.le_trans hb hn, rfl⟩
  · exact ⟨l.now, hn, hd⟩

theorem waitsOut_run (options : BrokerOptions) (backoff : Backoff) (es : List Event) :
    ((create options backoff).run es).WaitsOut := by
  have hc : (create options backoff).WaitsOut := fun _ _ hw => by simp [create, log, act] at hw
  exact run_keeps (P := WaitsOut) (fun _ e h => h.after e) hc es

/-! ### At rest -/

/-- A link at rest that nobody has begun to close. -/
structure Settled (l : Link) : Prop where
  mirror : l.announced = l.state
  /-- A session lives while the link is connected or tries to be, and there is only one. -/
  session : l.state = .connecting ∨ l.state = .reconnecting ∨ l.state = .connected ↔
    l.session.isSome
  sessions : Record.sessions l.trace = l.session.isSome.toInt
  /-- It is the session that was opened last. -/
  current : ∀ s ∈ l.session, s.generation = l.generation
  generation : l.generation = l.stats.connectionAttempts
  /-- While the connection is down a worker waits out a delay. -/
  down : l.state = .disconnected → 0 < l.stats.connectionAttempts →
    l.session = none ∧
      ∃ k began, l.worker = some ⟨k, .waiting (began + l.backoff.delay k.toNat)⟩ ∧
      began ≤ l.now ∧ l.now < began + l.backoff.delay k.toNat
  workers : Record.workers l.trace = l.worker.isSome.toInt
  /-- The guard is up as long as a worker lives. -/
  guard : l.worker.isSome ↔ l.reconnecting = true
  needed : l.reconnecting = true ↔
    l.state = .reconnecting ∨ l.state = .disconnected ∧ 0 < l.stats.connectionAttempts
  /-- Only the first call to connect does anything. -/
  connect : 0 < l.stats.connectionAttempts → l.connect = l

/-- A worker that backs off rests only while it waits. -/
theorem exists_waiting_of_rest {w : Worker} (hs : l.stopping = false)
    (ha : l.announced = .disconnected) (hr : l.stepWorker? w = none) :
    ∃ k d, w = ⟨k, .waiting d⟩ ∧ l.now < d := by
  obtain ⟨k, phase⟩ := w
  cases phase with
  | deciding => simp [Link.stepWorker?] at hr
  | waiting d =>
    refine ⟨k, d, rfl, ?_⟩
    by_contra hlt
    have hd : d ≤ l.now := Nat.le_of_not_lt hlt
    simp [Link.stepWorker?, hs, ha, hd] at hr
  | resolving => simp [Link.stepWorker?, hs, ha, ConnectionState.isAttempting] at hr

/-- The worker of a connected link does not rest. -/
theorem worker_eq_none_of_rest (hs : l.stopping = false) (ha : l.announced = .connected)
    (hr : ∀ w ∈ l.worker, l.stepWorker? w = none) : l.worker = none := by
  apply Option.eq_none_iff_forall_ne_some.mpr
  intro w hw
  have hn := hr w hw
  obtain ⟨k, phase⟩ := w
  cases phase with
  | deciding => simp [Link.stepWorker?] at hn
  | waiting d => simp [Link.stepWorker?, hs, ha] at hn
  | resolving => simp [Link.stepWorker?, hs, ha, ConnectionState.isAttempting] at hn

theorem Settled.of_rest (hl : l.Ledger) (hp : l.Phase) (hw : l.WaitsOut) (hs : l.stopping = false)
    (hr : l.step? = none) : l.Settled := by
  obtain ⟨-, hworker, -⟩ := l.step?_eq_none_iff.mp hr
  have hg := hl.guard
  have hm := hl.mirror
  cases hp with
  | idle up state attempts session worker =>
    refine ⟨hm, ?_, hl.sessions, hl.current, hl.counted, ?_, hl.workers, ?_, ?_, ?_⟩ <;>
      simp [state, attempts, session, worker, hg]
  | @backingOff w up state attempts session worker =>
    obtain ⟨k, d, rfl, hd⟩ := exists_waiting_of_rest hs (hm.trans state) (hworker w worker)
    obtain ⟨began, hb, rfl⟩ := hw k d worker
    refine ⟨hm, ?_, hl.sessions, hl.current, hl.counted, ?_, hl.workers, ?_, ?_, ?_⟩
    · simp [state, session]
    · exact fun _ _ => ⟨session, k, began, worker, hb, hd⟩
    · simp [worker, hg]
    · simp [worker, hg, state, attempts]
    · exact fun _ => connect_eq_self (.inr (.inl (by simp [hg, worker])))
  | attempting up state attempts session deadline client worker =>
    refine ⟨hm, ?_, hl.sessions, hl.current, hl.counted, ?_, hl.workers, ?_, ?_, fun _ =>
      connect_eq_self (.inr (.inr (by simp [state])))⟩ <;>
      simp [state, session, worker, hg]
  | retrying up state attempts session deadline client worker =>
    refine ⟨hm, ?_, hl.sessions, hl.current, hl.counted, ?_, hl.workers, ?_, ?_, fun _ =>
      connect_eq_self (.inr (.inr (by simp [state])))⟩ <;>
      simp [state, session, worker, hg]
  | connected up state attempts session deadline client worker =>
    have hn := worker_eq_none_of_rest hs (hm.trans state) hworker
    refine ⟨hm, ?_, hl.sessions, hl.current, hl.counted, ?_, hl.workers, ?_, ?_, fun _ =>
      connect_eq_self (.inr (.inr (by simp [state])))⟩ <;>
      simp [state, session, hn, hg]
  | joining stopping closing state client => simp [hs] at stopping
  | draining stopping closing state client worker => simp [hs] at stopping
  | closed stopping closing state session worker client => simp [hs] at stopping

/-- No episode without a connection is ever lost, and nothing runs twice: this is how a link looks
whenever all its tasks wait, whatever happened before, unless somebody closed it. -/
theorem settled_of_rest (options : BrokerOptions) (backoff : Backoff) (es : List Event)
    (hes : ∀ e ∈ es, ¬e.isDisconnect) (hr : ((create options backoff).run es).step? = none) :
    ((create options backoff).run es).Settled := by
  have hc : (create options backoff).Reachable := .create options backoff
  obtain ⟨hl, hp⟩ := (hc.run es).ledger_phase
  have hs : ((create options backoff).run es).stopping = false := stopping_run _ hes
  exact .of_rest hl hp (waitsOut_run options backoff es) hs hr

/-- After a first attempt that failed the worker waits for a second. -/
theorem settled_after_failure :
    ((create ⟨"tracker", "broker", 1883, 60, true, .plain⟩ {}).run
      [.connect, .report (.error "refused"), .workerMoves]).Settled :=
  settled_of_rest _ {} _ (by decide) rfl

end SceneRelay.Link
