import SceneRelay.Proofs.Link.Core
import SceneRelay.Proofs.Link.Record
import SceneRelay.Proofs.Link.Steps

/-! The ledger of a link: the record, the announced state, the generation and the guard of the
worker agree with what the link is, after every event. -/
namespace SceneRelay

theorem ConnectionState.transitionRecord?_eq_none_iff (s t : ConnectionState)
    (e : ConnectionEvent) : s.transitionRecord? t e = none ↔ s = t := by
  unfold transitionRecord?
  split <;> simp [*]

namespace Record

/-- The news of a change lead to its end, and to nothing else that is on record. -/
structure Leads (s t : ConnectionState) (new : List Action) : Prop where
  state : stateFrom s new = t
  asks : AsksInOrder s new
  requests : requests new = []
  latest : ∀ rs, latestFrom rs new = rs
  sessions : sessions new = 0
  workers : workers new = 0

theorem leads_newsOf (s t : ConnectionState) (e : ConnectionEvent) :
    Leads s t (Link.newsOf s t e) := by
  cases h : s.transitionRecord? t e with
  | none =>
    have ht := (s.transitionRecord?_eq_none_iff t e).mp h
    simp only [Link.newsOf, h, Option.elim_none]
    exact ⟨ht, trivial, rfl, fun _ => rfl, rfl, rfl⟩
  | some r =>
    simp only [Link.newsOf, h, Option.elim_some]
    exact ⟨rfl, trivial, rfl, fun _ => rfl, rfl, rfl⟩

theorem leads_note (s : ConnectionState) {a : Action} (h : a.isNote) : Leads s s [a] := by
  cases a <;> first
    | exact ⟨rfl, trivial, rfl, fun _ => rfl, rfl, rfl⟩
    | exact absurd h Bool.false_ne_true

end Record

namespace Link
open Record

/-- What is on record agrees with the link: its state, whether a session and a worker live, and that
filters were asked for while connected. The guard of the worker is up as long as one lives. -/
structure Ledger (l : Link) : Prop where
  mirror : l.announced = l.state
  state : Record.state l.trace = l.state
  counted : l.generation = l.stats.connectionAttempts
  current : ∀ s ∈ l.session, s.generation = l.generation
  guard : l.reconnecting = l.worker.isSome
  sessions : Record.sessions l.trace = l.session.isSome.toInt
  workers : Record.workers l.trace = l.worker.isSome.toInt
  asks : AsksInOrder .disconnected l.trace

theorem ledger_create (options : BrokerOptions) (backoff : Backoff) :
    Ledger (create options backoff) :=
  ⟨rfl, rfl, rfl, by simp [create, log, act], rfl, rfl, rfl, trivial⟩

namespace Ledger
variable {l m : Link}

/-- The record may grow by what leads to the link's state and counts for nothing else. -/
theorem leads (h : l.Ledger) {t : ConnectionState} {new : List Action} (hn : Leads l.state t new) :
    Ledger { l with state := t, announced := t, trace := l.trace ++ new } where
  mirror := rfl
  state := by rw [state_append, h.state, hn.state]
  counted := h.counted
  current := h.current
  guard := h.guard
  sessions := by rw [sessions_append, hn.sessions, h.sessions, Int.add_zero]
  workers := by rw [workers_append, hn.workers, h.workers, Int.add_zero]
  asks := by
    have hs : stateFrom .disconnected l.trace = l.state := h.state
    exact (asksInOrder_append _ _ _).mpr ⟨h.asks, hs ▸ hn.asks⟩

theorem transition (h : l.Ledger) (e : ConnectionEvent) : Ledger (l.transition e) :=
  h.leads (leads_newsOf _ _ e)

theorem act (h : l.Ledger) {a : Action} (ha : a.isNote) : Ledger (l.act a) := by
  have hl := h.leads (leads_note l.state ha)
  exact { hl with mirror := h.mirror }

theorem log (h : l.Ledger) (level : LogLevel) (message : String)
    (fields : List (String × LogValue)) : Ledger (l.log level message fields) := h.act rfl

theorem ask (h : l.Ledger) (r : Request) (hr : r.isFilterCall → l.state = .connected) :
    Ledger (l.ask r).1 := by
  unfold Link.ask
  split
  · exact h
  · refine { h with state := ?_, sessions := ?_, workers := ?_, asks := ?_ }
    · simpa [Link.act, stateFrom] using h.state
    · simpa [Link.act, Action.sessionsBy] using h.sessions
    · simpa [Link.act, Action.workersBy] using h.workers
    · refine (asksInOrder_append _ _ _).mpr ⟨h.asks, ?_⟩
      have hs : stateFrom .disconnected l.trace = l.state := h.state
      simpa [AsksInOrder, hs] using hr

theorem endSession (h : l.Ledger) : Ledger l.endSession := by
  unfold Link.endSession
  split
  · refine { h with state := ?_, current := ?_, sessions := ?_, workers := ?_, asks := ?_ }
    · simpa [Link.act, stateFrom] using h.state
    · simp [Link.act]
    · have hs := h.sessions
      simp_all [Link.act, Action.sessionsBy]
    · simpa [Link.act, Action.workersBy] using h.workers
    · exact (asksInOrder_append _ _ _).mpr ⟨h.asks, trivial⟩
  · exact h

theorem endSession_session (l : Link) : l.endSession.session = none := by
  unfold Link.endSession
  split <;> simp_all [Link.act]

/-- A session opens where there is none. -/
theorem openSession (h : l.Ledger) (hn : l.session = none) : Ledger l.openSession := by
  refine Ledger.log (l := Link.act (.opened (l.generation + 1)) _) ?_ _ _ _
  refine { h with
    state := ?_, counted := ?_, current := ?_, sessions := ?_, workers := ?_, asks := ?_ }
  · simpa [Link.act, stateFrom] using h.state
  · simp [Link.act, h.counted]
  · simp [Link.act]
  · have hs := h.sessions
    simp_all [Link.act, Action.sessionsBy]
  · simpa [Link.act, Action.workersBy] using h.workers
  · exact (asksInOrder_append _ _ _).mpr ⟨h.asks, trivial⟩

theorem startSession? (h : l.Ledger) {e : ConnectionEvent} (hm : l.startSession? e = some m) :
    Ledger m := by
  obtain ⟨-, rfl⟩ := startSession?_eq_some hm
  exact (h.transition e).endSession.openSession (endSession_session _)

/-- The guard keeps a second worker from being armed. -/
theorem scheduleReconnect (h : l.Ledger) : Ledger l.scheduleReconnect := by
  unfold Link.scheduleReconnect
  split
  · exact h
  · have hw : l.worker = none := by
      have hg := h.guard
      cases hw : l.worker <;> simp_all
    refine { h with state := ?_, guard := rfl, sessions := ?_, workers := ?_, asks := ?_ }
    · simpa [Link.act, stateFrom] using h.state
    · simpa [Link.act, Action.sessionsBy] using h.sessions
    · have hs := h.workers
      simp_all [Link.act, Action.workersBy]
    · exact (asksInOrder_append _ _ _).mpr ⟨h.asks, trivial⟩

theorem reconnectIfLost (h : l.Ledger) : Ledger l.reconnectIfLost := by
  unfold Link.reconnectIfLost
  split
  · exact h.scheduleReconnect
  · exact h

theorem lose (h : l.Ledger) (e : ConnectionEvent) : Ledger (l.lose e) := by
  have ht := h.transition e
  have hn : Ledger (l.noteLoss e) := { ht with }
  exact hn.reconnectIfLost

theorem connect (h : l.Ledger) : Ledger l.connect := by
  obtain hm | hm := connect_cases l
  · rwa [hm]
  · exact h.startSession? hm

theorem askFilter (h : l.Ledger) (r : Request) (filter granted refused : String) :
    Ledger (l.askFilter r filter granted refused) := by
  unfold Link.askFilter
  split
  · exact h
  · rename_i ho
    have ha := h.ask r fun _ => by simpa [ConnectionState.isOpen] using ho
    split <;> rename_i heq <;> rw [heq] at ha
    · exact ha
    · exact ha.log _ _ _
    · exact ha.log _ _ _

theorem subscribe (h : l.Ledger) (filter : String) : Ledger (l.subscribe filter) :=
  askFilter (l := l.addFilter filter) { h with } _ _ _ _

theorem unsubscribe (h : l.Ledger) (filter : String) : Ledger (l.unsubscribe filter) :=
  askFilter (l := l.removeFilter filter) { h with } _ _ _ _

theorem countDropped (h : l.Ledger) : Ledger l.countDropped := { h with }

theorem publish (h : l.Ledger) (p : Publication) : Ledger (l.publish p) := by
  unfold Link.publish
  split
  · exact h.countDropped.log _ _ _
  · have ha := h.ask (.publish p) fun hr => absurd hr Bool.false_ne_true
    split <;> rename_i heq <;> rw [heq] at ha
    · exact ha.countDropped
    · exact { ha with }
    · exact ha.countDropped.log _ _ _

theorem disconnect (h : l.Ledger) (patience : Nanoseconds) : Ledger (l.disconnect patience) := by
  have ht := h.transition .shutdownRequested
  unfold Link.disconnect
  split
  · exact h
  · exact { ht with }

theorem publishAll (h : l.Ledger) (ps : List Publication) : Ledger (l.publishAll ps) := by
  induction ps generalizing l with
  | nil => exact h
  | cons p ps ih => exact ih (h.publish p)

theorem dispatch (h : l.Ledger) (topic : String) (payload : ByteArray) :
    Ledger (l.dispatch topic payload) := by
  unfold Link.dispatch
  split
  · exact h
  · rename_i f _
    have hc : Ledger (l.act (.called topic payload)) := h.act rfl
    have hp := hc.publishAll (f topic payload).publications
    unfold react
    dsimp only
    split
    · exact hp.log _ _ _
    · exact hp

theorem resubscribe (h : l.Ledger) (ho : l.state = .connected) (filter : String) :
    Ledger (l.resubscribe filter) := by
  have ha := h.ask (.subscribe filter) fun _ => ho
  unfold Link.resubscribe
  split <;> rename_i heq <;> rw [heq] at ha
  · exact ha
  · exact ha
  · exact ha.log _ _ _

theorem resubscribeAll (h : l.Ledger) (ho : l.state = .connected) : Ledger l.resubscribeAll := by
  unfold Link.resubscribeAll
  generalize l.filters.topics = topics
  induction topics generalizing l with
  | nil => exact h
  | cons t topics ih =>
    have hs : (l.resubscribe t).state = l.state := congrArg (·.state) (core_resubscribe l t)
    exact ih (h.resubscribe ho t) (hs.trans ho)

theorem acknowledge (h : l.Ledger) : Ledger l.acknowledge := by
  have ht := h.transition .acknowledged
  unfold Link.acknowledge
  dsimp only
  split
  · exact resubscribeAll (l := Link.countSuccess _) { ht with } ‹_›
  · exact ht

theorem handleRoute (h : l.Ledger) (r : Route) : Ledger (l.handleRoute r).1 := by
  cases r with
  | acknowledged present => exact h.acknowledge
  | refused code => exact h.lose _
  | message topic payload retain =>
    exact dispatch (l := l.countReceived) { h with } topic payload
  | subscribed packetId codes =>
    have hw : Ledger (l.warnOfRefusals packetId codes) := by
      unfold warnOfRefusals
      split
      · exact h.log _ _ _
      · exact h
    exact { hw with }
  | disconnected =>
    dsimp only [Link.handleRoute]
    split
    · exact h
    · exact h.lose _
  | disconnectSent => exact h
  | infrastructure text => exact h
  | outgoing => exact h

theorem rearm (h : l.Ledger) : Ledger l.rearm := by
  refine { h with current := ?_, sessions := ?_ }
  · intro s hs
    obtain ⟨s, hl, rfl⟩ := Option.map_eq_some_iff.mp hs
    exact h.current s hl
  · simpa [Link.rearm] using h.sessions

theorem report (h : l.Ledger) (r : Report) : Ledger (l.report r) := by
  cases reported l r with
  | unheard _ hm => rwa [hm]
  | readsOn _ _ hm => exact hm ▸ (h.handleRoute _).rearm
  | leaves _ _ hm => exact hm ▸ (h.handleRoute _).endSession
  | closes _ _ _ hm => exact hm ▸ h.endSession
  | fails _ _ _ hm => exact hm ▸ (h.lose _).endSession

theorem stepSession? (h : l.Ledger) {s : Session} (hm : l.stepSession? s = some m) : Ledger m := by
  obtain rfl := eq_giveUpAttempt hm
  exact (h.lose _).endSession

theorem setWorker (h : l.Ledger) (hw : l.worker.isSome) (attempts : UInt32) (phase : WorkerPhase) :
    Ledger (l.setWorker attempts phase) :=
  { h with
    guard := h.guard.trans hw
    workers := h.workers.trans (by rw [hw]; rfl) }

theorem endWorker (h : l.Ledger) (hw : l.worker.isSome) : Ledger l.endWorker := by
  refine reconnectIfLost (l := Link.act .retired _) ?_
  refine { h with state := ?_, guard := rfl, sessions := ?_, workers := ?_, asks := ?_ }
  · simpa [Link.act, stateFrom] using h.state
  · simpa [Link.act, Action.sessionsBy] using h.sessions
  · have hs := h.workers
    simp_all [Link.act, Action.workersBy]
  · exact (asksInOrder_append _ _ _).mpr ⟨h.asks, trivial⟩

theorem backOff (h : l.Ledger) (hw : l.worker.isSome) (k : UInt32) : Ledger (l.backOff k) := by
  have hb : Ledger (l.act (.backedOff (k + 1).toNat (l.backoff.delay k.toNat))) := h.act rfl
  exact (hb.log _ _ _).setWorker hw _ _

theorem startSession?_worker {e : ConnectionEvent} (hm : l.startSession? e = some m) :
    m.worker = l.worker := by
  obtain ⟨-, rfl⟩ := startSession?_eq_some hm
  obtain ⟨trace, he⟩ := exists_endSession_eq (l.transition e)
  rw [he]
  rfl

theorem retry (h : l.Ledger) (hw : l.worker.isSome) (attempts : UInt32) :
    Ledger (l.retry attempts) := by
  unfold Link.retry
  split <;> rename_i heq
  · exact (h.startSession? heq).setWorker ((startSession?_worker heq).symm ▸ hw) _ _
  · exact h.setWorker hw _ _

theorem stepWorker? (h : l.Ledger) {w : Worker} (hw : l.worker = some w)
    (hm : l.stepWorker? w = some m) : Ledger m := by
  have hs : l.worker.isSome := by rw [hw, Option.isSome_some]
  cases workerMove hm with
  | ends _ hm => exact hm ▸ h.endWorker hs
  | told _ hm => exact hm ▸ (h.log _ _ _).endWorker hs
  | looksOn _ _ _ hm => exact hm ▸ h.setWorker hs _ _
  | looksAgain _ _ _ hm => exact hm ▸ h.setWorker hs _ _
  | backsOff _ _ _ hm => exact hm ▸ h.backOff hs _
  | retries _ _ _ hm => exact hm ▸ h.retry hs _

theorem wake (h : l.Ledger) : Ledger l.wake := by
  obtain hm | ⟨k, d, hw, hm⟩ := wake_cases l
  · rwa [hm]
  · exact hm ▸ h.retry (by rw [hw, Option.isSome_some]) k

theorem finishClosing (h : l.Ledger) : Ledger l.finishClosing := by
  have hc : Ledger { l with closing := none, subscribed := false } := { h with }
  exact (hc.transition _).log _ _ _

theorem cutOff (h : l.Ledger) : Ledger l.cutOff := by
  have hc : Ledger { l with client := none } := { h with }
  exact hc.endSession.finishClosing

theorem drain (h : l.Ledger) (wasOpen : Bool) (patience : Nanoseconds) :
    Ledger (l.drain wasOpen patience) := by
  have ha := h.ask .disconnect fun hr => absurd hr Bool.false_ne_true
  cases drained l wasOpen patience with
  | cutsOff _ hm => exact hm ▸ h.cutOff
  | awaits _ _ hm => exact hm ▸ { ha with }
  | warns _ _ hm =>
    have hl := ha.log .warn "Failed to enqueue MQTT DISCONNECT" [("error", requestError)]
    exact hm ▸ { hl with }

theorem stepClosing? (h : l.Ledger) {c : Closing} (hm : l.stepClosing? c = some m) : Ledger m := by
  cases closingMove hm with
  | drains _ _ hm => exact hm ▸ h.drain _ _
  | finishes _ _ hm => exact hm ▸ h.finishClosing
  | expires _ _ hm => exact hm ▸ (h.log _ _ _).endSession.finishClosing

theorem after (h : l.Ledger) (e : Event) : Ledger (l.after e) := by
  cases e with
  | connect => exact h.connect
  | subscribe filter => exact h.subscribe filter
  | unsubscribe filter => exact h.unsubscribe filter
  | publish p => exact h.publish p
  | listen callback => exact { h with }
  | disconnect patience => exact h.disconnect patience
  | report r => exact h.report r
  | flushed => exact { h with }
  | answers takes => exact { h with }
  | advance time => exact { h with }
  | sessionMoves => exact move_keeps h fun s _ m hm => h.stepSession? hm
  | workerMoves => exact move_keeps h fun w hw m hm => h.stepWorker? hw hm
  | workerWakes => exact h.wake
  | closingMoves => exact move_keeps h fun c _ m hm => h.stepClosing? hm

end Ledger
end Link
end SceneRelay
