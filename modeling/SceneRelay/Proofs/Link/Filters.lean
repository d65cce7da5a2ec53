import SceneRelay.Proofs.Link.Requests
import SceneRelay.Proofs.Link.Setting
import SceneRelay.Proofs.Subscriptions
import SceneRelay.Proofs.Text.ByteOrder

/-! What is asked of the broker follows the filters: on every open connection each filter was asked
for, and whatever else was asked for was given up again. -/
namespace SceneRelay

/-- The request adds or removes this filter. -/
def Request.concerns (t : String) : Request → Bool
  | .subscribe filter | .unsubscribe filter => filter = t
  | _ => false

namespace Record
variable {rs new : List Request} {t filter : String} {topics : List String}

/-- Of all that was asked about a filter, the last was to have it. -/
def Wants (rs : List Request) (t : String) : Prop :=
  (rs.filter (·.concerns t)).getLast? = some (.subscribe t)

theorem not_wants_nil : ¬Wants [] t := nofun

theorem wants_subscribe : Wants (rs ++ [.subscribe filter]) t ↔ t = filter ∨ Wants rs t := by
  by_cases h : filter = t
  · subst h
    simp [Wants, Request.concerns]
  · simp [Wants, Request.concerns, h, Ne.symm h]

theorem wants_unsubscribe : Wants (rs ++ [.unsubscribe filter]) t ↔ t ≠ filter ∧ Wants rs t := by
  by_cases h : filter = t
  · subst h
    simp [Wants, Request.concerns]
  · simp [Wants, Request.concerns, h, Ne.symm h]

/-- Requests of another kind make no difference. -/
theorem wants_append_of_other (h : ∀ r ∈ new, ¬r.isFilterCall) :
    Wants (rs ++ new) t ↔ Wants rs t := by
  have hn : new.filter (·.concerns t) = [] := by
    apply List.filter_eq_nil_iff.mpr
    intro r hr hc
    apply h r hr
    cases r <;> first | rfl | exact absurd hc Bool.false_ne_true
  rw [Wants, List.filter_append, hn, List.append_nil, Wants]

theorem wants_subscribeAll : Wants (rs ++ topics.map .subscribe) t ↔ t ∈ topics ∨ Wants rs t := by
  induction topics generalizing rs with
  | nil => simp
  | cons u topics ih =>
    have hi := @ih (rs ++ [.subscribe u])
    rw [List.append_assoc, List.singleton_append, wants_subscribe] at hi
    rw [List.map_cons, hi, List.mem_cons]
    tauto

end Record

namespace Link
variable {l m : Link}

/-! ### The answer to the broker's acceptance -/

theorem Phase.client_of_session (h : l.Phase) (hs : l.session.isSome)
    (hd : l.state ≠ .shuttingDown) : l.client.isSome := by
  cases h <;> simp_all

theorem Phase.state_of_session (h : l.Phase) (hs : l.session.isSome)
    (hd : l.state ≠ .shuttingDown) : l.state.isAttempting ∨ l.state = .connected := by
  cases h <;> simp_all [ConnectionState.isAttempting]

/-! ### The filters and the requests of a session -/

/-- Nothing is asked during an attempt; on an open connection a filter is wanted if and only if it
is in the set. -/
structure Follows (l : Link) : Prop where
  attempting : l.state.isAttempting → Record.latest l.trace = []
  connected : l.state = .connected →
    ∀ t, t ∈ l.filters.topics ↔ Record.Wants (Record.latest l.trace) t

theorem follows_create (options : BrokerOptions) (backoff : Backoff) :
    Follows (create options backoff) := ⟨nofun, nofun⟩

namespace Follows

theorem of_down (hs : m.state = .disconnected ∨ m.state = .shuttingDown) : m.Follows := by
  constructor <;> intro hm <;> obtain hs | hs := hs <;>
    simp [hs, ConnectionState.isAttempting] at hm

theorem of_opens (h : l.Opens m) : m.Follows := by
  constructor
  · intro _
    exact h.latest
  · intro hs
    have hm := h.state
    simp [hs, ConnectionState.isAttempting] at hm

/-- Only requests about filters make a difference, and during an attempt any request would. -/
theorem of_asks (h : l.Follows) {rs : List Request} (ha : l.Asks rs m) (hs : m.state = l.state)
    (hf : m.filters = l.filters) (hr : ∀ r ∈ rs, ¬r.isFilterCall)
    (hn : l.state.isAttempting → rs = []) : m.Follows := by
  constructor
  · intro hm
    rw [hs] at hm
    rw [ha.latest, h.attempting hm, hn hm, List.append_nil]
  · intro hm t
    rw [hs] at hm
    rw [hf, h.connected hm, ha.latest, Record.wants_append_of_other hr]

theorem of_quiet (h : l.Follows) (ha : l.Asks [] m) (hs : m.state = l.state)
    (hf : m.filters = l.filters) : m.Follows := h.of_asks ha hs hf nofun fun _ => rfl

/-- Messages do not concern filters, and are not sent during an attempt. -/
theorem of_publications (h : l.Follows) {ps : List Publication}
    (ha : l.Asks (l.heard (ps.map .publish)) m) (hm : m.core = l.core) : m.Follows := by
  refine h.of_asks ha (congrArg (·.state) hm) (congrArg (·.filters) hm) ?_ ?_
  · intro r hr
    unfold heard at hr
    split at hr
    · obtain ⟨p, -, rfl⟩ := List.mem_map.mp hr
      exact Bool.false_ne_true
    · contradiction
  · intro hs
    apply heard_of_closed
    apply decide_eq_false
    intro hc
    simp [hc, ConnectionState.isAttempting] at hs

theorem endSession (h : l.Follows) : Follows l.endSession := by
  have ha := (Asks.refl l).endSession
  obtain ⟨trace, he⟩ := exists_endSession_eq l
  rw [he] at ha ⊢
  exact h.of_quiet ha rfl rfl

theorem reconnectIfLost (h : l.Follows) : Follows l.reconnectIfLost := by
  have ha := (Asks.refl l).reconnectIfLost
  obtain ⟨worker, reconnecting, trace, hr⟩ := exists_reconnectIfLost_eq l
  rw [hr] at ha ⊢
  exact h.of_quiet ha rfl rfl

theorem lose (l : Link) {e : ConnectionEvent} (he : e.isLoss) : Follows (l.lose e) := by
  refine reconnectIfLost (of_down ?_)
  by_cases hs : l.state = .shuttingDown
  · exact .inr (noteLoss_of_shuttingDown hs he)
  · exact .inl (noteLoss_of_ne hs he)

theorem connect (h : l.Follows) : Follows l.connect := by
  obtain hm | hm := connect_cases l
  · rwa [hm]
  · exact of_opens (.startSession? rfl hm)

/-- A change of the filters is asked for on an open connection, and is nobody's business
otherwise. -/
theorem of_filterCall (h : l.Follows) (hp : l.Phase) {r : Request} {filters : Subscriptions}
    {subscribed : Bool} (ha : l.Asks (l.heard [r]) m)
    (hm : m.core = { l.core with filters, subscribed })
    (hw : ∀ rs, (∀ t, t ∈ l.filters.topics ↔ Record.Wants rs t) →
      ∀ t, t ∈ filters.topics ↔ Record.Wants (rs ++ [r]) t) : m.Follows := by
  have hs : m.state = l.state := congrArg (·.state) hm
  have hf : m.filters = filters := congrArg (·.filters) hm
  constructor
  · intro hn
    rw [hs] at hn
    have ho : l.state.isOpen = false := by
      apply decide_eq_false
      intro hc
      simp [hc, ConnectionState.isAttempting] at hn
    rw [ha.latest, h.attempting hn, heard_of_closed ho, List.append_nil]
  · intro hn
    rw [hs] at hn
    rw [hf, ha.latest, heard_of_open (decide_eq_true hn) (hp.client_of_connected hn)]
    exact hw _ (h.connected hn)

theorem subscribe (h : l.Follows) (hp : l.Phase) (filter : String) :
    Follows (l.subscribe filter) := by
  have ha : l.Asks [] (l.addFilter filter) := (Asks.refl l).of_trace_eq rfl
  refine h.of_filterCall hp (ha.askFilter ..) (core_subscribe l filter) fun rs hl t => ?_
  rw [Subscriptions.mem_insert, hl, Record.wants_subscribe]

theorem unsubscribe (h : l.Follows) (hp : l.Phase) (filter : String) :
    Follows (l.unsubscribe filter) := by
  have ha : l.Asks [] (l.removeFilter filter) := (Asks.refl l).of_trace_eq rfl
  refine h.of_filterCall hp (ha.askFilter ..) (core_unsubscribe l filter) fun rs hl t => ?_
  rw [Subscriptions.mem_erase, hl, Record.wants_unsubscribe]

/-- A connection that is taken up, also once more, has every filter asked for. -/
theorem acknowledge (h : l.Follows) (hl : l.Ledger) (hp : l.Phase) (hs : l.session.isSome)
    (present : Bool) : Follows l.acknowledge := by
  by_cases hd : l.state = .shuttingDown
  · rwa [acknowledge_of_shuttingDown hl.mirror hd]
  · have ha : l.Asks (l.replies (.acknowledged present)) l.acknowledge :=
      (Asks.refl l).acknowledge present
    have hn : l.acknowledge.state = .connected :=
      (congrArg (·.state) (core_acknowledge l)).trans (ConnectionState.next_of_ne _ hd)
    have hf : l.acknowledge.filters = l.filters := congrArg (·.filters) (core_acknowledge l)
    rw [replies_acknowledged hd (hp.client_of_session hs hd)] at ha
    constructor
    · intro hm
      simp [hn, ConnectionState.isAttempting] at hm
    · intro _ t
      rw [hf, ha.latest, Record.wants_subscribeAll]
      obtain hw | hw := hp.state_of_session hs hd
      · simp [h.attempting hw, Record.not_wants_nil]
      · simp [h.connected hw]

theorem handleRoute (h : l.Follows) (hl : l.Ledger) (hp : l.Phase) (hs : l.session.isSome)
    (r : Route) : Follows (l.handleRoute r).1 := by
  have ha := (Asks.refl l).handleRoute r
  cases r with
  | acknowledged present => exact h.acknowledge hl hp hs present
  | refused code => exact lose l rfl
  | message topic payload retain =>
    exact h.of_publications ha ((core_dispatch _ topic payload).trans (core_countReceived l))
  | subscribed packetId codes =>
    have hc := core_subscribed l packetId codes
    exact h.of_quiet ha (congrArg (·.state) hc) (congrArg (·.filters) hc)
  | disconnected =>
    dsimp only [Link.handleRoute]
    split
    · exact h
    · exact lose l rfl
  | disconnectSent => exact h
  | infrastructure text => exact h
  | outgoing => exact h

theorem report (h : l.Follows) (hl : l.Ledger) (hp : l.Phase) (r : Report) :
    Follows (l.report r) := by
  cases reported l r with
  | unheard _ hm => rwa [hm]
  | readsOn session _ hm =>
    have hh := h.handleRoute hl hp session
    exact hm ▸ (hh _).of_quiet ((Asks.refl _).of_trace_eq rfl) rfl rfl
  | leaves session _ hm => exact hm ▸ (h.handleRoute hl hp session _).endSession
  | closes _ _ _ hm => exact hm ▸ h.endSession
  | fails _ _ _ hm => exact hm ▸ (lose l rfl).endSession

theorem stepSession? {s : Session} (hm : l.stepSession? s = some m) : m.Follows := by
  obtain rfl := eq_giveUpAttempt hm
  exact endSession (lose l rfl)

theorem log (h : l.Follows) (level : LogLevel) (message : String)
    (fields : List (String × LogValue)) : Follows (l.log level message fields) :=
  h.of_quiet ((Asks.refl l).log _ _ _) rfl rfl

theorem setWorker (h : l.Follows) (k : UInt32) (phase : WorkerPhase) :
    Follows (l.setWorker k phase) :=
  h.of_quiet ((Asks.refl l).of_trace_eq rfl) rfl rfl

theorem endWorker (h : l.Follows) : Follows l.endWorker := by
  have ha : l.Asks [] { l with worker := none, reconnecting := false } :=
    (Asks.refl l).of_trace_eq rfl
  exact reconnectIfLost (l := Link.act .retired _)
    (h.of_quiet (ha.act (a := .retired) rfl fun _ => rfl) rfl rfl)

theorem backOff (h : l.Follows) (k : UInt32) : Follows (l.backOff k) :=
  h.of_quiet ((Asks.refl l).backOff k) rfl rfl

theorem retry (h : l.Follows) (k : UInt32) : Follows (l.retry k) := by
  unfold Link.retry
  split
  · rename_i m hm
    exact (of_opens (.startSession? rfl hm)).setWorker _ _
  · exact h.setWorker _ _

theorem stepWorker? (h : l.Follows) {w : Worker} (hm : l.stepWorker? w = some m) : m.Follows := by
  cases workerMove hm with
  | ends _ hm => exact hm ▸ h.endWorker
  | told _ hm => exact hm ▸ (h.log _ _ _).endWorker
  | looksOn _ _ _ hm => exact hm ▸ h.setWorker _ _
  | looksAgain _ _ _ hm => exact hm ▸ h.setWorker _ _
  | backsOff _ _ _ hm => exact hm ▸ h.backOff _
  | retries _ _ _ hm => exact hm ▸ h.retry _

theorem wake (h : l.Follows) : Follows l.wake := by
  obtain hm | ⟨k, d, -, hm⟩ := wake_cases l
  · rwa [hm]
  · exact hm ▸ h.retry k

theorem stepClosing? (hp : l.Phase) {c : Closing} (hc : l.closing = some c)
    (hm : l.stepClosing? c = some m) : m.Follows := by
  obtain ⟨closing, hset⟩ := setting_stepClosing? hm
  have hs : m.stopping = l.stopping := congrArg (·.stopping) hset
  exact of_down ((hp.stepClosing? hc hm).state_of_stopping (hs.trans (hp.stopping_of_closing hc)))

theorem after (h : l.Follows) (hl : l.Ledger) (hp : l.Phase) (e : Event) : Follows (l.after e) := by
  cases e with
  | connect => exact h.connect
  | subscribe filter => exact h.subscribe hp filter
  | unsubscribe filter => exact h.unsubscribe hp filter
  | publish p =>
    have ha : l.Asks (l.heard ([p].map .publish)) (l.publish p) := (Asks.refl l).publish p
    exact h.of_publications ha (core_publish l p)
  | listen callback => exact h.of_quiet ((Asks.refl l).of_trace_eq rfl) rfl rfl
  | disconnect patience =>
    dsimp only [Link.after, Link.disconnect]
    split
    · exact h
    · exact of_down (.inr (ConnectionState.next_shutdownRequested l.state))
  | report r => exact h.report hl hp r
  | flushed => exact h.of_quiet ((Asks.refl l).of_trace_eq rfl) rfl rfl
  | answers takes => exact h.of_quiet ((Asks.refl l).of_trace_eq rfl) rfl rfl
  | advance time => exact h.of_quiet ((Asks.refl l).of_trace_eq rfl) rfl rfl
  | sessionMoves => exact move_keeps h fun _ _ _ hm => stepSession? hm
  | workerMoves => exact move_keeps h fun _ _ _ hm => h.stepWorker? hm
  | workerWakes => exact h.wake
  | closingMoves => exact move_keeps h fun _ hc _ hm => stepClosing? hp hc hm

end Follows

theorem Reachable.follows (h : l.Reachable) : l.Follows := by
  induction h with
  | create options backoff => exact follows_create options backoff
  | after h e ih => exact ih.after h.ledger_phase.1 h.ledger_phase.2 e

theorem Reachable.sorted (h : l.Reachable) : l.filters.Sorted := by
  induction h with
  | create options backoff => exact Subscriptions.sorted_empty
  | @after l h e ih =>
    have hs := congrArg (·.filters) (setting_after l e)
    cases e with
    | subscribe filter => exact hs ▸ ih.insert filter
    | unsubscribe filter => exact hs ▸ ih.erase filter
    | _ => exact hs ▸ ih

/-- What is asked of the broker follows the filters in every state that a run can lead to: on an
open connection the last that was asked about a filter is to have it if and only if it is in the
set, filters are asked for only while connected, and a connection that is taken up has exactly the
filters of the set asked for, in ascending order of their bytes, whichever of them are refused. -/
theorem requests_follow_filters (h : l.Reachable) :
    (l.state = .connected → ∀ t, t ∈ l.filters.topics ↔
      ((Record.latest l.trace).filter (·.concerns t)).getLast? = some (.subscribe t)) ∧
    (Record.state l.trace = l.state ∧
      ∀ before r granted later, l.trace = before ++ .asked r granted :: later → r.isFilterCall →
        Record.state before = .connected) ∧
    (∀ packet present, l.session.isSome → packet.route = .acknowledged present →
      Record.requests (l.report (.ok packet)).trace = Record.requests l.trace ++
        if l.state = .shuttingDown then [] else l.filters.topics.map .subscribe) ∧
    (l.filters.topics.map Text.utf8).Pairwise (· < ·) := by
  obtain ⟨hl, hp⟩ := h.ledger_phase
  refine ⟨h.follows.connected, ⟨hl.state, fun _ _ _ _ ht hr => hl.asks.connected ht hr⟩, ?_, ?_⟩
  · intro packet present hs hr
    have ha : Record.requests (l.report (.ok packet)).trace = _ :=
      requests_after l (.report (.ok packet))
    rw [ha]
    simp only [Event.requests, hs, if_true, hr]
    congr 1
    split
    · rename_i hd
      exact replies_acknowledged_of_shuttingDown hd present
    · rename_i hd
      exact replies_acknowledged hd (hp.client_of_session hs hd) present
  · exact List.pairwise_map.mpr (h.sorted.imp fun hlt => Text.utf8_lt_iff.mpr hlt)

/-- A filter that was added during the first attempt, and one that was given up again. -/
theorem requests_follow_filters_of_first_attempt :
    let l := (create ⟨"tracker", "broker", 1883, 60, true, .plain⟩ {}).run
      [.connect, .subscribe "a", .subscribe "b", .unsubscribe "a",
        .report (.ok (.connAck .success false))]
    ∀ t, t ∈ l.filters.topics ↔
      ((Record.latest l.trace).filter (·.concerns t)).getLast? = some (.subscribe t) :=
  (requests_follow_filters ((Reachable.create _ {}).run _)).1 rfl

end Link
end SceneRelay
