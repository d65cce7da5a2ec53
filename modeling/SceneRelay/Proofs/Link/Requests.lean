import SceneRelay.Proofs.Link.Phase

/-! The requests that each event leads to. No other request is ever made of a session. -/
namespace SceneRelay.Link
open Record

/-- What reaches a client of these requests: all of them while the link is open, otherwise none. -/
def heard (l : Link) (rs : List Request) : List Request :=
  if l.state.isOpen ∧ l.client.isSome then rs else []

/-- The requests that a report leads to: every filter when the broker takes the connection up, and
what the listener answers to a message. -/
def replies (l : Link) : Route → List Request
  | .acknowledged _ => (l.transition .acknowledged).heard (l.filters.topics.map .subscribe)
  | .message topic payload _ =>
    l.heard ((l.callback.elim [] fun f => (f topic payload).publications).map .publish)
  | _ => []

/-- The goodbye to the broker, once the worker is gone. -/
def goodbye (l : Link) : Closing → List Request
  | .joining wasOpen _ => if l.worker.isNone ∧ wasOpen ∧ l.client.isSome then [.disconnect] else []
  | .draining .. => []

/-- The requests that an event leads to. -/
def Event.requests (l : Link) : Event → List Request
  | .subscribe filter => l.heard [.subscribe filter]
  | .unsubscribe filter => l.heard [.unsubscribe filter]
  | .publish p => l.heard [.publish p]
  | .report (.ok packet) => if l.session.isSome then l.replies packet.route else []
  | .closingMoves => l.closing.elim [] l.goodbye
  | _ => []

/-- From `l` to `m` these requests were made, all of one session. -/
structure Asks (l : Link) (rs : List Request) (m : Link) : Prop where
  requests : requests m.trace = requests l.trace ++ rs
  latest : latest m.trace = latest l.trace ++ rs

variable {l m n : Link} {rs : List Request}

theorem heard_of_core (h : m.core = l.core) (rs : List Request) : m.heard rs = l.heard rs := by
  have hs : m.state = l.state := congrArg (·.state) h
  have hc : m.client.isSome = l.client.isSome := by
    simpa [core] using congrArg (·.client.isSome) h
  rw [heard, heard, hs, hc]

theorem heard_of_closed (h : l.state.isOpen = false) (rs : List Request) : l.heard rs = [] := by
  apply if_neg
  rintro ⟨ho, -⟩
  simp [h] at ho

theorem heard_of_none (h : l.client = none) (rs : List Request) : l.heard rs = [] := by
  apply if_neg
  rintro ⟨-, hc⟩
  simp [h] at hc

theorem heard_of_open (ho : l.state.isOpen) (hc : l.client.isSome) (rs : List Request) :
    l.heard rs = rs := if_pos ⟨ho, hc⟩

theorem heard_nil : l.heard [] = [] := ite_self _

theorem heard_cons (r : Request) (rs : List Request) :
    l.heard (r :: rs) = l.heard [r] ++ l.heard rs := by
  unfold heard
  split <;> rfl

/-- When a connection is taken up every filter is asked for. -/
theorem replies_acknowledged (hd : l.state ≠ .shuttingDown) (hc : l.client.isSome)
    (present : Bool) : l.replies (.acknowledged present) = l.filters.topics.map .subscribe := by
  have hn : (l.transition .acknowledged).state = .connected := ConnectionState.next_of_ne _ hd
  exact heard_of_open (decide_eq_true hn) hc _

theorem replies_acknowledged_of_shuttingDown (hd : l.state = .shuttingDown) (present : Bool) :
    l.replies (.acknowledged present) = [] := by
  have hn : (l.transition .acknowledged).state = .shuttingDown := by
    simp only [transition, hd]
    exact ConnectionState.next_of_shuttingDown (by simp)
  apply heard_of_closed
  simp [hn, ConnectionState.isOpen]

theorem goodbye_of_open {wasOpen : Bool} (hw : l.worker = none) (ho : wasOpen = true)
    (hc : l.client.isSome) (patience : Nanoseconds) :
    l.goodbye (.joining wasOpen patience) = [.disconnect] :=
  if_pos ⟨Option.isNone_iff_eq_none.mpr hw, ho, hc⟩

namespace Asks

theorem refl (l : Link) : Asks l [] l := ⟨(List.append_nil _).symm, (List.append_nil _).symm⟩

theorem of_trace_eq (h : Asks l rs m) (hn : n.trace = m.trace) : Asks l rs n :=
  ⟨hn ▸ h.requests, hn ▸ h.latest⟩

/-- What is neither a request nor the opening of a session is on record without consequence. -/
theorem act (h : Asks l rs m) {a : Action} (hr : Record.requests [a] = [])
    (hl : ∀ qs, latestFrom qs [a] = qs) : Asks l rs (m.act a) where
  requests := by rw [Link.act, requests_append, hr, List.append_nil, h.requests]
  latest := by rw [Link.act, latest_append, hl, h.latest]

theorem log (h : Asks l rs m) (level : LogLevel) (message : String)
    (fields : List (String × LogValue)) : Asks l rs (m.log level message fields) :=
  h.act rfl fun _ => rfl

theorem transition (h : Asks l rs m) (e : ConnectionEvent) : Asks l rs (m.transition e) := by
  have hn := leads_newsOf m.state (m.state.next e) e
  constructor
  · rw [← h.requests, ← List.append_nil (Record.requests m.trace), ← hn.requests]
    exact requests_append _ _
  · rw [← h.latest, ← hn.latest (Record.latest m.trace)]
    exact latest_append _ _

theorem endSession (h : Asks l rs m) : Asks l rs m.endSession := by
  unfold Link.endSession
  split
  · have hc : Asks l rs { m with session := none } := h.of_trace_eq rfl
    exact hc.act rfl fun _ => rfl
  · exact h

theorem reconnectIfLost (h : Asks l rs m) : Asks l rs m.reconnectIfLost := by
  unfold Link.reconnectIfLost scheduleReconnect
  split
  · split
    · exact h
    · have hc : Asks l rs { m with reconnecting := true, worker := some {} } := h.of_trace_eq rfl
      exact hc.act rfl fun _ => rfl
  · exact h

theorem lose (h : Asks l rs m) (e : ConnectionEvent) : Asks l rs (m.lose e) := by
  have hn : Asks l rs (m.noteLoss e) := (h.transition e).of_trace_eq rfl
  exact hn.reconnectIfLost

theorem ask (h : Asks l rs m) (hc : m.client.isSome) (r : Request) :
    Asks l (rs ++ [r]) (m.ask r).1 := by
  obtain ⟨c, hc⟩ := Option.isSome_iff_exists.mp hc
  rw [Link.ask, hc]
  constructor
  · rw [← List.append_assoc, ← h.requests]
    exact requests_append _ _
  · rw [← List.append_assoc, ← h.latest]
    exact latest_append _ _

/-- A request reaches the client of an open link, if it has one. -/
theorem ask_of_open (h : Asks l rs m) (ho : m.state.isOpen) (r : Request) :
    Asks l (rs ++ m.heard [r]) (m.ask r).1 := by
  cases hc : m.client with
  | none =>
    rw [ask_of_none hc, heard_of_none hc, List.append_nil]
    exact h
  | some c =>
    have hs : m.client.isSome := by rw [hc, Option.isSome_some]
    rw [heard_of_open ho hs]
    exact h.ask hs r

theorem askFilter (h : Asks l rs m) (r : Request) (filter granted refused : String) :
    Asks l (rs ++ m.heard [r]) (m.askFilter r filter granted refused) := by
  unfold Link.askFilter
  split
  · rename_i ho
    rw [heard_of_closed (by simpa using ho), List.append_nil]
    exact h
  · rename_i ho
    have ha := h.ask_of_open (by simpa using ho) r
    split <;> rename_i heq <;> rw [heq] at ha
    · exact ha
    · apply ha.log
    · apply ha.log

theorem publish (h : Asks l rs m) (p : Publication) :
    Asks l (rs ++ m.heard [.publish p]) (m.publish p) := by
  unfold Link.publish
  split
  · rename_i ho
    rw [heard_of_closed (by simpa using ho), List.append_nil]
    exact log (m := m.countDropped) (h.of_trace_eq rfl) _ _ _
  · rename_i ho
    have ha := h.ask_of_open (by simpa using ho) (.publish p)
    split <;> rename_i n heq <;> rw [heq] at ha
    · exact ha.of_trace_eq rfl
    · exact ha.of_trace_eq rfl
    · exact log (m := n.countDropped) (ha.of_trace_eq rfl) _ _ _

theorem publishAll (h : Asks l rs m) (ps : List Publication) :
    Asks l (rs ++ m.heard (ps.map .publish)) (m.publishAll ps) := by
  induction ps generalizing m rs with
  | nil =>
    rw [List.map_nil, heard_nil, List.append_nil]
    exact h
  | cons p ps ih =>
    have hp := ih (h.publish p)
    rw [heard_of_core (core_publish m p), List.append_assoc, ← heard_cons] at hp
    exact hp

theorem dispatch (h : Asks l rs m) (topic : String) (payload : ByteArray) (retain : Bool) :
    Asks l (rs ++ m.replies (.message topic payload retain)) (m.dispatch topic payload) := by
  unfold Link.dispatch replies
  dsimp only
  cases m.callback with
  | none =>
    rw [Option.elim_none, List.map_nil, heard_nil, List.append_nil]
    exact h
  | some f =>
    have hcalled : Asks l rs (m.act (.called topic payload)) := h.act rfl fun _ => rfl
    have hp := hcalled.publishAll (f topic payload).publications
    rw [heard_of_core (core_act m _)] at hp
    unfold react
    dsimp only
    split
    · exact hp.log _ _ _
    · exact hp

theorem resubscribe (h : Asks l rs m) (ho : m.state.isOpen) (filter : String) :
    Asks l (rs ++ m.heard [.subscribe filter]) (m.resubscribe filter) := by
  have ha := h.ask_of_open ho (.subscribe filter)
  unfold Link.resubscribe
  split <;> rename_i heq <;> rw [heq] at ha
  · exact ha
  · exact ha
  · exact ha.log _ _ _

/-- Every filter is asked for, whatever becomes of the requests before. -/
theorem resubscribeAll (h : Asks l rs m) (ho : m.state.isOpen) :
    Asks l (rs ++ m.heard (m.filters.topics.map .subscribe)) m.resubscribeAll := by
  unfold Link.resubscribeAll
  generalize m.filters.topics = topics
  induction topics generalizing m rs with
  | nil =>
    rw [List.map_nil, heard_nil, List.append_nil]
    exact h
  | cons t topics ih =>
    have hs : (m.resubscribe t).state = m.state := congrArg (·.state) (core_resubscribe m t)
    have hr := ih (h.resubscribe ho t) (hs ▸ ho)
    rw [heard_of_core (core_resubscribe m t), List.append_assoc, ← heard_cons] at hr
    exact hr

theorem acknowledge (h : Asks l rs m) (present : Bool) :
    Asks l (rs ++ m.replies (.acknowledged present)) m.acknowledge := by
  have ht := h.transition .acknowledged
  unfold Link.acknowledge replies
  dsimp only
  generalize hn : m.transition .acknowledged = n at ht
  have hf : n.filters = m.filters := hn ▸ rfl
  rw [← hf]
  split
  · rename_i hs
    have hc : Asks l rs n.countSuccess := ht.of_trace_eq rfl
    have hr := hc.resubscribeAll (decide_eq_true hs)
    rw [heard_of_core (core_countSuccess n)] at hr
    exact hr
  · rename_i hs
    rw [heard_of_closed (by simpa [ConnectionState.isOpen] using hs), List.append_nil]
    exact ht

/-- The requests that a report leads to, as it is handled. -/
theorem handleRoute (h : Asks l rs m) (r : Route) :
    Asks l (rs ++ m.replies r) (m.handleRoute r).1 := by
  have hn : rs ++ [] = rs := List.append_nil rs
  cases r with
  | acknowledged present => exact h.acknowledge present
  | refused code => exact hn.symm ▸ h.lose _
  | message topic payload retain =>
    have hc : Asks l rs m.countReceived := h.of_trace_eq rfl
    exact hc.dispatch topic payload retain
  | subscribed packetId codes =>
    have hw : Asks l rs (m.warnOfRefusals packetId codes) := by
      unfold warnOfRefusals
      split
      · exact h.log _ _ _
      · exact h
    exact hn.symm ▸ hw.of_trace_eq rfl
  | disconnected =>
    dsimp only [Link.handleRoute, replies]
    rw [hn]
    split
    · exact h
    · exact h.lose _
  | disconnectSent => exact hn.symm ▸ h
  | infrastructure text => exact hn.symm ▸ h
  | outgoing => exact hn.symm ▸ h

theorem endWorker (h : Asks l rs m) : Asks l rs m.endWorker := by
  have hc : Asks l rs { m with worker := none, reconnecting := false } := h.of_trace_eq rfl
  exact (hc.act (a := .retired) rfl fun _ => rfl).reconnectIfLost

theorem backOff (h : Asks l rs m) (k : UInt32) : Asks l rs (m.backOff k) := by
  have hb : Asks l rs (m.act (.backedOff (k + 1).toNat (m.backoff.delay k.toNat))) :=
    h.act rfl fun _ => rfl
  exact (hb.log _ _ _).of_trace_eq rfl

theorem finishClosing (h : Asks l rs m) : Asks l rs m.finishClosing := by
  have hc : Asks l rs { m with closing := none, subscribed := false } := h.of_trace_eq rfl
  exact (hc.transition _).log _ _ _

theorem cutOff (h : Asks l rs m) : Asks l rs m.cutOff := by
  have hc : Asks l rs { m with client := none } := h.of_trace_eq rfl
  exact hc.endSession.finishClosing

theorem drain (h : Asks l rs m) (hw : m.worker = none) (wasOpen : Bool) (patience : Nanoseconds) :
    Asks l (rs ++ m.goodbye (.joining wasOpen patience)) (m.drain wasOpen patience) := by
  cases drained m wasOpen patience with
  | cutsOff unheard hm =>
    have hg : m.goodbye (.joining wasOpen patience) = [] := by
      obtain rfl | hc := unheard
      · simp [goodbye]
      · simp [goodbye, hc]
    rw [hm, hg, List.append_nil]
    exact h.cutOff
  | awaits wasOpen client hm =>
    rw [hm, goodbye_of_open hw wasOpen client]
    exact (h.ask client .disconnect).of_trace_eq rfl
  | warns wasOpen client hm =>
    rw [hm, goodbye_of_open hw wasOpen client]
    have hl := (h.ask client .disconnect).log .warn "Failed to enqueue MQTT DISCONNECT"
      [("error", requestError)]
    exact hl.of_trace_eq rfl

end Asks

/-- From `l` to `m` a session was opened, of which nothing has been asked yet. -/
structure Opens (l m : Link) : Prop where
  requests : requests m.trace = requests l.trace
  latest : latest m.trace = []
  state : m.state.isAttempting

namespace Opens
variable {l m : Link}

theorem startSession? {e : ConnectionEvent} (he : (ConnectionState.target e).isAttempting)
    (hm : l.startSession? e = some m) : l.Opens m := by
  obtain ⟨hs, rfl⟩ := startSession?_eq_some hm
  have ha : Asks l [] (l.transition e).endSession := ((Asks.refl l).transition e).endSession
  refine ⟨?_, ?_, ?_⟩
  · have hr := ha.requests
    simpa [openSession, Link.log, Link.act, Record.requests] using hr
  · simp [openSession, Link.log, Link.act, latestFrom]
  · have hn : l.state.next e = ConnectionState.target e := by rw [hs]; rfl
    obtain ⟨trace, hq⟩ := exists_endSession_eq (l.transition e)
    rw [hq]
    exact (congrArg ConnectionState.isAttempting hn).trans he

end Opens

/-- An event leads to its requests, all made of the session that was there before, or it opens a
session and leads to none. -/
def Continues (l : Link) (rs : List Request) (m : Link) : Prop := l.Asks rs m ∨ l.Opens m ∧ rs = []

namespace Continues
variable {l m : Link}

theorem requests {rs : List Request} (h : l.Continues rs m) :
    Record.requests m.trace = Record.requests l.trace ++ rs := by
  obtain ha | ⟨ho, rfl⟩ := h
  · exact ha.requests
  · rw [ho.requests, List.append_nil]

theorem connect (l : Link) : l.Continues [] l.connect := by
  obtain hm | hm := connect_cases l
  · exact .inl (hm.symm ▸ .refl l)
  · exact .inr ⟨.startSession? rfl hm, rfl⟩

theorem retry (l : Link) (k : UInt32) : l.Continues [] (l.retry k) := by
  unfold Link.retry
  split
  · rename_i m hm
    have ho : l.Opens m := .startSession? rfl hm
    exact .inr ⟨⟨ho.requests, ho.latest, ho.state⟩, rfl⟩
  · exact .inl ((Asks.refl l).of_trace_eq rfl)

theorem report (l : Link) (r : Report) : l.Asks (Event.requests l (.report r)) (l.report r) := by
  have hl : l.Asks [] l := .refl l
  cases reported l r with
  | unheard session hm =>
    rw [hm]
    cases r with
    | ok packet => simpa [Event.requests, session] using hl
    | error text => exact hl
  | readsOn session report hm =>
    subst report
    simp only [Event.requests, session, if_true]
    exact hm ▸ (hl.handleRoute _).of_trace_eq rfl
  | leaves session report hm =>
    subst report
    simp only [Event.requests, session, if_true]
    exact hm ▸ (hl.handleRoute _).endSession
  | closes _ _ report hm =>
    subst report
    exact hm ▸ hl.endSession
  | fails _ _ report hm =>
    subst report
    exact hm ▸ (hl.lose _).endSession

theorem stepSession? {s : Session} (hm : l.stepSession? s = some m) : l.Asks [] m := by
  obtain rfl := eq_giveUpAttempt hm
  exact ((Asks.refl l).lose _).endSession

theorem stepWorker? {w : Worker} (hm : l.stepWorker? w = some m) : l.Continues [] m := by
  have hl : l.Asks [] l := .refl l
  cases workerMove hm with
  | ends _ hm => exact hm ▸ .inl hl.endWorker
  | told _ hm => exact hm ▸ .inl (hl.log _ _ _).endWorker
  | looksOn _ _ _ hm => exact hm ▸ .inl (hl.of_trace_eq rfl)
  | looksAgain _ _ _ hm => exact hm ▸ .inl (hl.of_trace_eq rfl)
  | backsOff _ _ _ hm => exact hm ▸ .inl (hl.backOff _)
  | retries _ _ _ hm => exact hm ▸ retry l _

theorem wake (l : Link) : l.Continues [] l.wake := by
  obtain hm | ⟨k, d, -, hm⟩ := wake_cases l
  · exact .inl (hm.symm ▸ .refl l)
  · exact hm ▸ retry l k

theorem closingMoves (l : Link) :
    l.Asks (l.closing.elim [] l.goodbye) ((l.closing.bind fun c => l.stepClosing? c).getD l) := by
  have hl : l.Asks [] l := .refl l
  cases l.closing with
  | none => exact hl
  | some c =>
    simp only [Option.bind_some, Option.elim_some]
    cases c with
    | joining wasOpen patience =>
      simp only [Link.stepClosing?]
      cases hw : l.worker with
      | none => exact hl.drain hw wasOpen patience
      | some w => simpa [goodbye, hw] using hl
    | draining patience deadline =>
      simp only [Link.stepClosing?]
      split
      · exact hl.finishClosing
      · split
        · exact (hl.log _ _ _).endSession.finishClosing
        · exact hl

theorem after (l : Link) (e : Event) : l.Continues (e.requests l) (l.after e) := by
  have hl : l.Asks [] l := .refl l
  cases e with
  | connect => exact connect l
  | subscribe filter =>
    have ha : l.Asks [] (l.addFilter filter) := hl.of_trace_eq rfl
    exact .inl (ha.askFilter (.subscribe filter) filter _ _)
  | unsubscribe filter =>
    have ha : l.Asks [] (l.removeFilter filter) := hl.of_trace_eq rfl
    exact .inl (ha.askFilter (.unsubscribe filter) filter _ _)
  | publish p => exact .inl (hl.publish p)
  | listen callback => exact .inl (hl.of_trace_eq rfl)
  | disconnect patience =>
    have ht := hl.transition .shutdownRequested
    dsimp only [Link.after, Link.disconnect]
    split
    · exact .inl hl
    · exact .inl (ht.of_trace_eq rfl)
  | report r => exact .inl (report l r)
  | flushed => exact .inl (hl.of_trace_eq rfl)
  | answers takes => exact .inl (hl.of_trace_eq rfl)
  | advance time => exact .inl (hl.of_trace_eq rfl)
  | sessionMoves => exact .inl (move_keeps hl fun _ _ _ hm => stepSession? hm)
  | workerMoves => exact move_keeps (.inl hl) fun _ _ _ hm => stepWorker? hm
  | workerWakes => exact wake l
  | closingMoves => exact .inl (closingMoves l)

end Continues

/-- The record of requests grows by what the event leads to, and by nothing else. -/
theorem requests_after (l : Link) (e : Event) :
    Record.requests (l.after e).trace = Record.requests l.trace ++ e.requests l :=
  (Continues.after l e).requests

end SceneRelay.Link
