import SceneRelay.Proofs.Link.Closed
import SceneRelay.Proofs.Link.Stopping

/-! The closing call from its beginning to its end, whatever else happens meanwhile. -/
namespace SceneRelay.Link
variable {l m : Link} {patience made : Nanoseconds}

/-! ### What is asked until the end -/

/-- The goodbye that an open link owes the broker. -/
def farewell (l : Link) : List Request := if l.state = .connected then [.disconnect] else []

/-- The closing call of `l` has led to `m`: nothing was counted, and nothing asked but the farewell,
once the worker was gone. -/
structure Underway (l m : Link) : Prop where
  stopping : m.stopping = true
  tally : m.tally = l.tally
  joining : ∀ wasOpen q, m.closing = some (.joining wasOpen q) →
    wasOpen = l.state.isOpen ∧ Record.requests m.trace = Record.requests l.trace
  joined : (∀ wasOpen q, m.closing ≠ some (.joining wasOpen q)) →
    Record.requests m.trace = Record.requests l.trace ++ l.farewell

theorem disconnect_of_up (hs : l.stopping = false) (patience : Nanoseconds) :
    l.disconnect patience =
      { l.transition .shutdownRequested with
        stopping := true, closing := some (.joining l.state.isOpen patience) } := by
  simp [disconnect, hs]

theorem state_of_isDisconnect (hs : l.stopping = false) {e : Event} (he : e.isDisconnect) :
    (l.after e).state = .shuttingDown := by
  cases e with
  | disconnect patience =>
    rw [after, disconnect_of_up hs]
    exact ConnectionState.next_shutdownRequested l.state
  | _ => exact absurd he Bool.false_ne_true

theorem underway_disconnect (hs : l.stopping = false) (patience : Nanoseconds) :
    l.Underway (l.disconnect patience) := by
  have hr : Record.requests (l.disconnect patience).trace = Record.requests l.trace ++ [] :=
    requests_after l (.disconnect patience)
  rw [disconnect_of_up hs] at hr ⊢
  refine ⟨rfl, rfl, ?_, ?_⟩
  · intro wasOpen q hc
    cases hc
    exact ⟨rfl, hr.trans (List.append_nil _)⟩
  · intro hn
    exact absurd rfl (hn _ _)

theorem closingMoves_cases (l : Link) : l.after .closingMoves = l ∨
    ∃ c, l.closing = some c ∧ l.stepClosing? c = some (l.after .closingMoves) :=
  move_keeps (P := fun m => m = l ∨ ∃ c, l.closing = some c ∧ l.stepClosing? c = some m) (.inl rfl)
    fun c hc _ hm => .inr ⟨c, hc, hm⟩

/-- Other events leave the closing call where it is. -/
theorem closing_after_of_stopping (hs : l.stopping = true) {e : Event} (he : e ≠ .closingMoves) :
    (l.after e).closing = l.closing := by
  cases e with
  | disconnect patience => simp [after, disconnect, hs]
  | closingMoves => exact absurd rfl he
  | _ => exact closing_after l Bool.false_ne_true

namespace Underway

/-- A move of the closing call asks for the farewell when the worker is gone. -/
theorem closingMoves (h : l.Underway m) (hl : m.Ledger) (hp : m.Phase) :
    l.Underway (m.after .closingMoves) := by
  have hr := requests_after m .closingMoves
  have ht := (tally_after hl hp h.stopping .closingMoves).trans h.tally
  have hs := stopping_after_of_stopping h.stopping .closingMoves
  obtain hm | ⟨c, hc, hm⟩ := closingMoves_cases m
  · rwa [hm]
  · generalize m.after .closingMoves = n at hr ht hs hm
    cases closingStep hp hc hm with
    | cutOff closing worker hn =>
      obtain ⟨trace, rfl⟩ := hn
      obtain ⟨ho, ha⟩ := h.joining _ _ closing
      have hf : l.farewell = [] := if_neg (of_decide_eq_false ho.symm)
      refine ⟨hs, ht, fun _ _ hj => by simp at hj, fun _ => ?_⟩
      simpa [Event.requests, closing, goodbye, ha, hf] using hr
    | drain closing worker hn =>
      obtain ⟨trace, rfl⟩ := hn
      obtain ⟨ho, ha⟩ := h.joining _ _ closing
      have hf : l.farewell = [.disconnect] := if_pos (of_decide_eq_true ho.symm)
      have hclient := hp.client_of_joining closing
      refine ⟨hs, ht, fun _ _ hj => by simp at hj, fun _ => ?_⟩
      simpa [Event.requests, closing, goodbye, worker, hclient, ha, hf] using hr
    | finish closing hn =>
      obtain ⟨trace, rfl⟩ := hn
      have ha := h.joined (by simp [closing])
      refine ⟨hs, ht, fun _ _ hj => by simp at hj, fun _ => ?_⟩
      simpa [Event.requests, closing, goodbye, ha] using hr

theorem after (h : l.Underway m) (hl : m.Ledger) (hp : m.Phase) (e : Event) :
    l.Underway (m.after e) := by
  by_cases he : e = .closingMoves
  · rw [he]
    exact h.closingMoves hl hp
  · have hc := closing_after_of_stopping h.stopping he
    have hr := requests_after m e
    rw [hp.requests_of_stopping h.stopping he, List.append_nil] at hr
    refine ⟨stopping_after_of_stopping h.stopping e, (tally_after hl hp h.stopping e).trans h.tally,
      ?_, ?_⟩
    · rw [hc, hr]
      exact h.joining
    · rw [hc, hr]
      exact h.joined

theorem run (h : l.Underway m) (hm : m.Reachable) (es : List Event) : l.Underway (m.run es) := by
  induction es generalizing m with
  | nil => exact h
  | cons e es ih =>
    obtain ⟨hl, hp⟩ := hm.ledger_phase
    exact ih (h.after hl hp e) (hm.after e)

end Underway

/-! ### How long it takes -/

/-- The clock never passes a moment at which a task is ready. -/
def Prompt : Link → List Event → Prop
  | _, [] => True
  | l, e :: es => (∀ t, e = .advance t → ∀ u < t, (l.advance u).step? = none) ∧
      Prompt (l.after e) es

/-- The closing call that was made at some time goes on in time. -/
inductive InTime (made patience : Nanoseconds) (m : Link) : Prop
  | joining {wasOpen : Bool} (closing : m.closing = some (.joining wasOpen patience))
      (now : m.now = made)
  | draining (closing : m.closing = some (.draining patience (made + patience)))
      (now : m.now ≤ made + patience)
  | done (closing : m.closing = none)

/-- As long as the worker is waited for, a task is ready: the worker itself, or the closing call. -/
theorem step?_ne_none_of_joining (hs : l.stopping = true) {wasOpen : Bool}
    (hc : l.closing = some (.joining wasOpen patience)) : l.step? ≠ none := by
  intro hr
  obtain ⟨-, hworker, hclosing⟩ := l.step?_eq_none_iff.mp hr
  cases hw : l.worker with
  | none =>
    have hn := hclosing _ hc
    simp [stepClosing?, hw] at hn
  | some w =>
    obtain ⟨trace, he⟩ := exists_stepWorker?_eq hs w
    have hn := hworker w hw
    simp [he] at hn

/-- As long as the session is waited for, its time is not up. -/
theorem now_lt_of_rest {deadline : Nanoseconds}
    (hc : l.closing = some (.draining patience deadline)) (hr : l.step? = none) :
    l.now < deadline := by
  obtain ⟨-, -, hclosing⟩ := l.step?_eq_none_iff.mp hr
  have hn := hclosing _ hc
  by_contra hlt
  have hd : deadline ≤ l.now := Nat.le_of_not_lt hlt
  simp only [stepClosing?, hd, if_true] at hn
  split at hn <;> contradiction

theorem prompt_of_moves (l : Link) {es : List Event} (hes : ∀ e ∈ es, e ∈ moves) :
    l.Prompt es := by
  induction es generalizing l with
  | nil => trivial
  | cons e es ih =>
    obtain ⟨he, hes⟩ := List.forall_mem_cons.mp hes
    exact ⟨fun t ht => absurd ht (ne_advance_of_mem_moves he t), ih _ hes⟩

/-- A moment that the clock would pass. -/
theorem exists_lt_of_late {now t deadline : Nat} (h : now ≤ deadline) (hlate : deadline < now + t) :
    ∃ u < t, now + u = deadline := ⟨deadline - now, by omega, by omega⟩

namespace InTime

/-- The clock stops for the moments at which something is ready. -/
theorem advance (h : m.InTime made patience) (hs : m.stopping = true) {t : Nanoseconds}
    (ht : ∀ u < t, (m.advance u).step? = none) : (m.advance t).InTime made patience := by
  cases h with
  | joining closing now =>
    have hz : t = 0 := by
      by_contra hne
      exact step?_ne_none_of_joining hs closing (ht 0 (Nat.pos_of_ne_zero hne))
    exact .joining closing (by rw [hz]; exact now)
  | draining closing now =>
    refine .draining closing ?_
    by_contra hlate
    obtain ⟨u, hu, hd⟩ := exists_lt_of_late now (Nat.lt_of_not_le hlate)
    have hn : m.now + u < made + patience := now_lt_of_rest (l := m.advance u) closing (ht u hu)
    exact absurd hd (Nat.ne_of_lt hn)
  | done closing => exact .done closing

theorem closingMoves (h : m.InTime made patience) (hp : m.Phase) :
    (m.after .closingMoves).InTime made patience := by
  obtain hm | ⟨c, hc, hm⟩ := closingMoves_cases m
  · rwa [hm]
  · generalize m.after .closingMoves = n at hm
    cases closingStep hp hc hm with
    | cutOff closing worker hn =>
      obtain ⟨trace, rfl⟩ := hn
      exact .done rfl
    | drain closing worker hn =>
      obtain ⟨trace, rfl⟩ := hn
      cases h with
      | joining hj now =>
        cases closing.symm.trans hj
        exact .draining (by rw [now]) (by rw [now]; exact Nat.le_add_right _ _)
      | draining hj _ => exact absurd (closing.symm.trans hj) nofun
      | done hj => exact absurd (closing.symm.trans hj) nofun
    | finish closing hn =>
      obtain ⟨trace, rfl⟩ := hn
      exact .done rfl

theorem after (h : m.InTime made patience) (hp : m.Phase) (hs : m.stopping = true) {e : Event}
    (he : ∀ t, e = .advance t → ∀ u < t, (m.advance u).step? = none) :
    (m.after e).InTime made patience := by
  by_cases hc : e = .closingMoves
  · rw [hc]
    exact h.closingMoves hp
  · by_cases ha : ∃ t, e = .advance t
    · obtain ⟨t, rfl⟩ := ha
      exact h.advance hs (he t rfl)
    · have hn := now_after m fun t ht => ha ⟨t, ht⟩
      have hcl := closing_after_of_stopping hs hc
      cases h with
      | joining closing now => exact .joining (hcl.trans closing) (hn.trans now)
      | draining closing now => exact .draining (hcl.trans closing) (hn ▸ now)
      | done closing => exact .done (hcl.trans closing)

theorem run (h : m.InTime made patience) (hm : m.Reachable) (hs : m.stopping = true)
    {es : List Event} (hes : m.Prompt es) : (m.run es).InTime made patience := by
  induction es generalizing m with
  | nil => exact h
  | cons e es ih =>
    exact ih (h.after hm.ledger_phase.2 hs hes.1) (hm.after e) (stopping_after_of_stopping hs e)
      hes.2

end InTime

/-! ### The closing call as a whole -/

/-- How the link `m` stands at any time after `l` was told to close. -/
structure Closes (l m : Link) : Prop where
  state : m.state = if m.closing.isSome then .shuttingDown else .disconnected
  attempts : m.stats.connectionAttempts = l.stats.connectionAttempts
  successes : m.stats.successfulConnections = l.stats.successfulConnections
  losses : m.stats.connectionLosses = l.stats.connectionLosses
  sent : m.stats.publishesSent = l.stats.publishesSent
  /-- Nothing is asked but to say goodbye, once, of a link that was open. -/
  asked : ∃ rs, rs <+: (if l.state = .connected then [Request.disconnect] else []) ∧
    Record.requests m.trace = Record.requests l.trace ++ rs
  again : ∀ q, m.disconnect q = m
  /-- In the end the goodbye was said if it was due, and all is gone. -/
  done : m.closing = none →
    Record.requests m.trace =
        Record.requests l.trace ++ (if l.state = .connected then [.disconnect] else []) ∧
      (m.session = none ∧ Record.sessions m.trace = 0) ∧
      (m.worker = none ∧ Record.workers m.trace = 0) ∧
      m.client = none ∧ m.reconnecting = false ∧ m.subscribed = false

theorem Underway.closes (h : l.Underway m) (hm : m.Reachable) : l.Closes m := by
  obtain ⟨hl, hp⟩ := hm.ledger_phase
  have ht := h.tally
  refine ⟨?_, congrArg (·.connectionAttempts) ht, congrArg (·.successfulConnections) ht,
    congrArg (·.connectionLosses) ht, congrArg (·.publishesSent) ht, ?_, ?_, ?_⟩
  · have hs := h.stopping
    cases hp <;> simp_all [IsUp]
  · by_cases hj : ∃ wasOpen q, m.closing = some (.joining wasOpen q)
    · obtain ⟨wasOpen, q, hc⟩ := hj
      exact ⟨[], List.nil_prefix, (h.joining wasOpen q hc).2.trans (List.append_nil _).symm⟩
    · exact ⟨l.farewell, List.prefix_rfl, h.joined fun wasOpen q hc => hj ⟨wasOpen, q, hc⟩⟩
  · intro q
    simp [disconnect, h.stopping]
  · intro hc
    have hshut := hp.shut hl ⟨h.stopping, hc⟩
    have hsessions := hl.sessions
    have hworkers := hl.workers
    rw [hshut.session] at hsessions
    rw [hshut.worker] at hworkers
    exact ⟨h.joined (by simp [hc]), ⟨hshut.session, hsessions⟩, ⟨hshut.worker, hworkers⟩,
      hshut.client, hshut.guard, hm.subscribed_of_closed ⟨h.stopping, hc⟩⟩

/-- When its time is up the tasks bring the closing call to its end, without the clock. -/
theorem InTime.exists_rest_done (h : m.InTime made patience) (hm : m.Reachable)
    (hs : m.stopping = true) : ∃ n, m.rest? silent 4 = some n ∧ n.now = m.now ∧
      (made + patience ≤ m.now → n.closing = none) := by
  obtain ⟨hl, hp⟩ := hm.ledger_phase
  obtain ⟨es, hes, hrest, hdone⟩ := exists_rest hl hp hs m.busy_le
  have hn := now_run_of_moves m hes
  refine ⟨m.run es, hrest, hn, ?_⟩
  intro hlate
  cases h.run hm hs (prompt_of_moves m hes) with
  | joining closing _ =>
    exact absurd hdone (step?_ne_none_of_joining (stopping_run_of_stopping hs es) closing)
  | draining closing _ =>
    have hlt := now_lt_of_rest closing hdone
    rw [hn] at hlt
    exact absurd hlate (Nat.not_le.mpr hlt)
  | done closing => exact closing

/-- From the moment at which a link is first told to close, whatever happens then: it shuts down
until the call is at its end and is disconnected from then on, nothing is counted or asked but the
goodbye, and at the end all is gone. If the clock never passes a moment at which a task is ready,
that end comes in the given time. -/
theorem closes_in_time (h : l.Reachable) (hs : l.stopping = false) (patience : Nanoseconds)
    (es : List Event) :
    let m := (l.disconnect patience).run es
    l.Closes m ∧ ((l.disconnect patience).Prompt es →
      (m.closing.isSome → m.now ≤ l.now + patience) ∧
        ∃ n, m.rest? silent 4 = some n ∧ n.now = m.now ∧
          (l.now + patience ≤ m.now → n.closing = none)) := by
  intro m
  have hd : (l.disconnect patience).Reachable := h.after (.disconnect patience)
  have hu : l.Underway (l.disconnect patience) := underway_disconnect hs patience
  have hm : m.Reachable := hd.run es
  have hum : l.Underway m := hu.run hd es
  refine ⟨hum.closes hm, ?_⟩
  intro hes
  have hin : (l.disconnect patience).InTime l.now patience := by
    rw [disconnect_of_up hs]
    exact .joining rfl rfl
  have him : m.InTime l.now patience := hin.run hd hu.stopping hes
  refine ⟨?_, him.exists_rest_done hm hum.stopping⟩
  intro hc
  cases him with
  | joining _ now => exact now ▸ Nat.le_add_right _ _
  | draining _ now => exact now
  | done closing => simp [closing] at hc

/-- The goodbye is not sent in time, and the session is cut off when the time is up. -/
theorem closes_in_time_of_silence :
    let l := (create ⟨"tracker", "broker", 1883, 60, true, .plain⟩ {}).run
      [.connect, .report (.ok (.connAck .success false))]
    let m := (l.disconnect 5).run [.closingMoves, .advance 5]
    l.Closes m ∧ m.closing.isSome ∧ ∃ n, m.rest? silent 4 = some n ∧ n.closing = none := by
  intro l m
  have hl : l.Reachable := (Reachable.create _ {}).run _
  have hes : (l.disconnect 5).Prompt [.closingMoves, .advance 5] := by
    refine ⟨nofun, fun t ht u hu => ?_, trivial⟩
    cases ht
    have hrest : ∀ u < 5, (((l.disconnect 5).after .closingMoves).advance u).step?.isNone := by
      decide
    exact Option.isNone_iff_eq_none.mp (hrest u hu)
  obtain ⟨hc, htime⟩ := closes_in_time hl rfl 5 [.closingMoves, .advance 5]
  obtain ⟨-, n, hn, -, hdone⟩ := htime hes
  exact ⟨hc, rfl, n, hn, hdone (by decide)⟩

end SceneRelay.Link
