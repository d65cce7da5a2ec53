import SceneRelay.Proofs.Link.Requests
import SceneRelay.Proofs.Link.Setting

/-! A link that was told to close. None of its tasks begins anything new, each of them ends in its
next step, and so the link comes to rest soon. -/
namespace SceneRelay.Link
variable {l m : Link}

/-! ### What the tasks still do -/

theorem Phase.not_open_of_stopping (h : l.Phase) (hs : l.stopping = true) :
    l.state.isOpen = false := by
  obtain hd | hd := h.state_of_stopping hs <;> rw [hd] <;> rfl

theorem Phase.shuttingDown_of_session (h : l.Phase) (hs : l.stopping = true)
    (hn : l.session.isSome) : l.state = .shuttingDown := by
  cases h <;> simp_all [IsUp]

/-- A loss is no news while the link shuts down. -/
theorem lose_of_shuttingDown (hm : l.announced = l.state) (hs : l.stopping = true)
    (hd : l.state = .shuttingDown) {e : ConnectionEvent} (he : e.isLoss) :
    l.lose e = { l with subscribed := false } := by
  have ht : l.transition e = l := by
    apply transition_eq_self hm
    rw [hd]
    exact ConnectionState.next_of_shuttingDown (ConnectionEvent.ne_shutdownComplete he)
  rw [lose_of_stopping hs, noteLoss, ht, hd]
  rfl

theorem exists_stepSession?_eq (hm : l.announced = l.state) (hs : l.stopping = true)
    (hd : l.state = .shuttingDown) {s : Session} (h : l.stepSession? s = some m) :
    ∃ trace, m = { l with session := none, subscribed := false, trace } := by
  obtain rfl := eq_giveUpAttempt h
  rw [giveUpAttempt, lose_of_shuttingDown hm hs hd rfl]
  exact exists_endSession_eq { l with subscribed := false }

/-- The worker ends wherever it is. -/
theorem exists_stepWorker?_eq (hs : l.stopping = true) (w : Worker) :
    ∃ trace, l.stepWorker? w = some { l with worker := none, reconnecting := false, trace } := by
  obtain ⟨k, phase⟩ := w
  cases phase with
  | deciding =>
    refine ⟨_, congrArg some ((decide_eq_endWorker k (.inl hs)).trans (endWorker_eq (.inl hs)))⟩
  | waiting d =>
    exact ⟨_, (if_pos hs).trans (congrArg some (endWorker_eq (l := l.log _ _ _) (.inl hs)))⟩
  | resolving => exact ⟨_, (if_pos hs).trans (congrArg some (endWorker_eq (.inl hs)))⟩

theorem exists_wake_eq (hs : l.stopping = true) : ∃ worker,
    l.wake = { l with worker } ∧ worker.isSome = l.worker.isSome := by
  obtain hm | ⟨k, d, hw, hm⟩ := wake_cases l
  · exact ⟨l.worker, hm, rfl⟩
  · rw [hm, retry, startSession?_eq_none _ (.inl hs)]
    exact ⟨_, rfl, by rw [hw]; rfl⟩

theorem exists_finishClosing_eq (l : Link) : ∃ trace, l.finishClosing =
    { l with closing := none, subscribed := false, state := .disconnected,
             announced := .disconnected, trace } := by
  have hn := ConnectionState.next_shutdownComplete l.state
  refine ⟨l.finishClosing.trace, ?_⟩
  simp only [finishClosing, transition, log, act, hn]

theorem exists_cutOff_eq (l : Link) : ∃ trace, l.cutOff =
    { l with client := none, session := none, closing := none, subscribed := false,
             state := .disconnected, announced := .disconnected, trace } := by
  obtain ⟨trace, he⟩ := exists_endSession_eq { l with client := none }
  rw [cutOff, he]
  exact exists_finishClosing_eq { l with client := none, session := none, trace }

/-- An open session is asked to say goodbye, whether it still takes that or not. -/
theorem exists_drain_eq (hc : l.client.isSome) (patience : Nanoseconds) : ∃ trace,
    l.drain true patience =
      { l with client := none, closing := some (.draining patience (l.now + patience)),
               trace } := by
  obtain ⟨c, hc⟩ := Option.isSome_iff_exists.mp hc
  simp only [drain, ask, hc, if_true]
  cases l.granted c .disconnect <;> exact ⟨_, rfl⟩

/-- A step of the closing call: it cuts the session off and is done, or it lets an open one say
goodbye; then it waits for that until it is done. -/
inductive ClosingStep (l m : Link) : Prop
  | cutOff {patience : Nanoseconds} (closing : l.closing = some (.joining false patience))
      (worker : l.worker = none)
      (h : ∃ trace, m =
        { l with client := none, session := none, closing := none, subscribed := false,
                 state := .disconnected, announced := .disconnected, trace })
  | drain {patience : Nanoseconds} (closing : l.closing = some (.joining true patience))
      (worker : l.worker = none)
      (h : ∃ trace, m =
        { l with client := none, closing := some (.draining patience (l.now + patience)), trace })
  | finish {patience deadline : Nanoseconds}
      (closing : l.closing = some (.draining patience deadline))
      (h : ∃ trace, m =
        { l with session := none, closing := none, subscribed := false, state := .disconnected,
                 announced := .disconnected, trace })

theorem closingStep (hp : l.Phase) {c : Closing} (hc : l.closing = some c)
    (hm : l.stepClosing? c = some m) : l.ClosingStep m := by
  cases closingMove hm with
  | @drains wasOpen patience call worker h =>
    subst call h
    cases wasOpen with
    | false => exact .cutOff hc worker (exists_cutOff_eq l)
    | true => exact .drain hc worker (exists_drain_eq (hp.client_of_joining hc) patience)
  | finishes call session h =>
    subst call
    obtain ⟨trace, hf⟩ := exists_finishClosing_eq l
    exact .finish hc ⟨trace, by rw [h, hf, ← session]⟩
  | @expires patience _ call _ h =>
    subst call
    obtain ⟨trace, he⟩ := exists_endSession_eq
      (l.log .warn "MQTT session did not drain in time, aborting"
        [("timeout_ms", .number (patience / millisecond))])
    rw [h, he]
    exact .finish hc (exists_finishClosing_eq _)

/-! ### What is asked and counted -/

/-- Nothing is asked of a session any more, but to say goodbye. -/
theorem Phase.requests_of_stopping (hp : l.Phase) (hs : l.stopping = true) {e : Event}
    (he : e ≠ .closingMoves) : e.requests l = [] := by
  have ho := hp.not_open_of_stopping hs
  cases e with
  | subscribe filter => exact heard_of_closed ho _
  | unsubscribe filter => exact heard_of_closed ho _
  | publish p => exact heard_of_closed ho _
  | report r =>
    cases r with
    | error text => rfl
    | ok packet =>
      simp only [Event.requests]
      split
      · rename_i hn
        have hd := hp.shuttingDown_of_session hs hn
        cases packet.route with
        | acknowledged present => exact replies_acknowledged_of_shuttingDown hd present
        | message topic payload retain => exact heard_of_closed ho _
        | _ => rfl
      · rfl
  | closingMoves => exact absurd rfl he
  | _ => rfl

/-- What was counted of the connection and of the messages that were sent. -/
def tally (l : Link) : LinkStats := { l.stats with publishesDropped := 0, messagesReceived := 0 }

section
variable (ho : l.state.isOpen = false)
include ho

theorem askFilter_of_closed (r : Request) (filter granted refused : String) :
    l.askFilter r filter granted refused = l := by simp [askFilter, ho]

theorem tally_publish (p : Publication) : (l.publish p).tally = l.tally := by
  have hp : l.publish p = l.countDropped.log .warn "Dropping publish while not connected"
      [("topic", .text p.topic), ("state", .text l.state.name)] := by simp [publish, ho]
  rw [hp]
  rfl

theorem tally_publishAll (ps : List Publication) : (l.publishAll ps).tally = l.tally := by
  induction ps generalizing l with
  | nil => rfl
  | cons p ps ih =>
    have hs : (l.publish p).state = l.state := congrArg (·.state) (core_publish l p)
    exact (ih (hs ▸ ho)).trans (tally_publish ho p)

theorem tally_dispatch (topic : String) (payload : ByteArray) :
    (l.dispatch topic payload).tally = l.tally := by
  unfold dispatch
  split
  · rfl
  · rename_i f _
    have hp := tally_publishAll (l := l.act (.called topic payload)) ho
      (f topic payload).publications
    unfold react
    dsimp only
    split <;> exact hp

end

theorem tally_endSession (l : Link) : l.endSession.tally = l.tally := by
  obtain ⟨trace, he⟩ := exists_endSession_eq l
  rw [he]
  rfl

theorem tally_handleRoute (hl : l.Ledger) (hp : l.Phase) (hs : l.stopping = true)
    (hn : l.session.isSome) (r : Route) : (l.handleRoute r).1.tally = l.tally := by
  have ho := hp.not_open_of_stopping hs
  have hd := hp.shuttingDown_of_session hs hn
  cases r with
  | acknowledged present =>
    have ha := congrArg tally (acknowledge_of_shuttingDown hl.mirror hd)
    exact ha
  | refused code =>
    have ha := congrArg tally (lose_of_shuttingDown hl.mirror hs hd (e := .refused code) rfl)
    exact ha
  | message topic payload retain => exact tally_dispatch (l := l.countReceived) ho topic payload
  | subscribed packetId codes =>
    have hw : (l.warnOfRefusals packetId codes).tally = l.tally := by
      unfold warnOfRefusals
      split <;> rfl
    exact hw
  | disconnected => simp [handleRoute, hs]
  | disconnectSent => rfl
  | infrastructure text => rfl
  | outgoing => rfl

theorem tally_report (hl : l.Ledger) (hp : l.Phase) (hs : l.stopping = true) (r : Report) :
    (l.report r).tally = l.tally := by
  cases reported l r with
  | unheard _ hm => rw [hm]
  | readsOn session _ hm => exact hm ▸ tally_handleRoute hl hp hs session _
  | leaves session _ hm =>
    exact hm ▸ (tally_endSession _).trans (tally_handleRoute hl hp hs session _)
  | closes _ _ _ hm => exact hm ▸ tally_endSession l
  | fails up _ _ _ => exact absurd (up.symm.trans hs) Bool.false_ne_true

/-- Nothing is counted any more, but messages that arrive or are dropped. -/
theorem tally_after (hl : l.Ledger) (hp : l.Phase) (hs : l.stopping = true) (e : Event) :
    (l.after e).tally = l.tally := by
  have ho := hp.not_open_of_stopping hs
  cases e with
  | connect => exact congrArg tally (connect_eq_self (.inl hs))
  | subscribe filter =>
    have ha := askFilter_of_closed (l := l.addFilter filter) ho (.subscribe filter) filter
      "Subscribing" "Subscribe request failed"
    have ht := congrArg tally ha
    exact ht
  | unsubscribe filter =>
    have ha := askFilter_of_closed (l := l.removeFilter filter) ho (.unsubscribe filter) filter
      "Unsubscribing" "Unsubscribe request failed"
    have ht := congrArg tally ha
    exact ht
  | publish p => exact tally_publish ho p
  | listen callback => rfl
  | disconnect patience => simp [after, disconnect, hs]
  | report r => exact tally_report hl hp hs r
  | flushed => rfl
  | answers takes => rfl
  | advance time => rfl
  | sessionMoves =>
    refine move_keeps (P := fun m => m.tally = l.tally) rfl fun s hn m hm => ?_
    have hd := hp.shuttingDown_of_session hs (by rw [hn]; rfl)
    obtain ⟨trace, rfl⟩ := exists_stepSession?_eq hl.mirror hs hd hm
    rfl
  | workerMoves =>
    refine move_keeps (P := fun m => m.tally = l.tally) rfl fun w _ m hm => ?_
    obtain ⟨trace, he⟩ := exists_stepWorker?_eq hs w
    cases he.symm.trans hm
    rfl
  | workerWakes =>
    obtain ⟨worker, he, -⟩ := exists_wake_eq hs
    have ht := congrArg tally he
    exact ht
  | closingMoves =>
    refine move_keeps (P := fun m => m.tally = l.tally) rfl fun c hc m hm => ?_
    cases closingStep hp hc hm with
    | cutOff _ _ h => obtain ⟨trace, rfl⟩ := h; rfl
    | drain _ _ h => obtain ⟨trace, rfl⟩ := h; rfl
    | finish _ h => obtain ⟨trace, rfl⟩ := h; rfl

/-! ### The link comes to rest -/

def Closing.steps : Closing → Nat
  | .joining .. => 2
  | .draining .. => 1

/-- How many steps the tasks of a link that was told to close can still make. -/
def busy (l : Link) : Nat :=
  l.session.isSome.toNat + l.worker.isSome.toNat + l.closing.elim 0 Closing.steps

theorem busy_le (l : Link) : l.busy ≤ 4 := by
  have hc : l.closing.elim 0 Closing.steps ≤ 2 := by
    cases l.closing with
    | none => exact Nat.zero_le 2
    | some c => cases c <;> simp [Closing.steps]
  have hs := Bool.toNat_le l.session.isSome
  have hw := Bool.toNat_le l.worker.isSome
  unfold busy
  omega

theorem busy_lt_of_step? (hl : l.Ledger) (hp : l.Phase) (hs : l.stopping = true)
    (h : l.step? = some m) : m.busy < l.busy := by
  obtain ⟨s, hn, hm⟩ | ⟨w, hw, hm⟩ | ⟨c, hc, hm⟩ := step?_cases h
  · have hd := hp.shuttingDown_of_session hs (by rw [hn]; rfl)
    obtain ⟨trace, rfl⟩ := exists_stepSession?_eq hl.mirror hs hd hm
    simp [busy, hn]
  · obtain ⟨trace, he⟩ := exists_stepWorker?_eq hs w
    cases he.symm.trans hm
    simp [busy, hw]
  · cases closingStep hp hc hm with
    | cutOff closing worker h =>
      obtain ⟨trace, rfl⟩ := h
      simp [busy, closing, worker, Closing.steps]
    | drain closing worker h =>
      obtain ⟨trace, rfl⟩ := h
      simp [busy, closing, worker, Closing.steps]
    | finish closing h =>
      obtain ⟨trace, rfl⟩ := h
      simp only [busy, closing, Closing.steps, Option.elim_some, Option.elim_none,
        Option.isSome_none, Bool.toNat_false]
      omega

/-- The tasks of a link that was told to close make a few moves, and then all of them wait. -/
theorem exists_rest {n : Nat} (hl : l.Ledger) (hp : l.Phase) (hs : l.stopping = true)
    (hn : l.busy ≤ n) : ∃ es, (∀ e ∈ es, e ∈ moves) ∧ l.rest? silent n = some (l.run es) ∧
      (l.run es).step? = none := by
  induction n generalizing l with
  | zero =>
    have hr : l.step? = none := by
      apply Option.eq_none_iff_forall_ne_some.mpr
      intro m hm
      have hlt := busy_lt_of_step? hl hp hs hm
      omega
    have hw : l.stepWith? silent = none := hr
    exact ⟨[], nofun, by simp [rest?, hw], hr⟩
  | succ n ih =>
    cases hr : l.step? with
    | none =>
      have hw : l.stepWith? silent = none := hr
      exact ⟨[], nofun, by simp [rest?, hw], hr⟩
    | some m =>
      have hw : l.stepWith? silent = some m := hr
      have hlt := busy_lt_of_step? hl hp hs hr
      obtain ⟨e, he, rfl⟩ := exists_after_of_step? hr
      obtain ⟨es, hes, hrest, hdone⟩ := ih (hl.after e) (hp.after hl e)
        (stopping_after_of_stopping hs e) (by omega)
      refine ⟨e :: es, List.forall_mem_cons.mpr ⟨he, hes⟩, ?_, hdone⟩
      simpa only [rest?, hw, run_cons] using hrest

end SceneRelay.Link
