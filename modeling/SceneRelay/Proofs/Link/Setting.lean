import SceneRelay.Proofs.Link.Core
import SceneRelay.Proofs.Link.Steps

/-! What a link was set up with and told from outside. Neither a report nor a task ever changes it,
but that the closing call goes on by itself. -/
namespace SceneRelay.Link

/-- How the link was set up, the time, whether and how far it is closing, its filters and its
listener. -/
def setting (l : Link) : Link :=
  { options := l.options, backoff := l.backoff, now := l.now, stopping := l.stopping
    filters := l.filters, callback := l.callback, closing := l.closing }

/-- The closing call begins or moves. -/
def Event.closes : Event → Bool
  | .disconnect _ | .closingMoves => true
  | _ => false

/-- What an event changes of a setting, apart from the closing call; most events change nothing. -/
def Event.set : Event → Link → Link
  | .subscribe filter, l => { l with filters := (l.filters.insert filter).1 }
  | .unsubscribe filter, l => { l with filters := (l.filters.erase filter).1 }
  | .listen callback, l => { l with callback }
  | .disconnect _, l => { l with stopping := true }
  | .advance time, l => { l with now := l.now + time }
  | _, l => l

section
variable {l m : Link}

theorem setting_core (l : Link) : l.core.setting = l.setting := rfl

theorem setting_of_core (h : m.core = l.core) : m.setting = l.setting := by
  rw [← setting_core m, h, setting_core]

theorem setting_endSession (l : Link) : l.endSession.setting = l.setting := by
  obtain ⟨trace, he⟩ := exists_endSession_eq l
  rw [he]
  rfl

theorem setting_reconnectIfLost (l : Link) : l.reconnectIfLost.setting = l.setting := by
  obtain ⟨worker, reconnecting, trace, hr⟩ := exists_reconnectIfLost_eq l
  rw [hr]
  rfl

theorem setting_startSession? {e : ConnectionEvent} (hm : l.startSession? e = some m) :
    m.setting = l.setting := by
  obtain ⟨-, rfl⟩ := startSession?_eq_some hm
  exact setting_endSession (l.transition e)

theorem setting_connect (l : Link) : l.connect.setting = l.setting := by
  obtain hm | hm := connect_cases l
  · rw [hm]
  · exact setting_startSession? hm

theorem setting_disconnect (l : Link) (patience : Nanoseconds) : ∃ closing,
    (l.disconnect patience).setting = { l.setting with stopping := true, closing } := by
  unfold disconnect
  split
  · rename_i hs
    exact ⟨l.closing, by simp only [setting, hs]⟩
  · exact ⟨_, rfl⟩

theorem setting_lose (l : Link) (e : ConnectionEvent) : (l.lose e).setting = l.setting :=
  setting_reconnectIfLost (l.noteLoss e)

theorem setting_handleRoute (l : Link) (r : Route) : (l.handleRoute r).1.setting = l.setting := by
  cases r with
  | acknowledged present =>
    have hs := setting_of_core (core_acknowledge l)
    exact hs
  | refused code => exact setting_lose l _
  | message topic payload retain =>
    exact setting_of_core ((core_dispatch _ topic payload).trans (core_countReceived l))
  | subscribed packetId codes =>
    have hs := congrArg setting (core_subscribed l packetId codes)
    exact hs
  | disconnected =>
    dsimp only [handleRoute]
    split
    · rfl
    · exact setting_lose l _
  | disconnectSent => rfl
  | infrastructure text => rfl
  | outgoing => rfl

theorem setting_report (l : Link) (r : Report) : (l.report r).setting = l.setting := by
  cases reported l r with
  | unheard _ hm => rw [hm]
  | readsOn _ _ hm => exact hm ▸ setting_handleRoute l _
  | leaves _ _ hm => exact hm ▸ (setting_endSession _).trans (setting_handleRoute l _)
  | closes _ _ _ hm => exact hm ▸ setting_endSession l
  | fails _ _ _ hm => exact hm ▸ (setting_endSession _).trans (setting_lose l _)

theorem setting_stepSession? {s : Session} (hm : l.stepSession? s = some m) :
    m.setting = l.setting := by
  obtain rfl := eq_giveUpAttempt hm
  exact (setting_endSession _).trans (setting_lose l _)

theorem setting_endWorker (l : Link) : l.endWorker.setting = l.setting :=
  setting_reconnectIfLost (Link.act .retired _)

theorem setting_retry (l : Link) (attempts : UInt32) : (l.retry attempts).setting = l.setting := by
  unfold retry
  split
  · rename_i m hm
    exact setting_startSession? (m := m) hm
  · rfl

theorem setting_stepWorker? {w : Worker} (hm : l.stepWorker? w = some m) :
    m.setting = l.setting := by
  cases workerMove hm with
  | ends _ hm => exact hm ▸ setting_endWorker l
  | told _ hm => exact hm ▸ setting_endWorker (l.log _ _ _)
  | looksOn _ _ _ hm => exact hm ▸ rfl
  | looksAgain _ _ _ hm => exact hm ▸ rfl
  | backsOff _ _ _ hm => exact hm ▸ rfl
  | retries _ _ _ hm => exact hm ▸ setting_retry l _

theorem setting_wake (l : Link) : l.wake.setting = l.setting := by
  obtain hm | ⟨k, d, -, hm⟩ := wake_cases l
  · rw [hm]
  · exact hm ▸ setting_retry l k

theorem setting_finishClosing (l : Link) :
    l.finishClosing.setting = { l.setting with closing := none } := rfl

theorem setting_awaitSession (l : Link) (patience : Nanoseconds) :
    (l.awaitSession patience).setting =
      { l.setting with closing := some (.draining patience (l.now + patience)) } := rfl

theorem setting_cutOff (l : Link) : l.cutOff.setting = { l.setting with closing := none } := by
  rw [cutOff, setting_finishClosing, setting_endSession]
  rfl

theorem setting_drain (l : Link) (wasOpen : Bool) (patience : Nanoseconds) : ∃ closing,
    (l.drain wasOpen patience).setting = { l.setting with closing } := by
  have ha := setting_of_core (core_ask l .disconnect)
  cases drained l wasOpen patience with
  | cutsOff _ hm => exact hm ▸ ⟨none, setting_cutOff l⟩
  | awaits _ _ hm => exact hm ▸ ⟨_, by rw [setting_awaitSession, ha]⟩
  | warns _ _ hm => exact hm ▸ ⟨_, by rw [setting_awaitSession, ← ha]; rfl⟩

theorem setting_stepClosing? {c : Closing} (hm : l.stepClosing? c = some m) : ∃ closing,
    m.setting = { l.setting with closing } := by
  cases closingMove hm with
  | drains _ _ hm => exact hm ▸ setting_drain l _ _
  | finishes _ _ hm => exact hm ▸ ⟨none, rfl⟩
  | expires _ _ hm =>
    refine hm ▸ ⟨none, ?_⟩
    rw [setting_finishClosing, setting_endSession]
    rfl

/-- An event changes the setting only where it says so. -/
theorem setting_after (l : Link) (e : Event) : (l.after e).setting =
    { e.set l.setting with closing := if e.closes then (l.after e).closing else l.closing } := by
  cases e with
  | connect => exact setting_connect l
  | subscribe filter =>
    have hs := congrArg setting (core_subscribe l filter)
    exact hs
  | unsubscribe filter =>
    have hs := congrArg setting (core_unsubscribe l filter)
    exact hs
  | publish p =>
    have hs := setting_of_core (core_publish l p)
    exact hs
  | listen callback => rfl
  | disconnect patience =>
    obtain ⟨closing, h⟩ := setting_disconnect l patience
    obtain rfl : (l.disconnect patience).closing = closing := congrArg (·.closing) h
    exact h
  | report r => exact setting_report l r
  | flushed => rfl
  | answers takes => rfl
  | advance time => rfl
  | sessionMoves =>
    exact move_keeps (P := fun m => m.setting = l.setting) rfl
      fun _ _ _ hm => setting_stepSession? hm
  | workerMoves =>
    exact move_keeps (P := fun m => m.setting = l.setting) rfl
      fun _ _ _ hm => setting_stepWorker? hm
  | workerWakes => exact setting_wake l
  | closingMoves =>
    obtain ⟨closing, h⟩ : ∃ closing, (l.after .closingMoves).setting = { l.setting with closing } :=
      move_keeps (P := fun m => ∃ closing, m.setting = { l.setting with closing }) ⟨l.closing, rfl⟩
        fun _ _ _ hm => setting_stepClosing? hm
    obtain rfl : (l.after .closingMoves).closing = closing := congrArg (·.closing) h
    exact h

/-- Only a closing call and its own moves have to do with it. -/
theorem closing_after (l : Link) {e : Event} (he : ¬e.closes) :
    (l.after e).closing = l.closing := by
  have h := congrArg (·.closing) (setting_after l e)
  exact h.trans (if_neg he)

theorem backoff_after (l : Link) (e : Event) : (l.after e).backoff = l.backoff := by
  have h := congrArg (·.backoff) (setting_after l e)
  cases e <;> exact h

theorem now_le_after (l : Link) (e : Event) : l.now ≤ (l.after e).now := by
  have h := congrArg (·.now) (setting_after l e)
  cases e with
  | advance time => exact Nat.le_add_right l.now time
  | _ => exact Nat.le_of_eq h.symm

/-- Only the clock moves the clock. -/
theorem now_after (l : Link) {e : Event} (he : ∀ t, e ≠ .advance t) : (l.after e).now = l.now := by
  have h := congrArg (·.now) (setting_after l e)
  cases e with
  | advance t => exact absurd rfl (he t)
  | _ => exact h

theorem ne_advance_of_mem_moves {e : Event} (he : e ∈ moves) (t : Nanoseconds) :
    e ≠ .advance t := by
  rintro rfl
  simp [moves] at he

theorem now_run_of_moves (l : Link) {es : List Event} (hes : ∀ e ∈ es, e ∈ moves) :
    (l.run es).now = l.now := by
  induction es generalizing l with
  | nil => rfl
  | cons e es ih =>
    obtain ⟨he, hes⟩ := List.forall_mem_cons.mp hes
    exact (ih (l.after e) hes).trans (now_after l (ne_advance_of_mem_moves he))

theorem stopping_after (l : Link) {e : Event} (he : ¬e.isDisconnect) :
    (l.after e).stopping = l.stopping := by
  have h := congrArg (·.stopping) (setting_after l e)
  cases e with
  | disconnect patience => exact absurd rfl he
  | _ => exact h

/-- A link that was told to close is never told otherwise. -/
theorem stopping_after_of_stopping {l : Link} (hs : l.stopping = true) (e : Event) :
    (l.after e).stopping = true := by
  have h := congrArg (·.stopping) (setting_after l e)
  cases e with
  | disconnect patience => exact h
  | _ => exact h.trans hs

theorem stopping_run_of_stopping {l : Link} (hs : l.stopping = true) (es : List Event) :
    (l.run es).stopping = true :=
  run_keeps (P := fun m => m.stopping = true) (fun _ e h => stopping_after_of_stopping h e) hs es

/-- A link closes only when it is told to. -/
theorem stopping_run (l : Link) {es : List Event} (hes : ∀ e ∈ es, ¬e.isDisconnect) :
    (l.run es).stopping = l.stopping := by
  induction es generalizing l with
  | nil => rfl
  | cons e es ih =>
    have he := hes e (List.mem_cons_self ..)
    exact (ih _ fun f hf => hes f (List.mem_cons_of_mem e hf)).trans (stopping_after l he)

end
end SceneRelay.Link
