import SceneRelay.Proofs.Link.Phase
import SceneRelay.Proofs.Link.Setting

/-! A closed link, and what becomes of it when the routes of a session that was cut off are still
handled. -/
namespace SceneRelay.Link
variable {l m : Link}

/-- The closing call has come to its end. -/
def IsClosed (l : Link) : Prop := l.stopping = true ∧ l.closing = none

/-- What a closed link looks like. -/
structure Shut (l : Link) : Prop where
  stopping : l.stopping = true
  closing : l.closing = none
  state : l.state = .disconnected
  session : l.session = none
  worker : l.worker = none
  client : l.client = none
  guard : l.reconnecting = false

theorem Phase.shut (h : l.Phase) (hl : l.Ledger) (hc : l.IsClosed) : l.Shut := by
  have hg := hl.guard
  cases h with
  | idle up _ _ _ _ => exact absurd (hc.1.symm.trans up.1) nofun
  | backingOff up _ _ _ _ => exact absurd (hc.1.symm.trans up.1) nofun
  | attempting up _ _ _ _ _ _ => exact absurd (hc.1.symm.trans up.1) nofun
  | retrying up _ _ _ _ _ _ => exact absurd (hc.1.symm.trans up.1) nofun
  | connected up _ _ _ _ _ _ => exact absurd (hc.1.symm.trans up.1) nofun
  | joining _ closing _ _ => exact absurd (hc.2.symm.trans closing) nofun
  | draining _ closing _ _ _ => exact absurd (hc.2.symm.trans closing) nofun
  | closed stopping closing state session worker client =>
    exact ⟨stopping, closing, state, session, worker, client, by rw [hg, worker]; rfl⟩

/-! ### A closed link is not subscribed -/

theorem subscribed_of_drain {wasOpen : Bool} {patience : Nanoseconds}
    (hn : (l.drain wasOpen patience).closing = none) :
    (l.drain wasOpen patience).subscribed = false := by
  cases drained l wasOpen patience with
  | cutsOff _ hm => exact hm ▸ rfl
  | awaits _ _ hm => simp [hm, awaitSession] at hn
  | warns _ _ hm => simp [hm, awaitSession] at hn

/-- The closing call takes the subscription down at its end. -/
theorem subscribed_of_stepClosing? {c : Closing} (hm : l.stepClosing? c = some m)
    (hn : m.closing = none) : m.subscribed = false := by
  cases closingMove hm with
  | drains _ _ hm =>
    subst hm
    exact subscribed_of_drain hn
  | finishes _ _ hm => exact hm ▸ rfl
  | expires _ _ hm => exact hm ▸ rfl

/-- No event subscribes a closed link. -/
theorem Shut.subscribed_after (h : l.Shut) (hs : l.subscribed = false) (e : Event) :
    (l.after e).subscribed = false := by
  cases e with
  | connect =>
    have hc : l.connect = l := connect_eq_self (.inl h.stopping)
    exact (congrArg (·.subscribed) hc).trans hs
  | subscribe filter => exact (congrArg (·.subscribed) (core_subscribe l filter)).trans hs
  | unsubscribe filter =>
    have hu : (l.unsubscribe filter).subscribed = _ :=
      congrArg (·.subscribed) (core_unsubscribe l filter)
    exact hu.trans (by rw [hs, Bool.false_and])
  | publish p => exact (congrArg (·.subscribed) (core_publish l p)).trans hs
  | listen callback => exact hs
  | disconnect patience => simpa [Link.after, disconnect, h.stopping] using hs
  | report r => simpa [Link.after, report, h.session] using hs
  | flushed => exact hs
  | answers takes => exact hs
  | advance time => exact hs
  | sessionMoves => simpa [Link.after, h.session] using hs
  | workerMoves => simpa [Link.after, h.worker] using hs
  | workerWakes => simpa [Link.after, wake, h.worker] using hs
  | closingMoves => simpa [Link.after, h.closing] using hs

theorem Reachable.subscribed_of_closed (h : l.Reachable) (hc : l.IsClosed) :
    l.subscribed = false := by
  induction h with
  | create options backoff => rfl
  | @after l h e ih =>
    obtain ⟨hl, hp⟩ := h.ledger_phase
    by_cases hb : l.IsClosed
    · exact (hp.shut hl hb).subscribed_after (ih hb) e
    · by_cases he : e.closes
      · cases e with
        | disconnect patience =>
          have hd : l.disconnect patience = l ∨ (l.disconnect patience).closing.isSome := by
            unfold disconnect
            split
            · exact .inl rfl
            · exact .inr rfl
          obtain hd | hd := hd
          · exact absurd (hd ▸ hc) hb
          · exact absurd hc.2 (Option.isSome_iff_ne_none.mp hd)
        | closingMoves =>
          refine move_keeps (P := fun m => m.IsClosed → m.subscribed = false)
            (fun hn => absurd hn hb) (fun c _ m hm hn => ?_) hc
          exact subscribed_of_stepClosing? hm hn.2
        | _ => exact absurd he Bool.false_ne_true
      · have hs : (l.after e).stopping = l.stopping := stopping_after l fun hd => he (by
          cases e <;> first | rfl | exact absurd hd Bool.false_ne_true)
        exact absurd ⟨hs.symm.trans hc.1, (closing_after l he).symm.trans hc.2⟩ hb

/-! ### Late events -/

/-- What can still happen to a closed link: a route of a session that is not quite gone, and
calls. -/
inductive Late where
  | routed (r : Route)
  | connect
  | subscribe (filter : String)
  | unsubscribe (filter : String)
  | publish (p : Publication)
  | disconnect (patience : Nanoseconds)

def afterLate (l : Link) : Late → Link
  | .routed r => (l.handleRoute r).1
  | .connect => l.connect
  | .subscribe filter => l.subscribe filter
  | .unsubscribe filter => l.unsubscribe filter
  | .publish p => l.publish p
  | .disconnect patience => l.disconnect patience

def late (l : Link) (es : List Late) : Link := es.foldl afterLate l

/-- The two routes that nobody checks against the end: the broker takes the connection up, and it
grants a filter. -/
def Late.revives : Late → Bool
  | .routed (.acknowledged _) => true
  | .routed (.subscribed _ codes) => SubAck.anyGranted codes
  | _ => false

/-- The tasks of the link are gone for good. -/
structure Tied (l : Link) : Prop where
  stopping : l.stopping = true
  session : l.session = none
  worker : l.worker = none
  guard : l.reconnecting = false

/-- The link appears as it was closed. -/
structure Silent (l : Link) : Prop where
  state : l.state = .disconnected
  subscribed : l.subscribed = false

/-- The tasks of a link hang on its core. -/
theorem Tied.of_core (h : l.Tied) {filters : Subscriptions} {subscribed : Bool}
    {state announced : ConnectionState}
    (hm : m.core = { l.core with filters, subscribed, state, announced }) : m.Tied where
  stopping := (congrArg (·.stopping) hm).trans h.stopping
  session := (congrArg (·.session) hm).trans h.session
  worker := (congrArg (·.worker) hm).trans h.worker
  guard := (congrArg (·.reconnecting) hm).trans h.guard

theorem Tied.lose (h : l.Tied) (e : ConnectionEvent) : Tied (l.lose e) := by
  rw [lose_of_stopping h.stopping]
  exact ⟨h.stopping, h.session, h.worker, h.guard⟩

/-- No route and no call sets a task to work again. -/
theorem Tied.afterLate (h : l.Tied) (e : Late) : Tied (l.afterLate e) := by
  cases e with
  | routed r =>
    cases r with
    | acknowledged present => exact h.of_core (core_acknowledge l)
    | refused code => exact h.lose _
    | message topic payload retain =>
      exact h.of_core ((core_dispatch _ topic payload).trans (core_countReceived l))
    | subscribed packetId codes => exact h.of_core (core_subscribed l packetId codes)
    | disconnected => simpa [Link.afterLate, handleRoute, h.stopping] using h
    | disconnectSent => exact h
    | infrastructure text => exact h
    | outgoing => exact h
  | connect =>
    have hc : l.connect = l := connect_eq_self (.inl h.stopping)
    exact (congrArg Tied hc).mpr h
  | subscribe filter => exact h.of_core (core_subscribe l filter)
  | unsubscribe filter => exact h.of_core (core_unsubscribe l filter)
  | publish p => exact h.of_core (core_publish l p)
  | disconnect patience => simpa [Link.afterLate, Link.disconnect, h.stopping] using h

theorem Tied.late (h : l.Tied) (es : List Late) : Tied (l.late es) := by
  induction es generalizing l with
  | nil => exact h
  | cons e es ih => exact ih (h.afterLate e)

theorem Silent.of_core (h : l.Silent) {filters : Subscriptions}
    (hm : m.core = { l.core with filters }) : m.Silent where
  state := (congrArg (·.state) hm).trans h.state
  subscribed := (congrArg (·.subscribed) hm).trans h.subscribed

theorem Silent.lose (h : l.Silent) (ht : l.Tied) {e : ConnectionEvent} (he : e.isLoss) :
    Silent (l.lose e) := by
  rw [lose_of_stopping ht.stopping]
  exact ⟨noteLoss_of_ne (by simp [h.state]) he, rfl⟩

theorem Silent.afterLate (h : l.Silent) (ht : l.Tied) {e : Late} (he : ¬e.revives) :
    Silent (l.afterLate e) := by
  cases e with
  | routed r =>
    cases r with
    | acknowledged present => exact absurd rfl he
    | refused code => exact h.lose ht rfl
    | message topic payload retain =>
      exact h.of_core ((core_dispatch _ topic payload).trans (core_countReceived l))
    | subscribed packetId codes =>
      have hc := core_subscribed l packetId codes
      exact ⟨(congrArg (·.state) hc).trans h.state,
        (congrArg (·.subscribed) hc).trans (Bool.eq_false_iff.mpr he)⟩
    | disconnected => simpa [Link.afterLate, handleRoute, ht.stopping] using h
    | disconnectSent => exact h
    | infrastructure text => exact h
    | outgoing => exact h
  | connect =>
    have hc : l.connect = l := connect_eq_self (.inl ht.stopping)
    exact (congrArg Silent hc).mpr h
  | subscribe filter => exact h.of_core (core_subscribe l filter)
  | unsubscribe filter =>
    have hc := core_unsubscribe l filter
    refine ⟨(congrArg (·.state) hc).trans h.state, (congrArg (·.subscribed) hc).trans ?_⟩
    simp [h.subscribed]
  | publish p => exact h.of_core (core_publish l p)
  | disconnect patience => simpa [Link.afterLate, Link.disconnect, ht.stopping] using h

/-- An acceptance opens the closed link, and a grant subscribes it. -/
theorem Silent.not_silent_of_revives (h : l.Silent) {e : Late} (he : e.revives) :
    ¬Silent (l.afterLate e) := by
  intro hn
  cases e with
  | routed r =>
    cases r with
    | acknowledged present =>
      have hs : l.acknowledge.state = .connected :=
        (congrArg (·.state) (core_acknowledge l)).trans
          (ConnectionState.next_of_ne _ (by simp [h.state]))
      exact absurd (hs.symm.trans hn.state) nofun
    | subscribed packetId codes =>
      have hs : (l.afterLate (.routed (.subscribed packetId codes))).subscribed = true :=
        (congrArg (·.subscribed) (core_subscribed l packetId codes)).trans he
      exact absurd (hs.symm.trans hn.subscribed) nofun
    | _ => exact absurd he Bool.false_ne_true
  | _ => exact absurd he Bool.false_ne_true

/-- Late events leave the link silent all along if and only if none of them is one of the two
routes. -/
theorem Silent.late_iff (h : l.Silent) (ht : l.Tied) (es : List Late) :
    (∀ fs, fs <+: es → Silent (l.late fs)) ↔ ∀ e ∈ es, ¬e.revives := by
  induction es generalizing l with
  | nil =>
    constructor
    · intro _ e he
      simp at he
    · intro _ fs hf
      rw [List.prefix_nil.mp hf]
      exact h
  | cons e es ih =>
    constructor
    · intro hall
      have he : Silent (l.afterLate e) := hall [e] (List.prefix_append [e] es)
      have hr : ¬e.revives := fun hr => h.not_silent_of_revives hr he
      have hes : ∀ e ∈ es, ¬e.revives := by
        apply (ih he (ht.afterLate e)).mp
        intro fs hf
        exact hall (e :: fs) ((List.prefix_cons_inj e).mpr hf)
      exact List.forall_mem_cons.mpr ⟨hr, hes⟩
    · intro hall fs hf
      obtain ⟨hr, hes⟩ := List.forall_mem_cons.mp hall
      obtain rfl | ⟨gs, rfl, hg⟩ := List.prefix_cons_iff.mp hf
      · exact h
      · exact (ih (h.afterLate ht hr) (ht.afterLate e)).mpr hes gs hg

/-- A closed link stays disconnected and without a subscription, whatever calls and late routes
follow, exactly as long as no late route is an acceptance or grants a filter. No worker is ever
armed again, and no session opened. -/
theorem stays_closed_iff (h : l.Reachable) (hc : l.IsClosed) (es : List Late) :
    ((∀ fs, fs <+: es → (l.late fs).state = .disconnected ∧ (l.late fs).isConnected = false ∧
        (l.late fs).subscribed = false) ↔ ∀ e ∈ es, ¬e.revives) ∧
    ∀ fs, fs <+: es → (l.late fs).worker = none ∧ (l.late fs).reconnecting = false ∧
      (l.late fs).session = none := by
  obtain ⟨hl, hp⟩ := h.ledger_phase
  have hs := hp.shut hl hc
  have ht : l.Tied := ⟨hs.stopping, hs.session, hs.worker, hs.guard⟩
  have hsilent : l.Silent := ⟨hs.state, h.subscribed_of_closed hc⟩
  constructor
  · rw [← hsilent.late_iff ht es]
    apply forall₂_congr
    intro fs _
    constructor
    · rintro ⟨state, -, subscribed⟩
      exact ⟨state, subscribed⟩
    · intro hf
      exact ⟨hf.state, decide_eq_false (by simp [hf.state]), hf.subscribed⟩
  · intro fs _
    have hf := ht.late fs
    exact ⟨hf.worker, hf.guard, hf.session⟩

/-- A link that was closed before it was ever connected is opened by a late acceptance. -/
theorem stays_closed_iff_of_acceptance :
    let l := (create ⟨"tracker", "broker", 1883, 60, true, .plain⟩ {}).run
      [.disconnect 0, .closingMoves]
    l.IsClosed ∧ ¬∀ fs, fs <+: [.routed (.acknowledged false)] →
      (l.late fs).state = .disconnected ∧ (l.late fs).isConnected = false ∧
        (l.late fs).subscribed = false :=
  ⟨⟨rfl, rfl⟩, fun hn => absurd rfl
    ((stays_closed_iff ((Reachable.create _ {}).run _) ⟨rfl, rfl⟩ _).1.mp hn _ (.head _))⟩

end SceneRelay.Link
