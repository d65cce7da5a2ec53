import SceneRelay.Proofs.Link.Filters
import SceneRelay.Proofs.Link.Shifts
import SceneRelay.Proofs.Link.Shutdown

/-! What it means that a link counts as subscribed: the session that it has now was granted a
filter, and nothing has happened since to take that back. -/
namespace SceneRelay

theorem SubscribeCode.byte_lt_refusalCode (code : SubscribeCode) :
    code.byte < refusalCode ↔ ∃ granted, code = success granted := by
  cases code with
  | success granted => cases granted <;> simp [byte, Quality.byte, refusalCode]
  | failure => simp [byte]

theorem SubAck.anyGranted_iff (codes : List SubscribeCode) :
    anyGranted (codes.map SubscribeCode.byte) ↔ ∃ granted, .success granted ∈ codes := by
  simp only [anyGranted, List.any_map, List.any_eq_true, Function.comp_apply, decide_eq_true_eq,
    SubscribeCode.byte_lt_refusalCode]
  constructor
  · rintro ⟨_, hmem, granted, rfl⟩
    exact ⟨granted, hmem⟩
  · rintro ⟨granted, hmem⟩
    exact ⟨_, hmem, granted, rfl⟩

namespace Link

/-- The session hears what the broker says to a subscription. -/
abbrev Event.verdict (packetId : Nat) (codes : List SubscribeCode) : Event :=
  .report (.ok (.subscribeAck packetId codes))

/-- An event takes nothing back: the session hears of no subscription, no call to unsubscribe leaves
the link without a filter, the session is not lost, and the closing call does not end. -/
structure Quiet (l : Link) (e : Event) : Prop where
  answer : l.session.isSome → ∀ packetId codes, e ≠ .verdict packetId codes
  filters : ∀ filter, e = .unsubscribe filter → (l.filters.erase filter).1.isEmpty = false
  session : ¬e.losesSession l
  closing : l.closing.isSome → (l.after e).closing.isSome

variable {l m : Link} {e : Event}

/-! ### Events that decide about the subscription -/

/-- A verdict changes nothing else that counts. -/
structure Answered (l : Link) (codes : List SubscribeCode) (m : Link) : Prop where
  subscribed : m.subscribed = SubAck.anyGranted (codes.map SubscribeCode.byte)
  state : m.state = l.state
  generation : m.generation = l.generation

theorem answered (hs : l.session.isSome) (packetId : Nat) (codes : List SubscribeCode) :
    l.Answered codes (l.after (.verdict packetId codes)) := by
  have hcore := core_subscribed l packetId (codes.map SubscribeCode.byte)
  have hm : l.report (.ok (.subscribeAck packetId codes)) =
      (l.handleRoute (.subscribed packetId (codes.map SubscribeCode.byte))).1.rearm := by
    have hn : ¬l.session.isNone := by
      rw [Option.isNone_eq_false_iff.mpr hs]
      exact Bool.false_ne_true
    rw [report, if_neg hn]
    rfl
  rw [Event.verdict, after, hm]
  exact ⟨congrArg (·.subscribed) hcore, congrArg (·.state) hcore, congrArg (·.generation) hcore⟩

theorem subscribed_endSession (l : Link) : l.endSession.subscribed = l.subscribed := by
  obtain ⟨trace, he⟩ := exists_endSession_eq l
  rw [he]

theorem subscribed_lose (l : Link) (c : ConnectionEvent) : (l.lose c).subscribed = false := by
  obtain ⟨worker, reconnecting, trace, hr⟩ := exists_reconnectIfLost_eq (l.noteLoss c)
  rw [lose, hr]
  rfl

theorem subscribed_unsubscribe {filter : String} (h : (l.filters.erase filter).1.isEmpty = true) :
    (l.unsubscribe filter).subscribed = false := by
  have hs := congrArg (·.subscribed) (core_unsubscribe l filter)
  simpa [core, h] using hs

theorem subscribed_handleRoute_of_loss {packet : Packet}
    (h : Event.losesSession l (.report (.ok packet))) :
    (l.handleRoute packet.route).1.subscribed = false := by
  simp only [Event.losesSession, Bool.and_eq_true] at h
  obtain ⟨-, h⟩ := h
  split at h
  · rename_i hr
    rw [hr]
    exact subscribed_lose l _
  · rename_i hr
    have hs : l.stopping = false := by simpa using h
    simp [hr, handleRoute, hs, subscribed_lose]
  · exact absurd h Bool.false_ne_true

theorem after_sessionMoves (h : Event.losesSession l .sessionMoves) :
    l.after .sessionMoves = l.giveUpAttempt := by
  obtain ⟨s, hs, hd⟩ : ∃ s, l.session = some s ∧ s.deadline.any (· ≤ l.now) := by
    simpa [Event.losesSession, Option.any_eq_true] using h
  simp [after, hs, stepSession?, hd]

theorem subscribed_after_of_loss (h : e.losesSession l) : (l.after e).subscribed = false := by
  cases e with
  | report r =>
    rw [after]
    cases reported l r with
    | unheard session _ => cases r <;> simp [Event.losesSession, session] at h
    | readsOn _ report hm =>
      subst report
      exact hm ▸ subscribed_handleRoute_of_loss h
    | leaves _ report hm =>
      subst report
      exact hm ▸ (subscribed_endSession _).trans (subscribed_handleRoute_of_loss h)
    | closes stopping _ report _ => simp [Event.losesSession, report, stopping] at h
    | fails _ _ _ hm => exact hm ▸ (subscribed_endSession _).trans (subscribed_lose l _)
  | sessionMoves =>
    rw [after_sessionMoves h]
    exact (subscribed_endSession _).trans (subscribed_lose l _)
  | _ => exact absurd h Bool.false_ne_true

/-! ### Events that decide nothing -/

/-- The subscription is as it was, and the session too unless none could live. -/
structure Kept (l m : Link) : Prop where
  subscribed : m.subscribed = l.subscribed
  generation : l.state ≠ .disconnected → m.generation = l.generation

namespace Kept

theorem of_eq (h : m = l) : Kept l m := h ▸ ⟨rfl, fun _ => rfl⟩

theorem of_core (h : m.core = l.core) : Kept l m :=
  ⟨congrArg (·.subscribed) h, fun _ => congrArg (·.generation) h⟩

theorem endSession (h : Kept l m) : Kept l m.endSession := by
  obtain ⟨trace, he⟩ := exists_endSession_eq m
  rw [he]
  exact ⟨h.subscribed, h.generation⟩

theorem reconnectIfLost (h : Kept l m) : Kept l m.reconnectIfLost := by
  obtain ⟨worker, reconnecting, trace, hr⟩ := exists_reconnectIfLost_eq m
  rw [hr]
  exact ⟨h.subscribed, h.generation⟩

/-- A session is only opened while the link is disconnected. -/
theorem startSession? {c : ConnectionEvent} (hm : l.startSession? c = some m) : Kept l m := by
  obtain ⟨hs, rfl⟩ := startSession?_eq_some hm
  exact ⟨subscribed_endSession (l.transition c), fun hn => absurd hs hn⟩

theorem connect (l : Link) : Kept l l.connect := by
  obtain hm | hm := connect_cases l
  · exact of_eq hm
  · exact startSession? hm

theorem retry (l : Link) (k : UInt32) : Kept l (l.retry k) := by
  unfold Link.retry
  split
  · rename_i m hm
    have hk := startSession? (m := m) hm
    exact ⟨hk.subscribed, hk.generation⟩
  · exact ⟨rfl, fun _ => rfl⟩

theorem handleRoute {packet : Packet} (hs : l.session.isSome) (q : Quiet l (.report (.ok packet))) :
    Kept l (l.handleRoute packet.route).1 := by
  have hq := q.session
  cases packet with
  | connAck code present =>
    cases code with
    | success =>
      have ha : l.acknowledge.core = (l.transition .acknowledged).core := core_acknowledge l
      exact ⟨congrArg (·.subscribed) ha, fun _ => congrArg (·.generation) ha⟩
    | _ => simp [Event.losesSession, Packet.route, hs] at hq
  | publish topic payload retain =>
    exact of_core ((core_dispatch l.countReceived topic payload).trans (core_countReceived l))
  | subscribeAck packetId codes => exact absurd rfl (q.answer hs packetId codes)
  | disconnect =>
    have hstop : l.stopping = true := by simpa [Event.losesSession, Packet.route, hs] using hq
    exact of_eq (if_pos hstop)
  | _ => exact of_eq rfl

theorem report {r : Report} (q : Quiet l (.report r)) : Kept l (l.report r) := by
  cases reported l r with
  | unheard _ h => exact of_eq h
  | readsOn session report h =>
    subst report
    have hk := handleRoute session q
    exact h ▸ ⟨hk.subscribed, hk.generation⟩
  | leaves session report h =>
    subst report
    exact h ▸ (handleRoute session q).endSession
  | closes _ _ _ h => exact h ▸ (of_eq rfl).endSession
  | fails up session report _ =>
    have hq := q.session
    simp [Event.losesSession, report, session, up] at hq

theorem stepWorker? {w : Worker} (hm : l.stepWorker? w = some m) : Kept l m := by
  have hend : Kept l l.endWorker := reconnectIfLost ⟨rfl, fun _ => rfl⟩
  cases workerMove hm with
  | ends _ h => exact h ▸ hend
  | told _ h => exact h ▸ reconnectIfLost ⟨rfl, fun _ => rfl⟩
  | looksOn _ _ _ h => exact h ▸ ⟨rfl, fun _ => rfl⟩
  | looksAgain _ _ _ h => exact h ▸ ⟨rfl, fun _ => rfl⟩
  | backsOff _ _ _ h => exact h ▸ ⟨rfl, fun _ => rfl⟩
  | retries _ _ _ h => exact h ▸ retry l _

theorem wake (l : Link) : Kept l l.wake := by
  obtain hm | ⟨k, d, -, hm⟩ := wake_cases l
  · exact of_eq hm
  · exact hm ▸ retry l k

theorem stepSession? {s : Session} (q : Quiet l .sessionMoves) (hs : l.session = some s)
    (hm : l.stepSession? s = some m) : Kept l m := by
  have hq := q.session
  unfold Link.stepSession? at hm
  split at hm
  · rename_i hd
    simp [Event.losesSession, hs, hd] at hq
  · contradiction

theorem disconnect (l : Link) (patience : Nanoseconds) : Kept l (l.disconnect patience) := by
  unfold Link.disconnect
  split
  · exact of_eq rfl
  · exact ⟨rfl, fun _ => rfl⟩

/-- The closing call ends, and with it the subscription, or goes on. -/
theorem stepClosing? {c : Closing} (hm : l.stepClosing? c = some m) :
    m.closing = none ∧ m.subscribed = false ∨
      Kept l m ∧ (m.closing = none → l.closing = none) := by
  have ha := core_ask l .disconnect
  have hask : Kept l (l.ask .disconnect).1 := of_core ha
  cases closingMove hm with
  | drains _ _ h =>
    subst h
    cases drained l _ _ with
    | cutsOff _ h => exact .inl (h ▸ ⟨rfl, rfl⟩)
    | awaits _ _ h => exact .inr (h ▸ ⟨⟨hask.subscribed, hask.generation⟩, nofun⟩)
    | warns _ _ h => exact .inr (h ▸ ⟨⟨hask.subscribed, hask.generation⟩, nofun⟩)
  | finishes _ _ h => exact .inl (h ▸ ⟨rfl, rfl⟩)
  | expires _ _ h => exact .inl (h ▸ ⟨rfl, rfl⟩)

theorem closingMoves (l : Link) :
    let m := l.after .closingMoves
    m.closing = none ∧ m.subscribed = false ∨ Kept l m ∧ (m.closing = none → l.closing = none) :=
  move_keeps (P := fun m => m.closing = none ∧ m.subscribed = false ∨
    Kept l m ∧ (m.closing = none → l.closing = none)) (.inr ⟨of_eq rfl, id⟩)
      fun _ _ _ hm => stepClosing? hm

end Kept

/-- An event that decides nothing leaves the subscription alone. -/
theorem Quiet.kept (q : Quiet l e) : Kept l (l.after e) := by
  cases e with
  | connect => exact .connect l
  | subscribe filter =>
    have hc := core_subscribe l filter
    exact ⟨congrArg (·.subscribed) hc, fun _ => congrArg (·.generation) hc⟩
  | unsubscribe filter =>
    have hc := core_unsubscribe l filter
    have hf := q.filters filter rfl
    refine ⟨(congrArg (·.subscribed) hc).trans ?_, fun _ => congrArg (·.generation) hc⟩
    simp [hf]
  | publish p => exact .of_core (core_publish l p)
  | listen callback => exact ⟨rfl, fun _ => rfl⟩
  | disconnect patience => exact .disconnect l patience
  | report r => exact .report q
  | flushed => exact .of_core (core_flush l)
  | answers takes => exact .of_core (core_setAnswers l takes)
  | advance time => exact ⟨rfl, fun _ => rfl⟩
  | sessionMoves => exact move_keeps (.of_eq rfl) fun _ hs _ hm => .stepSession? q hs hm
  | workerMoves => exact move_keeps (.of_eq rfl) fun _ _ _ hm => .stepWorker? hm
  | workerWakes => exact .wake l
  | closingMoves =>
    cases hc : l.closing with
    | none => exact .of_eq (by simp [after, hc])
    | some c =>
      have hopen := q.closing (by simp [hc])
      obtain ⟨hn, -⟩ | ⟨hk, -⟩ := Kept.closingMoves l
      · simp [hn] at hopen
      · exact hk

/-- When the closing call ends the subscription is gone. -/
theorem subscribed_after_of_closed (hc : l.closing.isSome) (hm : (l.after e).closing = none) :
    (l.after e).subscribed = false := by
  by_cases he : e.closes
  · cases e with
    | closingMoves =>
      obtain ⟨-, hs⟩ | ⟨-, hn⟩ := Kept.closingMoves l
      · exact hs
      · simp [hn hm] at hc
    | disconnect patience =>
      have hd : (l.disconnect patience).closing.isSome := by
        unfold Link.disconnect
        split
        · exact hc
        · rfl
      rw [after] at hm
      simp [hm] at hd
    | _ => exact absurd he Bool.false_ne_true
  · rw [closing_after l he] at hm
    simp [hm] at hc

/-! ### Runs -/

/-- A link counts as subscribed after an event only if it was just granted a filter, or already did
and nothing was taken back. -/
theorem subscribed_after_cases (h : (l.after e).subscribed = true) :
    (∃ packetId codes, e = .verdict packetId codes ∧ l.session.isSome ∧
      ∃ granted, .success granted ∈ codes) ∨ Quiet l e ∧ l.subscribed = true := by
  by_cases ha : ∃ packetId codes, e = .verdict packetId codes ∧ l.session.isSome
  · obtain ⟨packetId, codes, rfl, hs⟩ := ha
    have hg := (answered hs packetId codes).subscribed.symm.trans h
    exact .inl ⟨packetId, codes, rfl, hs, (SubAck.anyGranted_iff codes).mp hg⟩
  · have q : Quiet l e :=
      { answer := fun hs packetId codes he => ha ⟨packetId, codes, he, hs⟩
        filters := by
          rintro filter rfl
          by_contra hf
          simp [after, subscribed_unsubscribe (Bool.not_eq_false _ ▸ hf)] at h
        session := by
          intro hl
          simp [subscribed_after_of_loss hl] at h
        closing := by
          intro hc
          by_contra hn
          simp [subscribed_after_of_closed hc (Option.not_isSome_iff_eq_none.mp hn)] at h }
    exact .inr ⟨q, q.kept.subscribed.symm.trans h⟩

/-- A link that counts as subscribed after a run did so all along, or the last answer that the run
brought granted a filter and nothing was taken back since. -/
theorem subscribed_run_cases {es : List Event} (h : (l.run es).subscribed = true) :
    Along Quiet l es ∧ l.subscribed = true ∨ ∃ before packetId codes rest,
      es = before ++ .verdict packetId codes :: rest ∧
      (l.run before).session.isSome ∧ (∃ granted, .success granted ∈ codes) ∧
      Along Quiet ((l.run before).after (.verdict packetId codes)) rest := by
  induction es generalizing l with
  | nil => exact .inl ⟨trivial, h⟩
  | cons e es ih =>
    obtain ⟨hquiet, hs⟩ | ⟨before, packetId, codes, rest, rfl, hs, hg, hrest⟩ := ih h
    · obtain ⟨packetId, codes, rfl, hs, hg⟩ | ⟨q, hold⟩ := subscribed_after_cases hs
      · exact .inr ⟨[], packetId, codes, es, rfl, hs, hg, hquiet⟩
      · exact .inl ⟨⟨q, hquiet⟩, hold⟩
    · exact .inr ⟨e :: before, packetId, codes, rest, rfl, hs, hg, hrest⟩

/-- A link as it can be when it counts as subscribed. -/
def Standing (l : Link) : Prop := l.state = .connected ∨ l.state = .shuttingDown

theorem Standing.of_eq (h : Standing l) (hm : m.state = l.state) : Standing m := by
  rw [Standing, hm]
  exact h

theorem Standing.ne_disconnected (h : Standing l) : l.state ≠ .disconnected := by
  obtain h | h := h <;> simp [h]

theorem Standing.not_isAttempting (h : Standing l) : ¬l.state.isAttempting := by
  obtain h | h := h <;> simp [h, ConnectionState.isAttempting]

/-- Unless it is being tried, a session belongs to a link that is connected or shuts down. -/
theorem Phase.standing (hp : l.Phase) (hs : l.session.isSome) (ha : ¬l.state.isAttempting) :
    Standing l := by
  by_cases hd : l.state = .shuttingDown
  · exact .inr hd
  · exact .inl ((hp.state_of_session hs hd).resolve_left ha)

/-- A link shuts down until its closing call ends. -/
theorem Phase.state_of_closing (hp : l.Phase) (hs : l.stopping = true) (hc : l.closing.isSome) :
    l.state = .shuttingDown := by
  cases hp <;> simp_all [IsUp]

theorem Standing.after (h : Standing l) (hl : l.Reachable) (q : Quiet l e) :
    Standing (l.after e) := by
  obtain ⟨hledger, hp⟩ := hl.ledger_phase
  by_cases hs : l.stopping = true
  · have hc : l.closing.isSome := by
      have hn := h.ne_disconnected
      cases hp <;> simp_all [IsUp]
    obtain ⟨-, hp⟩ := (hl.after e).ledger_phase
    exact .inr (hp.state_of_closing (stopping_after_of_stopping hs e) (q.closing hc))
  · have hs : l.stopping = false := Bool.eq_false_iff.mpr hs
    by_cases he : e.isDisconnect
    · exact .inr (state_of_isDisconnect hs he)
    · cases shift hledger hp (hp.isUp hs) he with
      | rests state _ _ => exact h.of_eq state
      | reads _ _ state _ => exact h.of_eq state
      | connects before _ _ _ => exact absurd before h.ne_disconnected
      | accepted _ state _ => exact .inl state
      | lost event _ _ _ _ => exact absurd event q.session
      | waits before _ _ _ => exact absurd before h.ne_disconnected
      | tries before _ _ _ _ _ _ => exact absurd before h.ne_disconnected
      | looks _ _ state _ => exact h.of_eq state
      | retires _ state _ => exact .inl state

/-- As long as nothing is taken back the subscription is kept, and so is the session. -/
theorem Standing.run (h : Standing l) (hl : l.Reachable) {es : List Event} (q : Along Quiet l es) :
    Standing (l.run es) ∧ (l.run es).generation = l.generation ∧
      (l.run es).subscribed = l.subscribed := by
  induction es generalizing l with
  | nil => exact ⟨h, rfl, rfl⟩
  | cons e es ih =>
    obtain ⟨q, hes⟩ := q
    obtain ⟨hstanding, hgeneration, hsubscribed⟩ := ih (h.after hl q) (hl.after e) hes
    exact ⟨hstanding, hgeneration.trans (q.kept.generation h.ne_disconnected),
      hsubscribed.trans q.kept.subscribed⟩

/-- If the broker answers first, a session that hears of a subscription is not being tried. -/
theorem standing_of_report {before rest : List Event} {packetId : Nat}
    {codes : List SubscribeCode} (hl : l.Reachable)
    (hanswers : l.AnswersFirst (before ++ .verdict packetId codes :: rest))
    (hs : (l.run before).session.isSome) : Standing (l.run before) := by
  obtain ⟨-, hreport, -⟩ := along_append.mp hanswers
  obtain ⟨-, hp⟩ := (hl.run before).ledger_phase
  refine hp.standing hs fun ha => ?_
  obtain ⟨code, present, heq⟩ := hreport _ rfl ha
  cases heq

/-- The answer to a subscription was handled after the events `before`, and nothing was taken back
by the events `rest`. -/
theorem standing_of_answer {before rest : List Event} {packetId : Nat} {codes : List SubscribeCode}
    (hl : l.Reachable)
    (hanswers : l.AnswersFirst (before ++ .verdict packetId codes :: rest))
    (hs : (l.run before).session.isSome)
    (hrest : Along Quiet ((l.run before).after (.verdict packetId codes)) rest) :
    let m := l.run (before ++ .verdict packetId codes :: rest)
    Standing m ∧ m.generation = (l.run before).generation ∧
      m.subscribed = SubAck.anyGranted (codes.map SubscribeCode.byte) := by
  have hanswered := answered hs packetId codes
  have hstanding := (standing_of_report hl hanswers hs).of_eq hanswered.state
  obtain ⟨hm, hgeneration, hsubscribed⟩ := hstanding.run ((hl.run before).after _) hrest
  rw [run_append, run_cons]
  exact ⟨hm, hgeneration.trans hanswered.generation, hsubscribed.trans hanswered.subscribed⟩

/-- A link counts as subscribed exactly if the session that it has now handled an answer to a
subscription, the last of these granted a filter, and since then no call to unsubscribe left it
without one, the session was not lost and the closing call did not end. So it does not while it is
disconnected or tries to connect, and once it does not, only another answer that grants a filter
changes that. -/
theorem subscribed_iff (options : BrokerOptions) (backoff : Backoff) (es : List Event)
    (hanswers : (create options backoff).AnswersFirst es) :
    let start := create options backoff
    let l := start.run es
    (l.subscribed = true ↔ ∃ before packetId codes rest,
      es = before ++ .verdict packetId codes :: rest ∧
      (∃ s ∈ (start.run before).session, s.generation = l.generation) ∧
      (∃ granted, .success granted ∈ codes) ∧
      Along Quiet ((start.run before).after (.verdict packetId codes)) rest) ∧
    (l.state.isAttempting ∨ l.state = .disconnected → l.subscribed = false) ∧
    (l.subscribed = false → ∀ fs, (∀ packetId codes granted, .success granted ∈ codes →
      .verdict packetId codes ∉ fs) → (l.run fs).subscribed = false) := by
  intro start l
  have hstart : start.Reachable := .create options backoff
  refine ⟨⟨?_, ?_⟩, ?_, ?_⟩
  · intro h
    obtain ⟨-, hnone⟩ | ⟨before, packetId, codes, rest, rfl, hs, hg, hrest⟩ :=
      subscribed_run_cases h
    · exact absurd hnone Bool.false_ne_true
    · obtain ⟨-, hgeneration, -⟩ := standing_of_answer hstart hanswers hs hrest
      obtain ⟨s, hs⟩ := Option.isSome_iff_exists.mp hs
      obtain ⟨hledger, -⟩ := (hstart.run before).ledger_phase
      have hcurrent := (hledger.current s hs).trans hgeneration.symm
      exact ⟨before, packetId, codes, rest, rfl, ⟨s, hs, hcurrent⟩, hg, hrest⟩
  · rintro ⟨before, packetId, codes, rest, rfl, ⟨s, hs, -⟩, hg, hrest⟩
    have hsome : (start.run before).session.isSome := Option.isSome_iff_exists.mpr ⟨s, hs⟩
    obtain ⟨-, -, hsubscribed⟩ := standing_of_answer hstart hanswers hsome hrest
    exact hsubscribed.trans ((SubAck.anyGranted_iff codes).mpr hg)
  · intro hstate
    by_contra h
    rw [Bool.not_eq_false] at h
    obtain ⟨-, hnone⟩ | ⟨before, packetId, codes, rest, rfl, hs, -, hrest⟩ :=
      subscribed_run_cases h
    · exact absurd hnone Bool.false_ne_true
    · obtain ⟨hstanding, -, -⟩ := standing_of_answer hstart hanswers hs hrest
      obtain ha | hd := hstate
      · exact hstanding.not_isAttempting ha
      · exact hstanding.ne_disconnected hd
  · intro hl fs hfs
    by_contra h
    rw [Bool.not_eq_false] at h
    obtain ⟨-, hold⟩ | ⟨before, packetId, codes, rest, rfl, -, ⟨granted, hg⟩, -⟩ :=
      subscribed_run_cases h
    · exact absurd (hl.symm.trans hold) Bool.false_ne_true
    · exact hfs packetId codes granted hg (by simp)

/-- A filter was granted and another one was given up since. -/
theorem subscribed_iff_of_grant :
    let start := create ⟨"tracker", "broker", 1883, 60, true, .plain⟩ {}
    (start.run [.connect, .report (.ok (.connAck .success false)), .subscribe "a", .subscribe "b",
      .report (.ok (.subAck 1 [1, 128])), .unsubscribe "b"]).subscribed = true := by
  intro start
  refine (subscribed_iff ⟨"tracker", "broker", 1883, 60, true, .plain⟩ {} _ ?_).1.mpr
    ⟨[.connect, .report (.ok (.connAck .success false)), .subscribe "a", .subscribe "b"], 1,
      [.success .atLeastOnce, .failure], [.unsubscribe "b"], rfl, ⟨_, rfl, rfl⟩,
      ⟨.atLeastOnce, .head _⟩, ?_, trivial⟩
  · exact ⟨nofun, fun _ h _ => by cases h; exact ⟨_, _, rfl⟩, nofun, nofun,
      fun _ _ h => absurd h (by decide), nofun, trivial⟩
  · exact ⟨fun _ => nofun, fun _ h => by cases h; decide, by decide, nofun⟩

end Link
end SceneRelay
