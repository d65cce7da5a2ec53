import SceneRelay.Proofs.Link.Run

/-! Everything that a report and the steps of the tasks can be. -/
namespace SceneRelay.Link
variable {l m : Link}

theorem startSession?_eq_some {e : ConnectionEvent} (hm : l.startSession? e = some m) :
    l.state = .disconnected ∧ m = (l.transition e).endSession.openSession := by
  unfold startSession? at hm
  split at hm
  · rename_i hs
    exact ⟨hs.1, (Option.some.inj hm).symm⟩
  · contradiction

/-- A call to connect starts a session or does nothing. -/
theorem connect_cases (l : Link) :
    l.connect = l ∨ l.startSession? .connectStarted = some l.connect := by
  unfold connect
  split
  · exact .inl rfl
  · cases hm : l.startSession? .connectStarted with
    | none => exact .inl rfl
    | some m => exact .inr rfl

/-- A report leads from `l` to `m`. -/
inductive Reported (l : Link) (r : Report) (m : Link) : Prop
  | unheard (session : l.session = none) (h : m = l)
  | readsOn {packet : Packet} (session : l.session.isSome) (report : r = .ok packet)
      (h : m = (l.handleRoute packet.route).1.rearm)
  | leaves {packet : Packet} (session : l.session.isSome) (report : r = .ok packet)
      (h : m = (l.handleRoute packet.route).1.endSession)
  | closes {text : String} (stopping : l.stopping = true) (session : l.session.isSome)
      (report : r = .error text) (h : m = l.endSession)
  | fails {text : String} (up : l.stopping = false) (session : l.session.isSome)
      (report : r = .error text) (h : m = (l.lose (.networkError text)).endSession)

theorem reported (l : Link) (r : Report) : l.Reported r (l.report r) := by
  unfold report
  split
  · rename_i hs
    exact .unheard (Option.isNone_iff_eq_none.mp hs) rfl
  · rename_i hs
    have session : l.session.isSome := Option.isNone_eq_false_iff.mp (Bool.eq_false_iff.mpr hs)
    cases r with
    | ok packet =>
      dsimp only
      split <;> rename_i heq
      · exact .readsOn session rfl (by rw [heq])
      · exact .leaves session rfl (by rw [heq])
    | error text =>
      dsimp only
      split
      · exact .closes ‹_› session rfl rfl
      · exact .fails (Bool.eq_false_iff.mpr ‹_›) session rfl rfl

/-- The only step of a session is to give its attempt up. -/
theorem eq_giveUpAttempt {s : Session} (hm : l.stepSession? s = some m) : m = l.giveUpAttempt := by
  unfold stepSession? at hm
  split at hm
  · exact (Option.some.inj hm).symm
  · contradiction

/-- A step of the worker leads from `l` to `m`. -/
inductive WorkerMove (l : Link) (w : Worker) (m : Link) : Prop
  | ends (done : l.stopping = true ∨ l.state = .connected ∨ l.state = .shuttingDown ∨
      l.announced = .connected) (h : m = l.endWorker)
  | told (stopping : l.stopping = true)
      (h : m = (l.log .info "Shutdown signal received during reconnection delay, stopping"
        []).endWorker)
  | looksOn (up : l.stopping = false) (phase : w.phase = .deciding) (state : l.state.isAttempting)
      (h : m = l.setWorker w.attempts .resolving)
  | looksAgain (up : l.stopping = false) (phase : w.phase = .resolving)
      (announced : ¬l.announced.isAttempting) (h : m = l.setWorker w.attempts .deciding)
  | backsOff (up : l.stopping = false) (phase : w.phase = .deciding)
      (state : ¬(l.state = .connected ∨ l.state = .shuttingDown)) (h : m = l.backOff w.attempts)
  | retries {deadline : Nanoseconds} (up : l.stopping = false) (phase : w.phase = .waiting deadline)
      (due : deadline ≤ l.now) (h : m = l.retry w.attempts)

theorem workerMove {w : Worker} (hm : l.stepWorker? w = some m) : l.WorkerMove w m := by
  unfold stepWorker? at hm
  by_cases hs : l.stopping = true
  · split at hm
    · cases hm
      exact .ends (.inl hs) (if_pos hs)
    · rw [if_pos hs] at hm
      exact .told hs (Option.some.inj hm).symm
    · rw [if_pos hs] at hm
      exact .ends (.inl hs) (Option.some.inj hm).symm
  · have up : l.stopping = false := Bool.eq_false_iff.mpr hs
    split at hm
    · rename_i phase
      cases hm
      unfold decide
      rw [if_neg hs]
      split
      · rename_i hd
        exact .ends (.inr (hd.elim .inl fun hd => .inr (.inl hd))) rfl
      · rename_i hd
        split
        · exact .looksOn up phase ‹_› rfl
        · exact .backsOff up phase hd rfl
    · rename_i deadline phase
      rw [if_neg hs] at hm
      split at hm
      · exact .ends (.inr (.inr (.inr ‹_›))) (Option.some.inj hm).symm
      · split at hm
        · exact .retries up phase ‹_› (Option.some.inj hm).symm
        · contradiction
    · rename_i phase
      rw [if_neg hs] at hm
      split at hm
      · rename_i ha
        exact .looksAgain up phase (by simpa using ha) (Option.some.inj hm).symm
      · contradiction

/-- Only a worker that has waited out its delay is woken. -/
theorem wake_cases (l : Link) :
    l.wake = l ∨ ∃ k d, l.worker = some ⟨k, .waiting d⟩ ∧ l.wake = l.retry k := by
  unfold wake
  split
  · rename_i k d worker
    split
    · exact .inr ⟨k, d, worker, rfl⟩
    · exact .inl rfl
  · exact .inl rfl

theorem ask_of_none (hc : l.client = none) (r : Request) : l.ask r = (l, none) := by rw [ask, hc]

theorem ask_of_some {c : Client} (hc : l.client = some c) (r : Request) :
    l.ask r = ((l.ask r).1, some (l.granted c r)) := by rw [ask, hc]

/-- Once the worker is gone the closing call leads from `l` to `m`. -/
inductive Drained (l : Link) (wasOpen : Bool) (patience : Nanoseconds) (m : Link) : Prop
  | cutsOff (unheard : wasOpen = false ∨ l.client = none) (h : m = l.cutOff)
  | awaits (wasOpen : wasOpen = true) (client : l.client.isSome)
      (h : m = (l.ask .disconnect).1.awaitSession patience)
  | warns (wasOpen : wasOpen = true) (client : l.client.isSome)
      (h : m = ((l.ask .disconnect).1.log .warn "Failed to enqueue MQTT DISCONNECT"
        [("error", requestError)]).awaitSession patience)

theorem drained (l : Link) (wasOpen : Bool) (patience : Nanoseconds) :
    l.Drained wasOpen patience (l.drain wasOpen patience) := by
  unfold drain
  cases wasOpen with
  | false => exact .cutsOff (.inl rfl) rfl
  | true =>
    cases hc : l.client with
    | none =>
      exact .cutsOff (.inr hc) (by simp only [ask_of_none hc, if_true])
    | some c =>
      have client : l.client.isSome := by rw [hc, Option.isSome_some]
      have ha := ask_of_some hc .disconnect
      cases hg : l.granted c .disconnect <;> rw [hg] at ha
      · exact .warns rfl client (by rw [if_pos rfl, ha])
      · exact .awaits rfl client (by rw [if_pos rfl, ha])

/-- A step of the closing call leads from `l` to `m`. -/
inductive ClosingMove (l : Link) (c : Closing) (m : Link) : Prop
  | drains {wasOpen : Bool} {patience : Nanoseconds} (call : c = .joining wasOpen patience)
      (worker : l.worker = none) (h : m = l.drain wasOpen patience)
  | finishes {patience deadline : Nanoseconds} (call : c = .draining patience deadline)
      (session : l.session = none) (h : m = l.finishClosing)
  | expires {patience deadline : Nanoseconds} (call : c = .draining patience deadline)
      (due : deadline ≤ l.now)
      (h : m = (l.log .warn "MQTT session did not drain in time, aborting"
        [("timeout_ms", .number (patience / millisecond))]).endSession.finishClosing)

theorem closingMove {c : Closing} (hm : l.stepClosing? c = some m) : l.ClosingMove c m := by
  unfold stepClosing? at hm
  split at hm
  · split at hm
    · rename_i hw
      exact .drains rfl (Option.isNone_iff_eq_none.mp hw) (Option.some.inj hm).symm
    · contradiction
  · split at hm
    · rename_i hs
      exact .finishes rfl (Option.isNone_iff_eq_none.mp hs) (Option.some.inj hm).symm
    · split at hm
      · exact .expires rfl ‹_› (Option.some.inj hm).symm
      · contradiction

end SceneRelay.Link
