import SceneRelay.Proofs.Link.Subscribed

/-! When a link that reports that it is ready has a filter at all. An answer that comes when the
last filter was already given up makes it ready for nothing. -/
namespace SceneRelay.Link

/-- An answer that grants a filter to an open connection meets one that is still wanted. -/
def MeetsFilter (l : Link) (e : Event) : Prop :=
  ∀ packetId codes, e = .verdict packetId codes → l.session.isSome →
    l.state = .connected → (∃ granted, .success granted ∈ codes) → l.filters.topics ≠ []

variable {l m : Link} {e : Event}

/-- Only a call to unsubscribe takes a filter away. -/
theorem filters_after_ne_nil (h : l.filters.topics ≠ [])
    (he : ∀ filter, e = .unsubscribe filter → (l.filters.erase filter).1.isEmpty = false) :
    (l.after e).filters.topics ≠ [] := by
  have hs := congrArg (·.filters.topics) (setting_after l e)
  cases e with
  | subscribe filter =>
    have hmem : filter ∈ (l.after (.subscribe filter)).filters.topics :=
      hs ▸ Subscriptions.mem_insert.mpr (.inl rfl)
    exact List.ne_nil_of_mem hmem
  | unsubscribe filter =>
    have hf := he filter rfl
    rw [Subscriptions.isEmpty, List.isEmpty_eq_false_iff] at hf
    exact hs ▸ hf
  | _ => exact hs ▸ h

theorem filters_run_ne_nil (h : l.filters.topics ≠ []) {es : List Event} (q : Along Quiet l es) :
    (l.run es).filters.topics ≠ [] := by
  induction es generalizing l with
  | nil => exact h
  | cons e es ih => exact ih (filters_after_ne_nil h q.1.filters) q.2

/-- A link that is connected now was not shutting down before. -/
theorem Standing.state_of_connected (h : Standing l) (hl : l.Reachable) {es : List Event}
    (hc : (l.run es).state = .connected) : l.state = .connected := by
  obtain ⟨-, hp⟩ := hl.ledger_phase
  obtain ⟨-, hpr⟩ := (hl.run es).ledger_phase
  have hs : l.stopping = false := by
    by_contra hs
    have hstop := stopping_run_of_stopping (Bool.not_eq_false _ ▸ hs) es
    cases hpr <;> simp_all [IsUp]
  exact h.resolve_right (hp.ne_shuttingDown hs)

/-- If the broker answers first, a link never reports that it is ready without a filter exactly as
long as every answer that grants one to an open connection finds one that is still wanted. -/
theorem ready_iff_answers_meet (options : BrokerOptions) (backoff : Backoff) (es : List Event)
    (hanswers : (create options backoff).AnswersFirst es) :
    let start := create options backoff
    (∀ fs, fs <+: es → (start.run fs).isReady = true → (start.run fs).filters.topics ≠ []) ↔
      Along MeetsFilter start es := by
  intro start
  have hstart : start.Reachable := .create options backoff
  rw [along_iff]
  constructor
  · rintro hready before e rest rfl packetId codes rfl hs hc hg hnone
    have hanswered := answered hs packetId codes
    have hgranted := hanswered.subscribed.trans ((SubAck.anyGranted_iff codes).mpr hg)
    have hfilters := congrArg (·.filters.topics)
      (setting_report (start.run before) (.ok (.subscribeAck packetId codes)))
    refine hready (before ++ [.verdict packetId codes]) ⟨rest, by simp⟩ ?_ ?_
    · rw [run_append]
      simp [isReady, isConnected, hanswered.state, hc, hgranted]
    · rw [run_append]
      exact hfilters.trans hnone
  · rintro hmeets fs ⟨gs, rfl⟩ hready
    simp only [isReady, isConnected, Bool.and_eq_true, decide_eq_true_eq] at hready
    obtain ⟨hconnected, hsubscribed⟩ := hready
    obtain ⟨-, hnone⟩ | ⟨before, packetId, codes, rest, rfl, hs, hg, hrest⟩ :=
      subscribed_run_cases hsubscribed
    · exact absurd hnone Bool.false_ne_true
    · obtain ⟨hfirst, -⟩ := along_append.mp hanswers
      rw [run_append] at hconnected ⊢
      have hc : (start.run before).state = .connected :=
        (standing_of_report hstart hfirst hs).state_of_connected (hstart.run before) hconnected
      have hmet : (start.run before).filters.topics ≠ [] :=
        hmeets before _ (rest ++ gs) (by simp) packetId codes rfl hs hc hg
      have hafter := filters_after_ne_nil (e := .verdict packetId codes) hmet nofun
      exact filters_run_ne_nil hafter hrest

/-- The answer to a filter that was given up in the meantime. -/
theorem ready_iff_answers_meet_of_late_answer :
    let start := create ⟨"tracker", "broker", 1883, 60, true, .plain⟩ {}
    let es : List Event := [.connect, .report (.ok (.connAck .success false)), .subscribe "a",
      .unsubscribe "a", .report (.ok (.subAck 1 [1]))]
    ¬∀ fs, fs <+: es → (start.run fs).isReady = true → (start.run fs).filters.topics ≠ [] := by
  intro start es hready
  have hanswers : start.AnswersFirst es :=
    ⟨nofun, fun _ h _ => by cases h; exact ⟨_, _, rfl⟩, nofun, nofun,
      fun _ _ h => absurd h (by decide), trivial⟩
  obtain ⟨-, -, -, -, hmeets, -⟩ := (ready_iff_answers_meet _ {} es hanswers).mp hready
  exact hmeets 1 [.success .atLeastOnce] rfl rfl rfl ⟨_, .head _⟩ rfl

end SceneRelay.Link
