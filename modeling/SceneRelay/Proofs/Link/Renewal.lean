import SceneRelay.Proofs.Link.Core
import SceneRelay.Proofs.Link.Filters

/-! What becomes of the filters when a connection is taken up again. They are asked for in a row,
and nothing is sent meanwhile: what the channel has no room for is turned down. -/
namespace SceneRelay.Link

/-- What is on record of a filter that is asked for again. -/
def renewal (granted : Bool) (filter : String) : List Action :=
  .asked (.subscribe filter) granted :: if granted then [] else
    [.logged ⟨.error, "Failed to re-subscribe", [("topic", .text filter), ("error", requestError)]⟩]

variable {l : Link} {c : Client}

/-- A session begins with an empty channel. -/
theorem startSession?_client {m : Link} {e : ConnectionEvent} (hm : l.startSession? e = some m) :
    m.client = some {} := by
  obtain ⟨-, rfl⟩ := startSession?_eq_some hm
  rfl

/-- A filter is granted as long as there is room. -/
theorem resubscribe_eq (hs : l.session.isSome) (hc : l.client = some c)
    (ht : c.takes = Client.usual) {granted : Bool}
    (hg : granted = true ↔ c.queue.length < Client.capacity) (filter : String) :
    l.resubscribe filter = { l with
      client := some { c with
        queue := if granted then c.queue ++ [.subscribe filter] else c.queue
        asked := c.asked + 1 }
      trace := l.trace ++ renewal granted filter } := by
  have ha : l.granted c (.subscribe filter) = granted := by
    rw [Bool.eq_iff_iff, hg]
    simp [Link.granted, Client.accepts, hs, ht, Client.usual, Request.isSendable]
  unfold resubscribe ask
  rw [hc]
  dsimp only
  rw [ha]
  cases granted <;> simp [act, log, renewal]

/-- The filters are granted in their order until the channel is full. -/
theorem foldl_resubscribe (hs : l.session.isSome) (hc : l.client = some c)
    (ht : c.takes = Client.usual) {room : Nat} (hroom : room = Client.capacity - c.queue.length)
    (topics : List String) :
    (∃ d, (topics.foldl (fun l t => l.resubscribe t) l).client = some d ∧
      d.queue = c.queue ++ (topics.take room).map .subscribe) ∧
    (topics.foldl (fun l t => l.resubscribe t) l).trace = l.trace ++
      (topics.take room).flatMap (renewal true) ++ (topics.drop room).flatMap (renewal false) := by
  induction topics generalizing l c room with
  | nil => exact ⟨⟨c, hc, by simp⟩, by simp⟩
  | cons t topics ih =>
    rw [List.foldl_cons]
    cases room with
    | zero =>
      have hfull : false = true ↔ c.queue.length < Client.capacity := by
        simp only [Bool.false_eq_true, false_iff]
        omega
      have hr := resubscribe_eq hs hc ht hfull t
      obtain ⟨⟨d, hd, hqueue⟩, htrace⟩ := ih (l := l.resubscribe t)
        (c := { c with asked := c.asked + 1 }) (by rw [hr]; exact hs) (by rw [hr]; rfl) ht hroom
      refine ⟨⟨d, hd, by simpa using hqueue⟩, ?_⟩
      rw [htrace, hr]
      simp
    | succ room =>
      have hfree : true = true ↔ c.queue.length < Client.capacity := by
        simp only [true_iff]
        omega
      have hr := resubscribe_eq hs hc ht hfree t
      have hnext : room = Client.capacity - (c.queue ++ [Request.subscribe t]).length := by
        rw [List.length_append, List.length_singleton]
        omega
      obtain ⟨⟨d, hd, hqueue⟩, htrace⟩ := ih (l := l.resubscribe t)
        (c := { c with queue := c.queue ++ [.subscribe t], asked := c.asked + 1 })
        (by rw [hr]; exact hs) (by rw [hr]; rfl) ht hnext
      refine ⟨⟨d, hd, by simpa using hqueue⟩, ?_⟩
      rw [htrace, hr]
      simp

/-- The answer to an acceptance is to ask for the filters, whatever it says of an old session. -/
theorem exists_report_eq (hs : l.session.isSome) (hd : l.state ≠ .shuttingDown) {packet : Packet}
    {present : Bool} (hr : packet.route = .acknowledged present) :
    let m := (l.transition .acknowledged).countSuccess.resubscribeAll
    (l.report (.ok packet)).client = m.client ∧ (l.report (.ok packet)).trace = m.trace := by
  have hn : ¬l.session.isNone := by
    rw [Option.isNone_eq_false_iff.mpr hs]
    exact Bool.false_ne_true
  have hstate : (l.transition .acknowledged).state = .connected :=
    ConnectionState.next_of_ne .acknowledged hd
  simp [report, hn, hr, handleRoute, acknowledge, hstate, rearm]

/-- In an ascending list, what comes first holds all of it only if nothing is left. -/
theorem forall_mem_take_iff {topics : List String} (h : topics.Pairwise (· < ·)) (n : Nat) :
    (∀ t ∈ topics, t ∈ topics.take n) ↔ topics.length ≤ n := by
  constructor
  · intro hall
    rw [← List.drop_eq_nil_iff]
    apply List.eq_nil_iff_forall_not_mem.mpr
    intro t ht
    have hpair : (topics.take n ++ topics.drop n).Pairwise (· < ·) := by
      rw [List.take_append_drop]
      exact h
    have hlt := (List.pairwise_append.mp hpair).2.2 t (hall t (List.mem_of_mem_drop ht)) t ht
    exact absurd hlt (lt_irrefl t)
  · intro hle t ht
    rw [List.take_of_length_le hle]
    exact ht

/-- When the broker takes up a connection whose channel is empty, the first filters of the set are
asked for and wait in the channel, as many as it has room for. The others are turned down, and no
more than a line in the log is left of them. So every filter is asked for if and only if the channel
has room for all. -/
theorem renews_as_far_as_room (h : l.Reachable) (hs : l.session.isSome)
    (hd : l.state ≠ .shuttingDown) (hc : l.client = some c) (ht : c.takes = Client.usual)
    (hq : c.queue = []) {packet : Packet} {present : Bool}
    (hr : packet.route = .acknowledged present) :
    let m := l.report (.ok packet)
    let filters := l.filters.topics
    (∃ d, m.client = some d ∧ d.queue = (filters.take Client.capacity).map .subscribe ∧
      ((∀ filter ∈ filters, .subscribe filter ∈ d.queue) ↔ filters.length ≤ Client.capacity)) ∧
    m.trace = (l.transition .acknowledged).trace ++
      (filters.take Client.capacity).flatMap (renewal true) ++
        (filters.drop Client.capacity).flatMap (renewal false) := by
  intro m filters
  obtain ⟨hclient, htrace⟩ := exists_report_eq hs hd hr
  have hroom : Client.capacity = Client.capacity - c.queue.length := by
    rw [hq]
    rfl
  obtain ⟨⟨d, hdc, hqueue⟩, hrecord⟩ :=
    foldl_resubscribe (l := (l.transition .acknowledged).countSuccess) hs hc ht hroom filters
  rw [hq, List.nil_append] at hqueue
  refine ⟨⟨d, hclient.trans hdc, hqueue, ?_⟩, htrace.trans hrecord⟩
  rw [← forall_mem_take_iff h.sorted, hqueue]
  simp only [List.mem_map, Request.subscribe.injEq, exists_eq_right]
  rfl

/-- One filter more than the channel has room for. -/
theorem renews_as_far_as_room_of_crowd :
    let start := create ⟨"tracker", "broker", 1883, 60, true, .plain⟩ {}
    let l := (start.run ((List.range 101).map fun n => .subscribe (toString (200 - n)))).connect
    ∃ d, (l.report (.ok (.connAck .success false))).client = some d ∧
      ∃ filter ∈ l.filters.topics, .subscribe filter ∉ d.queue := by
  intro start l
  have hl : l.Reachable := ((Reachable.create _ {}).run _).after .connect
  have hs : l.session.isSome := by decide +kernel
  have hd : l.state ≠ .shuttingDown := by decide +kernel
  have hmany : ¬l.filters.topics.length ≤ Client.capacity := by decide +kernel
  have hc : l.client = some {} := by
    obtain hm | hm := connect_cases
      (start.run ((List.range 101).map fun n => .subscribe (toString (200 - n))))
    · exact absurd (congrArg (·.state) hm) (by decide +kernel)
    · exact startSession?_client hm
  have hr : (Packet.connAck .success false).route = .acknowledged false := rfl
  obtain ⟨⟨d, hclient, -, hall⟩, -⟩ := renews_as_far_as_room hl hs hd hc rfl rfl hr
  exact ⟨d, hclient, by simpa using mt hall.mp hmany⟩

end SceneRelay.Link
