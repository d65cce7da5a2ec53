import SceneRelay.Proofs.Link.Episodes
import SceneRelay.Proofs.Link.Shifts
import SceneRelay.Proofs.Link.Shutdown

/-! The attempts to connect again. The worker waits before each of them, longer each time. What it
counts, in a word, are its own attempts: they are those since the connection was lost unless the
worker is from before, because it never got to see the connection. -/
namespace SceneRelay

def Worker.isWaiting (w : Worker) : Bool :=
  match w.phase with
  | .waiting _ => true
  | _ => false

namespace Link

/-- What can be seen of a run as far as its attempts are concerned. An episode without a connection
ends when the link is connected, and the next one begins when it no longer is. -/
structure Chronicle where
  /-- How many attempts to connect again there were in this episode. -/
  made : Nat := 0
  /-- The worker that was still there when the connection was lost. -/
  survivor : Option Worker := none
  /-- When the connection was last lost or an attempt last failed. -/
  lostAt : Nanoseconds := 0
  /-- When the worker last began to wait. -/
  waitsSince : Nanoseconds := 0
  /-- When the last attempt began. -/
  triedAt : Nanoseconds := 0

namespace Chronicle

/-- Takes down what can be seen when one event leads from `l` to `m`. -/
def note (c : Chronicle) (l m : Link) : Chronicle where
  made :=
    if m.state = .connected then 0
    else if m.state = .reconnecting ∧ l.state ≠ .reconnecting then c.made + 1
    else c.made
  survivor := if l.state = .connected ∧ m.state ≠ .connected then l.worker else c.survivor
  lostAt := if m.state = .disconnected ∧ l.state ≠ .disconnected then m.now else c.lostAt
  waitsSince :=
    if m.worker.any Worker.isWaiting ∧ ¬l.worker.any Worker.isWaiting then m.now else c.waitsSince
  triedAt := if m.state.isAttempting ∧ ¬l.state.isAttempting then m.now else c.triedAt

/-- How many attempts the worker had made before the episode began. -/
def carried (c : Chronicle) : Nat := c.survivor.elim 0 (·.attempts.toNat)

end Chronicle

/-- What can be seen of a run from `l`. -/
def chronicle (l : Link) (c : Chronicle) : List Event → Chronicle
  | [] => c
  | e :: es => chronicle (l.after e) (c.note l (l.after e)) es

variable {l m : Link} {c : Chronicle} {e : Event}

/-- A worker that does not wait, if there is one, is not replaced by one that does. -/
theorem getD_ne_waiting (idle : ∀ w ∈ l.worker, ∀ d, w.phase ≠ .waiting d) (d : Nanoseconds) :
    (l.worker.getD {}).phase ≠ .waiting d := by
  cases hw : l.worker with
  | none => exact nofun
  | some w => exact idle w hw d

/-! ### What the worker counts, and how long it waits -/

/-- A count as a word keeps it that does not run over. -/
def inWord (n : Nat) : Nat := min n (UInt32.size - 1)

theorem inWord_pos {n : Nat} (h : 0 < n) : 0 < inWord n := Nat.lt_min.mpr ⟨h, by decide⟩

theorem inWord_toNat (n : UInt32) : inWord n.toNat = n.toNat :=
  Nat.min_eq_left (Nat.le_sub_one_of_lt n.toNat_lt_size)

theorem toNat_nextAttempt (n : UInt32) : (nextAttempt n).toNat = inWord (n.toNat + 1) := by
  unfold inWord nextAttempt
  by_cases h : n.toNat + 1 < UInt32.size
  · rw [UInt32.toNat_ofNatClamp_of_lt h]
    omega
  · rw [UInt32.toNat_ofNatClamp_of_le (Nat.le_of_not_lt h)]
    omega

example : nextAttempt 4294967295 = 4294967295 := by decide

theorem inWord_succ (n : Nat) : inWord (inWord n + 1) = inWord (n + 1) := by
  unfold inWord
  omega

/-- The worker counts the attempts of the episode on top of those that it had made before, and its
delay began after the last loss. -/
structure Counts (c : Chronicle) (l : Link) : Prop where
  lost : c.lostAt ≤ l.now
  /-- A worker that outlives its episode has made the attempt that was accepted. -/
  survivor : ∀ w ∈ c.survivor, 0 < w.attempts.toNat
  /-- Before the first loss there is no worker, and afterwards one until the link is connected. -/
  first : l.worker = none → l.state ≠ .connected → c.made = 0 ∧ c.survivor = none
  connected : l.state = .connected → c.made = 0 ∧ ∀ w ∈ l.worker, 0 < w.attempts.toNat
  retrying : l.state = .reconnecting → 0 < c.made
  down : l.state ≠ .connected → ∀ w ∈ l.worker, w.attempts.toNat = inWord (c.made + c.carried)
  waits : ∀ k d, l.worker = some ⟨k, .waiting d⟩ →
    d = c.waitsSince + l.backoff.delay k.toNat ∧ c.lostAt ≤ c.waitsSince

theorem counts_create (options : BrokerOptions) (backoff : Backoff) :
    Counts {} (create options backoff) where
  lost := Nat.le_refl _
  survivor := nofun
  first := fun _ _ => ⟨rfl, rfl⟩
  connected := nofun
  retrying := nofun
  down := fun _ => nofun
  waits := nofun

namespace Counts

/-- As long as the state stays as it is and the worker does not begin to wait there is nothing to
take down. -/
theorem note_eq_self (h : Counts c l) (hs : m.state = l.state)
    (hw : m.worker.any Worker.isWaiting → l.worker.any Worker.isWaiting) : c.note l m = c := by
  obtain ⟨made, survivor, lostAt, waitsSince, triedAt⟩ := c
  have hc : l.state = .connected → made = 0 := fun hs => (h.connected hs).1
  simp only [Chronicle.note, hs, Chronicle.mk.injEq]
  refine ⟨?_, if_neg fun hn => hn.2 hn.1, if_neg fun hn => hn.2 hn.1,
    if_neg fun hn => hn.2 (hw hn.1), if_neg fun hn => hn.2 hn.1⟩
  split
  · exact (hc ‹_›).symm
  · exact if_neg fun hn => hn.2 hn.1

theorem of_eq (h : Counts c l) (hn : l.now ≤ m.now) (hb : m.backoff = l.backoff)
    (hs : m.state = l.state) (hw : m.worker = l.worker) : Counts c m where
  lost := Nat.le_trans h.lost hn
  survivor := h.survivor
  first := by rw [hs, hw]; exact h.first
  connected := by rw [hs, hw]; exact h.connected
  retrying := by rw [hs]; exact h.retrying
  down := by rw [hs, hw]; exact h.down
  waits := by rw [hw, hb]; exact h.waits

/-- Without a connection everything hangs on the worker that there is. -/
theorem of_worker {w : Worker} (worker : m.worker = some w) (state : m.state ≠ .connected)
    (lost : c.lostAt ≤ m.now) (survivor : ∀ w ∈ c.survivor, 0 < w.attempts.toNat)
    (retrying : m.state = .reconnecting → 0 < c.made)
    (down : w.attempts.toNat = inWord (c.made + c.carried))
    (waits : ∀ d, w.phase = .waiting d →
      d = c.waitsSince + m.backoff.delay w.attempts.toNat ∧ c.lostAt ≤ c.waitsSince) :
    Counts c m where
  lost := lost
  survivor := survivor
  first := by simp [worker]
  connected := fun hs => absurd hs state
  retrying := retrying
  down := by
    rintro - w hw
    cases worker.symm.trans hw
    exact down
  waits := by
    intro k d hw
    cases worker.symm.trans hw
    exact waits d rfl

/-- With a connection the episode is over, and what the worker has counted is of no more use. -/
theorem of_connected (state : m.state = .connected) (lost : c.lostAt ≤ m.now)
    (survivor : ∀ w ∈ c.survivor, 0 < w.attempts.toNat) (made : c.made = 0)
    (worker : ∀ w ∈ m.worker, 0 < w.attempts.toNat)
    (waits : ∀ k d, m.worker = some ⟨k, .waiting d⟩ →
      d = c.waitsSince + m.backoff.delay k.toNat ∧ c.lostAt ≤ c.waitsSince) : Counts c m where
  lost := lost
  survivor := survivor
  first := fun _ hs => absurd state hs
  connected := fun _ => ⟨made, worker⟩
  retrying := by simp [state]
  down := fun hs => absurd state hs
  waits := waits

theorem note_of_accepted (h : Counts c l)
    (before : l.worker = none ∨ l.state = .reconnecting ∨ l.state = .connected)
    (state : m.state = .connected) (worker : m.worker = l.worker) (hn : m.now = l.now)
    (hb : m.backoff = l.backoff) : Counts (c.note l m) m := by
  have hnote : c.note l m = { c with made := 0 } := by
    simp [Chronicle.note, state, worker, ConnectionState.isAttempting]
  have hpos : ∀ w ∈ m.worker, 0 < w.attempts.toNat := by
    rw [worker]
    intro w hw
    obtain hb | hb | hb := before
    · simp [hb] at hw
    · have hd := h.down (by simp [hb]) w hw
      rw [hd]
      exact inWord_pos (Nat.add_pos_left (h.retrying hb) _)
    · exact (h.connected hb).2 w hw
  rw [hnote]
  exact of_connected state (hn ▸ h.lost) h.survivor rfl hpos (by rw [worker, hb]; exact h.waits)

/-- The worker at a loss is the survivor of the episode that ends or the worker of the one that goes
on, or it is new and nothing was made yet. -/
theorem attempts_of_lost (h : Counts c l) : (l.worker.getD {}).attempts.toNat =
    inWord (c.made + Chronicle.carried { c with
      survivor := if l.state = .connected then l.worker else c.survivor }) := by
  by_cases hs : l.state = .connected
  · rw [if_pos hs, (h.connected hs).1]
    cases l.worker with
    | none => rfl
    | some w => simp [Chronicle.carried, inWord_toNat]
  · rw [if_neg hs]
    cases hw : l.worker with
    | none =>
      obtain ⟨hm, hc⟩ := h.first hw hs
      simp [Chronicle.carried, hm, hc, inWord]
    | some w => exact h.down hs w hw

/-- A new episode begins if the link was connected; otherwise it goes on. -/
theorem note_of_lost (h : Counts c l) (before : l.state ≠ .disconnected)
    (idle : ∀ w ∈ l.worker, ∀ d, w.phase ≠ .waiting d) (state : m.state = .disconnected)
    (worker : m.worker = some (l.worker.getD {})) : Counts (c.note l m) m := by
  have hidle := getD_ne_waiting idle
  have hnote : c.note l m = { c with
      survivor := if l.state = .connected then l.worker else c.survivor, lostAt := m.now } := by
    have hw : (l.worker.getD {}).isWaiting = false := by
      unfold Worker.isWaiting
      split
      · exact absurd ‹_› (hidle _)
      · rfl
    simp [Chronicle.note, state, before, worker, hw, ConnectionState.isAttempting]
  have hsurvivor : ∀ w ∈ (if l.state = .connected then l.worker else c.survivor),
      0 < w.attempts.toNat := by
    split
    · exact (h.connected ‹_›).2
    · exact h.survivor
  rw [hnote]
  exact of_worker worker (by simp [state]) (Nat.le_refl _) hsurvivor (by simp [state])
    h.attempts_of_lost fun d hd => absurd hd (hidle d)

theorem note_of_waits (h : Counts c l) {k : UInt32} (before : l.state = .disconnected)
    (deciding : l.worker = some ⟨k, .deciding⟩) (state : m.state = .disconnected)
    (worker : m.worker = some ⟨k, .waiting (l.now + l.backoff.delay k.toNat)⟩) (hn : m.now = l.now)
    (hb : m.backoff = l.backoff) : Counts (c.note l m) m := by
  have hd : k.toNat = inWord (c.made + c.carried) := h.down (by simp [before]) _ deciding
  have hnote : c.note l m = { c with waitsSince := m.now } := by
    simp [Chronicle.note, before, state, deciding, worker, Worker.isWaiting,
      ConnectionState.isAttempting]
  rw [hnote]
  refine of_worker worker (by simp [state]) (hn ▸ h.lost) h.survivor (by simp [state]) hd ?_
  intro d hw
  cases hw
  exact ⟨by rw [hn, hb], hn ▸ h.lost⟩

theorem note_of_tries (h : Counts c l) {k : UInt32} {d : Nanoseconds}
    (before : l.state = .disconnected) (waiting : l.worker = some ⟨k, .waiting d⟩)
    (state : m.state = .reconnecting) (worker : m.worker = some ⟨nextAttempt k, .resolving⟩)
    (hn : m.now = l.now) : Counts (c.note l m) m := by
  have hd : k.toNat = inWord (c.made + c.carried) := h.down (by simp [before]) _ waiting
  have hnote : c.note l m = { c with made := c.made + 1, triedAt := m.now } := by
    simp [Chronicle.note, before, state, waiting, worker, Worker.isWaiting,
      ConnectionState.isAttempting]
  have hnext : (nextAttempt k).toNat = inWord (c.made + 1 + c.carried) := by
    rw [toNat_nextAttempt, hd, inWord_succ, Nat.add_right_comm]
  rw [hnote]
  exact of_worker worker (by simp [state]) (hn ▸ h.lost) h.survivor (fun _ => Nat.succ_pos _) hnext
    (by simp)

theorem note (h : Counts c l) (hm : Shift l e m) (hn : m.now = l.now)
    (hb : m.backoff = l.backoff) : Counts (c.note l m) m := by
  have hle : l.now ≤ m.now := Nat.le_of_eq hn.symm
  cases hm with
  | rests state worker _ =>
    rw [h.note_eq_self state (by simp [worker])]
    exact h.of_eq hle hb state worker
  | reads _ _ state worker =>
    rw [h.note_eq_self state (by simp [worker])]
    exact h.of_eq hle hb state worker
  | connects before state worker _ =>
    have hnote : c.note l m = { c with triedAt := m.now } := by
      simp [Chronicle.note, before, state, worker, ConnectionState.isAttempting]
    rw [hnote]
    exact
      { lost := hn ▸ h.lost
        survivor := h.survivor
        first := fun _ _ => h.first worker.1 (by simp [before])
        connected := by simp [state]
        retrying := by simp [state]
        down := by simp [worker.2]
        waits := by simp [worker.2] }
  | accepted before state worker => exact h.note_of_accepted before state worker hn hb
  | lost _ before idle state worker => exact h.note_of_lost before idle state worker
  | waits before deciding state worker => exact h.note_of_waits before deciding state worker hn hb
  | tries before waiting _ state worker _ _ => exact h.note_of_tries before waiting state worker hn
  | @looks k before resolving state worker =>
    rw [h.note_eq_self state (by simp [worker, Worker.isWaiting])]
    by_cases hs : l.state = .connected
    · obtain ⟨made, hpos⟩ := h.connected hs
      have hk := hpos _ resolving
      exact of_connected (state.trans hs) (hn ▸ h.lost) h.survivor made (by simpa [worker] using hk)
        (by simp [worker])
    · exact of_worker worker (state ▸ hs) (hn ▸ h.lost) h.survivor (state ▸ h.retrying)
        (h.down hs ⟨k, .resolving⟩ resolving) (by simp)
  | retires before state worker =>
    rw [h.note_eq_self (state.trans before.symm) (by simp [worker])]
    exact of_connected state (hn ▸ h.lost) h.survivor (h.connected before).1 (by simp [worker])
      (by simp [worker])

theorem after (h : Counts c l) (hl : l.Reachable) (hs : l.stopping = false)
    (he : ¬e.isDisconnect) : Counts (c.note l (l.after e)) (l.after e) := by
  obtain ⟨hledger, hp⟩ := hl.ledger_phase
  by_cases ha : ∃ t, e = .advance t
  · obtain ⟨t, rfl⟩ := ha
    have hnote : c.note l (l.after (.advance t)) = c := h.note_eq_self rfl id
    rw [hnote]
    exact h.of_eq (Nat.le_add_right l.now t) rfl rfl rfl
  · have hn := now_after l fun t ht => ha ⟨t, ht⟩
    exact h.note (shift hledger hp (hp.isUp hs) he) hn (backoff_after l e)

theorem run (h : Counts c l) (hl : l.Reachable) (hs : l.stopping = false) {es : List Event}
    (hes : ∀ e ∈ es, ¬e.isDisconnect) : Counts (l.chronicle c es) (l.run es) := by
  induction es generalizing l c with
  | nil => exact h
  | cons e es ih =>
    obtain ⟨he, hes⟩ := List.forall_mem_cons.mp hes
    exact ih (h.after hl hs he) (hl.after e) ((stopping_after l he).trans hs) hes

end Counts

/-! ### The clock -/

/-- The worker loses no time: it begins to wait at once when the link is disconnected, and stops in
time. -/
structure OnTime (c : Chronicle) (l : Link) : Prop where
  waiting : ∀ k d, l.worker = some ⟨k, .waiting d⟩ → c.waitsSince = c.lostAt ∧ l.now ≤ d
  ready : l.state = .disconnected → ∀ w ∈ l.worker, w.isWaiting = false → l.now = c.lostAt

theorem onTime_create (options : BrokerOptions) (backoff : Backoff) :
    OnTime {} (create options backoff) := ⟨nofun, fun _ => nofun⟩

namespace OnTime

theorem note (h : OnTime c l) (hc : Counts c l) (hm : Shift l e m) (hn : m.now = l.now) :
    OnTime (c.note l m) m := by
  cases hm with
  | rests state worker _ =>
    rw [hc.note_eq_self state (by simp [worker])]
    exact ⟨by rw [worker, hn]; exact h.waiting, by rw [state, worker, hn]; exact h.ready⟩
  | reads _ _ state worker =>
    rw [hc.note_eq_self state (by simp [worker])]
    exact ⟨by rw [worker, hn]; exact h.waiting, by rw [state, worker, hn]; exact h.ready⟩
  | connects before state worker _ => exact ⟨by simp [worker.2], by simp [state]⟩
  | accepted before state worker =>
    refine ⟨?_, by simp [state]⟩
    rw [worker, hn]
    simpa [Chronicle.note, state, worker] using h.waiting
  | lost _ before idle state worker =>
    constructor
    · intro k d hw
      have hi := getD_ne_waiting idle d
      rw [Option.some.inj (worker.symm.trans hw)] at hi
      exact absurd rfl hi
    · intro _ _ _ _
      simp [Chronicle.note, state, before]
  | @waits k before deciding state worker =>
    have hr : l.now = c.lostAt := h.ready before ⟨k, .deciding⟩ deciding rfl
    constructor
    · intro k d hw
      cases worker.symm.trans hw
      refine ⟨?_, by rw [hn]; exact Nat.le_add_right _ _⟩
      simp [Chronicle.note, before, deciding, worker, Worker.isWaiting, hn, hr]
    · intro _ w hw hi
      cases worker.symm.trans hw
      simp [Worker.isWaiting] at hi
  | tries before waiting _ state worker _ _ => exact ⟨by simp [worker], by simp [state]⟩
  | @looks k before resolving state worker =>
    rw [hc.note_eq_self state (by simp [worker, Worker.isWaiting])]
    refine ⟨by simp [worker], fun hs _ _ _ => ?_⟩
    rw [hn]
    exact h.ready (state ▸ hs) ⟨k, .resolving⟩ resolving rfl
  | retires before state worker => exact ⟨by simp [worker], by simp [state]⟩

/-- The clock stops when the worker is ready. -/
theorem advance (h : OnTime c l) (hl : l.Reachable) (hs : l.stopping = false) {t : Nanoseconds}
    (ht : ∀ u < t, (l.advance u).step? = none) : OnTime c (l.advance t) := by
  obtain ⟨hledger, hp⟩ := hl.ledger_phase
  have hrest : ∀ u < t, l.state = .disconnected → ∀ w ∈ l.worker,
      ∃ k d, w = ⟨k, .waiting d⟩ ∧ l.now + u < d := by
    intro u hu hd w hw
    obtain ⟨-, hworker, -⟩ := (step?_eq_none_iff _).mp (ht u hu)
    exact exists_waiting_of_rest (l := l.advance u) hs (hledger.mirror.trans hd) (hworker w hw)
  constructor
  · intro k d hw
    obtain ⟨heq, hle⟩ := h.waiting k d hw
    refine ⟨heq, ?_⟩
    by_contra hlate
    -- The clock would have passed the deadline, when the worker is ready to try again.
    obtain ⟨u, hu, hd⟩ := exists_lt_of_late hle (Nat.lt_of_not_le hlate)
    obtain ⟨k', d', heq', hlt⟩ := hrest u hu (hp.state_of_waiting hs hw) _ hw
    cases heq'
    exact absurd hd (Nat.ne_of_lt hlt)
  · intro hd w hw hi
    -- A worker that has nothing to wait for is ready now.
    have hz : t = 0 := by
      by_contra hne
      obtain ⟨k, d, rfl, -⟩ := hrest 0 (Nat.pos_of_ne_zero hne) hd w hw
      simp [Worker.isWaiting] at hi
    rw [hz]
    exact h.ready hd w hw hi

theorem after (h : OnTime c l) (hc : Counts c l) (hl : l.Reachable) (hs : l.stopping = false)
    (he : ¬e.isDisconnect)
    (hclock : ∀ t, e = .advance t → ∀ u < t, (l.advance u).step? = none) :
    OnTime (c.note l (l.after e)) (l.after e) := by
  obtain ⟨hledger, hp⟩ := hl.ledger_phase
  by_cases ha : ∃ t, e = .advance t
  · obtain ⟨t, rfl⟩ := ha
    have hnote : c.note l (l.after (.advance t)) = c := hc.note_eq_self rfl id
    rw [hnote]
    exact h.advance hl hs (hclock t rfl)
  · have hn := now_after l fun t ht => ha ⟨t, ht⟩
    exact h.note hc (shift hledger hp (hp.isUp hs) he) hn

theorem run (h : OnTime c l) (hc : Counts c l) (hl : l.Reachable) (hs : l.stopping = false)
    {es : List Event} (hes : ∀ e ∈ es, ¬e.isDisconnect) (hprompt : l.Prompt es) :
    OnTime (l.chronicle c es) (l.run es) := by
  induction es generalizing l c with
  | nil => exact h
  | cons e es ih =>
    obtain ⟨he, hes⟩ := List.forall_mem_cons.mp hes
    obtain ⟨hclock, hprompt⟩ := hprompt
    exact ih (h.after hc hl hs he hclock) (hc.after hl hs he) (hl.after e)
      ((stopping_after l he).trans hs) hes hprompt

end OnTime

/-- During an attempt the time of its session is measured from the beginning. -/
def Timed (c : Chronicle) (l : Link) : Prop :=
  l.state.isAttempting → ∃ g, l.session = some ⟨g, some (c.triedAt + connectTimeout)⟩

theorem timed_create (options : BrokerOptions) (backoff : Backoff) :
    Timed {} (create options backoff) := nofun

namespace Timed

theorem note (h : Timed c l) (hm : Shift l e m) (hn : m.now = l.now)
    (hr : ∀ packet, e = .report (.ok packet) → l.state.isAttempting →
      ∃ code present, packet = .connAck code present) : Timed (c.note l m) m := by
  intro ha
  cases hm with
  | rests state _ session =>
    rw [state] at ha
    simpa [Chronicle.note, state, session, ha] using h ha
  | reads event other state _ =>
    obtain ⟨code, present, rfl⟩ := hr _ event (state ▸ ha)
    exact absurd rfl (other code present)
  | connects before state _ session =>
    simpa [Chronicle.note, before, state, ConnectionState.isAttempting, hn] using session
  | tries before _ _ state _ session _ =>
    simpa [Chronicle.note, before, state, ConnectionState.isAttempting, hn] using session
  | looks before _ state _ => exact absurd (state ▸ ha) before
  | accepted _ state _ => simp [state, ConnectionState.isAttempting] at ha
  | lost _ _ _ state _ => simp [state, ConnectionState.isAttempting] at ha
  | waits _ _ state _ => simp [state, ConnectionState.isAttempting] at ha
  | retires _ state _ => simp [state, ConnectionState.isAttempting] at ha

theorem after (h : Timed c l) (hl : l.Reachable) (hs : l.stopping = false) (he : ¬e.isDisconnect)
    (hr : ∀ packet, e = .report (.ok packet) → l.state.isAttempting →
      ∃ code present, packet = .connAck code present) :
    Timed (c.note l (l.after e)) (l.after e) := by
  obtain ⟨hledger, hp⟩ := hl.ledger_phase
  by_cases ha : ∃ t, e = .advance t
  · obtain ⟨t, rfl⟩ := ha
    intro hm
    have hattempt : l.state.isAttempting := hm
    have htried : (c.note l (l.after (.advance t))).triedAt = c.triedAt :=
      if_neg fun hn => hn.2 hattempt
    obtain ⟨g, hg⟩ := h hattempt
    exact ⟨g, by rw [htried]; exact hg⟩
  · have hn := now_after l fun t ht => ha ⟨t, ht⟩
    exact h.note (shift hledger hp (hp.isUp hs) he) hn hr

theorem run (h : Timed c l) (hl : l.Reachable) (hs : l.stopping = false) {es : List Event}
    (hes : ∀ e ∈ es, ¬e.isDisconnect) (hanswers : l.AnswersFirst es) :
    Timed (l.chronicle c es) (l.run es) := by
  induction es generalizing l c with
  | nil => exact h
  | cons e es ih =>
    obtain ⟨he, hes⟩ := List.forall_mem_cons.mp hes
    obtain ⟨hr, hanswers⟩ := hanswers
    exact ih (h.after hl hs he hr) (hl.after e) ((stopping_after l he).trans hs) hes hanswers

end Timed

/-- When the time of an attempt is up the next step of the tasks is to give it up. -/
theorem step?_of_due {g : Nat} {d : Nanoseconds} (hs : l.session = some ⟨g, some d⟩)
    (hd : d ≤ l.now) : l.step? = some l.giveUpAttempt := by
  have hdue : l.stepSession? ⟨g, some d⟩ = some l.giveUpAttempt := by simpa [stepSession?] using hd
  rw [step?, hs, Option.bind_some, hdue, Option.some_or]

theorem Timed.step?_eq (h : Timed c l) (ha : l.state.isAttempting)
    (hd : c.triedAt + connectTimeout ≤ l.now) : l.step? = some l.giveUpAttempt := by
  obtain ⟨g, hs⟩ := h ha
  exact step?_of_due hs hd

theorem giveUpAttempt_state (hs : l.state ≠ .shuttingDown) :
    l.giveUpAttempt.state = .disconnected := by
  obtain ⟨trace, he⟩ := exists_endSession_eq (l.lose (.networkError "no ConnAck within 10s"))
  obtain ⟨worker, reconnecting, news, hr⟩ :=
    exists_reconnectIfLost_eq (l.noteLoss (.networkError "no ConnAck within 10s"))
  rw [giveUpAttempt, he, lose, hr]
  exact noteLoss_of_ne hs rfl

/-! ### The attempts of a run -/

/-- An attempt to connect again begins, on top of the `k` that its worker counts. -/
structure Retries (c : Chronicle) (l m : Link) (k : UInt32) : Prop where
  /-- They are those of the episode, and those that the worker made before. -/
  counted : k.toNat = inWord (c.made + c.carried)
  /-- The worker starts from zero if and only if there was none when the connection was lost; the
  difference is gone when the episode alone makes the count as large as it gets. -/
  restarts : k.toNat = inWord c.made ↔ c.survivor = none ∨ UInt32.size - 1 ≤ c.made
  waited : l.worker = some ⟨k, .waiting (c.waitsSince + l.backoff.delay k.toNat)⟩
  since : c.lostAt ≤ c.waitsSince
  due : c.waitsSince + l.backoff.delay k.toNat ≤ l.now
  announced : ∃ later, m.trace = l.trace ++ .moved .reconnecting ::
    .logged ⟨.info, "Starting MQTT reconnection attempt",
      [("attempt", .number (inWord (c.made + c.carried + 1)))]⟩ :: later

theorem Counts.restarts (h : Counts c l) :
    inWord (c.made + c.carried) = inWord c.made ↔
      c.survivor = none ∨ UInt32.size - 1 ≤ c.made := by
  have hpos := h.survivor
  cases hs : c.survivor with
  | none => simp [Chronicle.carried, hs]
  | some w =>
    have hw := hpos w hs
    simp only [Chronicle.carried, hs, Option.elim_some, reduceCtorEq, false_or, inWord]
    omega

/-- Only a worker that has waited long enough tries to connect again. -/
theorem Counts.exists_retries (h : Counts c l) (hm : Shift l e m) (before : l.state ≠ .reconnecting)
    (state : m.state = .reconnecting) : ∃ k, Retries c l m k := by
  cases hm with
  | @tries k d down waiting due _ _ _ announced =>
    obtain ⟨rfl, since⟩ := h.waits k d waiting
    have counted : k.toNat = inWord (c.made + c.carried) := h.down (by simp [down]) _ waiting
    have number : (nextAttempt k).toNat = inWord (c.made + c.carried + 1) := by
      rw [toNat_nextAttempt, counted, inWord_succ]
    exact ⟨k, counted, counted ▸ h.restarts, waiting, since, due, number ▸ announced⟩
  | _ => simp_all

/-- When the wait is over the next step of the tasks is the attempt. -/
theorem step?_of_waited (hl : l.Ledger) (hp : l.Phase) (hs : l.stopping = false) {k : UInt32}
    {d : Nanoseconds} (hw : l.worker = some ⟨k, .waiting d⟩) (due : d ≤ l.now) :
    l.step? = some (l.retry k) ∧ (l.retry k).state = .reconnecting := by
  have hd : l.state = .disconnected := hp.state_of_waiting hs hw
  have hn : l.session = none := by
    cases hp <;> simp_all
  have ha : l.announced ≠ .connected := by
    rw [hl.mirror, hd]
    exact nofun
  obtain ⟨m, hm, hstarted⟩ := startSession?_of_idle hs hd (.retryStarted (nextAttempt k))
  constructor
  · simp [step?, hn, hw, stepWorker?, hs, ha, due]
  · simp only [retry, hm]
    exact hstarted.state

/-- A call to connect makes the first attempt of all. -/
theorem attempts_of_connecting (hp : l.Phase) (up : l.IsUp) (hm : Shift l e m)
    (before : l.state ≠ .connecting) (state : m.state = .connecting) :
    l.stats.connectionAttempts = 0 := by
  cases hm with
  | connects down _ worker _ => cases hp <;> simp_all [IsUp]
  | _ => simp_all

/-- Every attempt to connect again, in every run in which nobody closes the link, waits out the
delay that belongs to what its worker has counted, from the last loss on, and without losing time if
the clock never passes a moment at which a task is ready. What it has counted are the attempts of
the episode exactly if no worker was left when the connection was lost, as long as they can be told
apart in a word. When the wait is over the attempt is made. The first attempt of all is the only one
that does not wait. If the broker answers first, an attempt that has taken too long is given up. -/
theorem attempts_wait (options : BrokerOptions) (backoff : Backoff) (es : List Event)
    (hes : ∀ e ∈ es, ¬e.isDisconnect) :
    let start := create options backoff
    let l := start.run es
    let c := start.chronicle {} es
    (∀ e, l.state ≠ .reconnecting → (l.after e).state = .reconnecting →
      ∃ k, Retries c l (l.after e) k ∧ l.backoff = backoff ∧
        (start.Prompt es → l.now = c.lostAt + backoff.delay k.toNat)) ∧
    (∀ k d, l.worker = some ⟨k, .waiting d⟩ → d ≤ l.now →
      l.step? = some (l.retry k) ∧ (l.retry k).state = .reconnecting) ∧
    (∀ e, l.state ≠ .connecting → (l.after e).state = .connecting →
      l.stats.connectionAttempts = 0) ∧
    (start.AnswersFirst es → l.state.isAttempting → c.triedAt + connectTimeout ≤ l.now →
      l.step? = some l.giveUpAttempt ∧ l.giveUpAttempt.state = .disconnected) := by
  intro start l c
  have hstart : start.Reachable := .create options backoff
  have hl : l.Reachable := hstart.run es
  obtain ⟨hledger, hp⟩ := hl.ledger_phase
  have hs : l.stopping = false := stopping_run start hes
  have up : l.IsUp := hp.isUp hs
  have hbackoff : l.backoff = backoff :=
    run_keeps (P := fun m => m.backoff = backoff) (fun m e h => (backoff_after m e).trans h) rfl es
  have hcounts : Counts c l := (counts_create options backoff).run hstart rfl hes
  have hshift (e : Event) (he : (l.after e).state ≠ .shuttingDown) : Shift l e (l.after e) :=
    shift hledger hp up fun hd => he (state_of_isDisconnect hs hd)
  refine ⟨?_, fun k d => step?_of_waited hledger hp hs, ?_, ?_⟩
  · intro e before state
    obtain ⟨k, hk⟩ := hcounts.exists_retries (hshift e (by simp [state])) before state
    refine ⟨k, hk, hbackoff, fun hprompt => ?_⟩
    have hon : OnTime c l := (onTime_create options backoff).run (counts_create options backoff)
      hstart rfl hes hprompt
    obtain ⟨hsince, hle⟩ := hon.waiting k _ hk.waited
    have hdue := hk.due
    rw [hsince, hbackoff] at hle hdue
    exact Nat.le_antisymm hle hdue
  · intro e before state
    exact attempts_of_connecting hp up (hshift e (by simp [state])) before state
  · intro hanswers ha hdue
    have htimed : Timed c l := (timed_create options backoff).run hstart rfl hes hanswers
    exact ⟨htimed.step?_eq ha hdue, giveUpAttempt_state (hp.ne_shuttingDown hs)⟩

/-- A connection that is lost before the worker has seen it does not let it start from zero: the
first attempt of the new episode waits for two seconds. -/
theorem attempts_wait_of_survivor :
    let start := create ⟨"tracker", "broker", 1883, 60, true, .plain⟩ {}
    let es : List Event := [.connect, .report (.error "refused"), .workerMoves, .advance second,
      .workerMoves, .report (.ok (.connAck .success false)), .report (.error "reset"),
      .workerMoves, .workerMoves, .advance (2 * second)]
    let l := start.run es
    let c := start.chronicle {} es
    c.made = 0 ∧ ∃ k, Retries c l (l.after .workerMoves) k ∧ k = 1 := by
  intro start es l c
  obtain ⟨k, hk, -, -⟩ := (attempts_wait ⟨"tracker", "broker", 1883, 60, true, .plain⟩ {} es
    (by decide)).1 .workerMoves (by decide +kernel) (by decide +kernel)
  have hmade : c.made = 0 := by decide +kernel
  have hcarried : c.carried = 1 := by decide +kernel
  have hcounted := hk.counted
  rw [hmade, hcarried] at hcounted
  exact ⟨hmade, k, hk, UInt32.toNat.inj hcounted⟩

end Link
end SceneRelay
