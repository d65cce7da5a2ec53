import SceneRelay.Proofs.Router.Pipeline
import SceneRelay.Proofs.Subscriptions
import SceneRelay.Relay.Simulation

/-! The life of a router on a link in memory. The router's flag, the link's callback and the filter
for cameras are changed one after the other, in two places; they agree after every command, and a
router that is taken away leaves the link to the others. -/
namespace SceneRelay

/-! ### Counters -/

/-- Counters that have taken in a number of messages more. -/
structure Counters.GrowsBy (n : Nat) (c d : Counters) : Prop where
  received : d.received = c.received + n
  published : c.published ≤ d.published
  rejected : c.rejected ≤ d.rejected
  balance : d.published + d.rejected = c.published + c.rejected + n

namespace Counters.GrowsBy
variable {m n : Nat} {c d e : Counters}

theorem refl (c : Counters) : GrowsBy 0 c c := ⟨rfl, le_rfl, le_rfl, rfl⟩

theorem trans (h : GrowsBy m c d) (h' : GrowsBy n d e) : GrowsBy (m + n) c e where
  received := by rw [h'.received, h.received, Nat.add_assoc]
  published := h.published.trans h'.published
  rejected := h.rejected.trans h'.rejected
  balance := by rw [h'.balance, h.balance, Nat.add_assoc]

end Counters.GrowsBy

theorem Router.growsBy_record (x : Router) (topic : String) (payload : ByteArray) :
    x.counters.GrowsBy 1 (x.record topic payload).counters := by
  cases hj : x.validators.judge topic payload <;> constructor <;>
    simp [record, hj, Counters.record] <;> omega

/-! ### The link -/

namespace MemoryLink

/-- What others do with a link: they leave the callback and the filter for cameras alone. -/
inductive Command where
  | connect
  | disconnect
  | publish (p : Publication)
  | subscribe (filter : String) (h : filter ≠ Topic.cameraFilter)
  | unsubscribe (filter : String) (h : filter ≠ Topic.cameraFilter)

def Command.apply : Command → MemoryLink → MemoryLink
  | connect, l => l.connect
  | disconnect, l => l.disconnect
  | publish p, l => l.publish p
  | subscribe filter _, l => l.subscribe filter
  | unsubscribe filter _, l => l.unsubscribe filter

/-- Two states of a link that agree in all that a router sets. -/
structure Agrees (l l' : MemoryLink) : Prop where
  callback : l'.callback = l.callback
  filter : Topic.cameraFilter ∈ l'.filters.topics ↔ Topic.cameraFilter ∈ l.filters.topics
  sorted : l.filters.Sorted → l'.filters.Sorted

variable {l l' l'' : MemoryLink}

theorem Agrees.of_filters (hc : l'.callback = l.callback) (hf : l'.filters = l.filters) :
    Agrees l l' := ⟨hc, by rw [hf], by rw [hf]; exact id⟩

theorem Agrees.refl (l : MemoryLink) : Agrees l l := .of_filters rfl rfl

theorem Agrees.trans (h : Agrees l l') (h' : Agrees l' l'') : Agrees l l'' :=
  ⟨h'.callback.trans h.callback, h'.filter.trans h.filter, h'.sorted ∘ h.sorted⟩

theorem agrees_publish (p : Publication) (l : MemoryLink) : Agrees l (l.publish p) := by
  unfold publish
  split <;> exact .of_filters rfl rfl

theorem agrees_publishAll (ps : List Publication) (l : MemoryLink) :
    Agrees l (ps.foldl (fun l p => Messaging.publish p l) l) := by
  induction ps generalizing l with
  | nil => exact .refl l
  | cons p ps ih => exact (agrees_publish p l).trans (ih (l.publish p))

theorem agrees_apply (c : Command) (l : MemoryLink) : Agrees l (c.apply l) := by
  cases c with
  | connect => exact .of_filters rfl rfl
  | disconnect => exact .of_filters rfl rfl
  | publish p => exact agrees_publish p l
  | subscribe filter h =>
    refine ⟨rfl, Subscriptions.mem_insert.trans ?_, fun hs => hs.insert filter⟩
    exact or_iff_right h.symm
  | unsubscribe filter h =>
    refine ⟨rfl, Subscriptions.mem_erase.trans ?_, fun hs => hs.erase filter⟩
    exact and_iff_right h.symm

end MemoryLink

/-! ### Commands -/

namespace Relay

/-- What is done with a router and its link. -/
inductive Command where
  | start
  | stop
  | drop
  | handle (topic : String) (payload : ByteArray)
  | simulate (topic : String) (payload : ByteArray)
  | link (c : MemoryLink.Command)

def isRunning (r : Relay MemoryLink) : Bool := r.router.any Router.running

namespace Command

def apply : Command → Relay MemoryLink → Relay MemoryLink
  | start, r => r.start
  | stop, r => r.stop
  | drop, r => r.dropRouter
  | handle topic payload, r => r.handle topic payload
  | simulate topic payload, r => (r.simulate topic payload).1
  | link c, r => { r with link := c.apply r.link }

/-- What a command does to the link if there is no router. -/
def onLink : Command → MemoryLink → MemoryLink
  | link c, l => c.apply l
  | _, l => l

/-- How many messages a command brings to the router. -/
def messages : Command → Relay MemoryLink → Nat
  | handle _ _, _ => 1
  | simulate _ _, r => if r.isRunning then 1 else 0
  | _, _ => 0

end Command

def run (commands : List Command) (r : Relay MemoryLink) : Relay MemoryLink :=
  commands.foldl (fun r c => c.apply r) r

/-- How many messages a run brings to the router. -/
def messages : List Command → Relay MemoryLink → Nat
  | [], _ => 0
  | c :: rest, r => c.messages r + messages rest (c.apply r)

/-- Router and link agree: the link has the router's callback and its filter, or neither. -/
inductive InStep : Relay MemoryLink → Prop
  | running {link v c} (hc : link.callback = some (Listener.router v).callback)
      (hf : Topic.cameraFilter ∈ link.filters.topics) (hs : link.filters.Sorted) :
      InStep ⟨link, some ⟨v, c, true⟩, some (.router v)⟩
  | idle {link router} (hr : ∀ x ∈ router, x.running = false) (hc : link.callback = none)
      (hf : Topic.cameraFilter ∉ link.filters.topics) (hs : link.filters.Sorted) :
      InStep ⟨link, router, none⟩

variable {r : Relay MemoryLink} {link link' : MemoryLink} {v : Validators} {c : Counters}
  {x : Router} {router : Option Router} {topic : String} {payload : ByteArray}

theorem cases_of_idle (hr : ∀ x ∈ router, x.running = false) :
    router = none ∨ ∃ v c, router = some ⟨v, c, false⟩ := by
  obtain _ | ⟨v, c, running⟩ := router
  · exact .inl rfl
  · obtain rfl : running = false := hr _ rfl
    exact .inr ⟨v, c, rfl⟩

theorem isRunning_of_idle (hr : ∀ x ∈ router, x.running = false) {listener : Option Listener} :
    isRunning ⟨link, router, listener⟩ = false := by
  obtain rfl | ⟨v, c, rfl⟩ := cases_of_idle hr <;> rfl

/-- Whatever changes the link and the counters only. -/
theorem InStep.of_agrees {c' : Counters} {running : Bool} {listener : Option Listener}
    (h : InStep ⟨link, some ⟨v, c, running⟩, listener⟩) (hl : link.Agrees link') :
    InStep ⟨link', some ⟨v, c', running⟩, listener⟩ := by
  cases h with
  | running hc hf hs => exact .running (hl.callback.trans hc) (hl.filter.mpr hf) (hl.sorted hs)
  | idle hr hc hf hs =>
    exact .idle (by simpa using hr) (hl.callback.trans hc) (mt hl.filter.mp hf) (hl.sorted hs)

/-! ### Starting and stopping -/

theorem start_of_idle : start ⟨link, some ⟨v, c, false⟩, none⟩ =
    ⟨{ link with
        filters := (link.filters.insert Topic.cameraFilter).1
        callback := some (Listener.router v).callback },
      some ⟨v, c, true⟩, some (.router v)⟩ := rfl

theorem stop_of_running {listener : Option Listener} :
    stop ⟨link, some ⟨v, c, true⟩, listener⟩ =
      ⟨{ link with filters := (link.filters.erase Topic.cameraFilter).1, callback := none },
        some ⟨v, c, false⟩, none⟩ := rfl

theorem stop_of_idle (hr : ∀ x ∈ router, x.running = false) {listener : Option Listener} :
    stop ⟨link, router, listener⟩ = ⟨link, router, listener⟩ := by
  obtain rfl | ⟨v, c, rfl⟩ := cases_of_idle hr <;> rfl

theorem InStep.start (h : InStep r) : InStep r.start := by
  cases h with
  | running hc hf hs => exact .running hc hf hs
  | idle hr hc hf hs =>
    obtain rfl | ⟨v, c, rfl⟩ := cases_of_idle hr
    · exact .idle hr hc hf hs
    · exact .running rfl (Subscriptions.mem_insert.mpr (.inl rfl)) (hs.insert _)

theorem InStep.stop (h : InStep r) : InStep r.stop := by
  cases h with
  | running hc hf hs =>
    refine .idle (by simp) rfl ?_ (hs.erase _)
    exact fun hmem => (Subscriptions.mem_erase.mp hmem).1 rfl
  | idle hr hc hf hs =>
    rw [stop_of_idle hr]
    exact .idle hr hc hf hs

theorem router_start (r : Relay MemoryLink) :
    r.start.router = r.router.map fun x => { x with running := true } := by
  obtain ⟨link, _ | ⟨v, c, _ | _⟩, listener⟩ := r <;> rfl

theorem router_stop (r : Relay MemoryLink) :
    r.stop.router = r.router.map fun x => { x with running := false } := by
  obtain ⟨link, _ | ⟨v, c, _ | _⟩, listener⟩ := r <;> rfl

theorem isRunning_start (r : Relay MemoryLink) : r.start.isRunning = r.router.isSome := by
  rw [isRunning, router_start, Option.any_map]
  cases r.router <;> rfl

theorem isRunning_stop (r : Relay MemoryLink) : r.stop.isRunning = false := by
  rw [isRunning, router_stop, Option.any_map]
  cases r.router <;> rfl

theorem start_start (r : Relay MemoryLink) : r.start.start = r.start := by
  obtain ⟨link, _ | ⟨v, c, _ | _⟩, listener⟩ := r <;> rfl

theorem stop_stop (r : Relay MemoryLink) : r.stop.stop = r.stop := by
  obtain ⟨link, _ | ⟨v, c, _ | _⟩, listener⟩ := r <;> rfl

/-- Stopping a router and starting it again leaves everything as it was, and so does the reverse. -/
theorem InStep.stop_start (h : InStep r) (hr : r.isRunning) : r.start = r ∧ r.stop.start = r := by
  cases h with
  | running hc hf hs =>
    refine ⟨rfl, ?_⟩
    rw [stop_of_running, start_of_idle]
    dsimp only
    rw [hs.insert_erase hf, ← hc]
  | idle hi => nomatch hr.symm.trans (isRunning_of_idle hi)

theorem InStep.start_stop (h : InStep r) (hr : r.isRunning = false) :
    r.stop = r ∧ r.start.stop = r := by
  cases h with
  | running => nomatch hr
  | idle hi hc hf hs =>
    refine ⟨stop_of_idle hi, ?_⟩
    obtain rfl | ⟨v, c, rfl⟩ := cases_of_idle hi
    · rfl
    · rw [start_of_idle, stop_of_running]
      dsimp only
      rw [hs.erase_insert hf, ← hc]

/-! ### Messages -/

/-- Handing a message to a router changes the link by publishing, and counts the message. -/
theorem exists_handle (running : Bool) (listener : Option Listener) : ∃ link' c',
    handle topic payload ⟨link, some ⟨v, c, running⟩, listener⟩ =
      ⟨link', some ⟨v, c', running⟩, listener⟩ ∧ link.Agrees link' ∧ c.GrowsBy 1 c' :=
  ⟨_, _, rfl, MemoryLink.agrees_publishAll _ _, Router.growsBy_record ⟨v, c, running⟩ _ _⟩

theorem InStep.handle (h : InStep r) (topic : String) (payload : ByteArray) :
    InStep (r.handle topic payload) := by
  obtain ⟨link, router, listener⟩ := r
  obtain _ | ⟨v, c, running⟩ := router
  · exact h
  · obtain ⟨link', c', heq, hlink, -⟩ := exists_handle running listener
    rw [heq]
    exact h.of_agrees hlink

/-- A message that is brought to the link reaches the router while it runs, else nobody. -/
theorem InStep.simulate_eq (h : InStep r) (topic : String) (payload : ByteArray) :
    r.simulate topic payload =
      if r.isRunning then (r.handle topic payload, true) else (r, false) := by
  cases h with
  | running hc hf hs =>
    rw [simulate]
    simp only [hc]
    rfl
  | idle hr hc hf hs => simp [simulate, hc, isRunning_of_idle hr]

/-! ### Runs -/

theorem InStep.dropRouter_eq (h : InStep r) : r.dropRouter = { link := r.stop.link } := by
  cases h with
  | running hc hf hs => rfl
  | idle hr hc hf hs => rw [dropRouter, stop_of_idle hr]

/-- A link on which no router runs is in step without one. -/
theorem InStep.of_link (h : InStep r) (hr : r.isRunning = false) : InStep { link := r.link } := by
  cases h with
  | running => nomatch hr
  | idle _ hc hf hs => exact .idle nofun hc hf hs

theorem InStep.dropRouter (h : InStep r) : InStep r.dropRouter := by
  rw [h.dropRouter_eq]
  exact h.stop.of_link r.isRunning_stop

theorem InStep.apply (h : InStep r) (c : Command) : InStep (c.apply r) := by
  cases c with
  | start => exact h.start
  | stop => exact h.stop
  | drop => exact h.dropRouter
  | handle topic payload => exact h.handle topic payload
  | simulate topic payload =>
    rw [Command.apply, h.simulate_eq]
    split
    · exact h.handle topic payload
    · exact h
  | link c =>
    have hlink := MemoryLink.agrees_apply c r.link
    cases h with
    | running hc hf hs =>
      exact .running (hlink.callback.trans hc) (hlink.filter.mpr hf) (hlink.sorted hs)
    | idle hr hc hf hs =>
      exact .idle hr (hlink.callback.trans hc) (mt hlink.filter.mp hf) (hlink.sorted hs)

theorem InStep.run (h : InStep r) (commands : List Command) : InStep (r.run commands) := by
  induction commands generalizing r with
  | nil => exact h
  | cons c commands ih => exact ih (h.apply c)

/-- Without a router only what others do to the link is left. -/
theorem run_of_no_router (h : InStep { link }) (commands : List Command) :
    run commands { link } = { link := commands.foldl (fun l c => c.onLink l) link } := by
  induction commands generalizing link with
  | nil => rfl
  | cons c commands ih =>
    have hstep : c.apply { link } = { link := c.onLink link } := by
      cases c with
      | simulate topic payload =>
        rw [Command.apply, h.simulate_eq]
        rfl
      | _ => rfl
    have hnext := h.apply c
    rw [hstep] at hnext
    rw [run, List.foldl_cons, hstep]
    exact ih hnext

/-! ### Counting -/

/-- What a router has counted after a command is what it had counted before, and the messages that
the command brought. -/
theorem InStep.growsBy_apply (h : InStep r) (c : Command) (y : Router)
    (hy : (c.apply r).router = some y) :
    ∃ x, r.router = some x ∧ x.counters.GrowsBy (c.messages r) y.counters := by
  have hhandle (topic : String) (payload : ByteArray)
      (hy : (r.handle topic payload).router = some y) :
      ∃ x, r.router = some x ∧ x.counters.GrowsBy 1 y.counters := by
    obtain ⟨link, router, listener⟩ := r
    obtain _ | ⟨v, c, running⟩ := router
    · nomatch hy
    · obtain ⟨link', c', heq, -, hgrows⟩ := exists_handle running listener
      rw [heq] at hy
      cases hy
      exact ⟨_, rfl, hgrows⟩
  cases c with
  | start =>
    rw [Command.apply, router_start] at hy
    obtain ⟨x, hx, rfl⟩ := Option.map_eq_some_iff.mp hy
    exact ⟨x, hx, .refl _⟩
  | stop =>
    rw [Command.apply, router_stop] at hy
    obtain ⟨x, hx, rfl⟩ := Option.map_eq_some_iff.mp hy
    exact ⟨x, hx, .refl _⟩
  | drop => nomatch hy
  | handle topic payload => exact hhandle topic payload hy
  | simulate topic payload =>
    rw [Command.apply, h.simulate_eq] at hy
    rw [Command.messages]
    split at hy <;> rename_i hr
    · rw [if_pos hr]
      exact hhandle topic payload hy
    · rw [if_neg hr]
      exact ⟨y, hy, .refl _⟩
  | link c => exact ⟨y, hy, .refl _⟩

theorem InStep.growsBy_run (h : InStep r) (commands : List Command) (y : Router)
    (hy : (r.run commands).router = some y) :
    ∃ x, r.router = some x ∧ x.counters.GrowsBy (r.messages commands) y.counters := by
  induction commands generalizing r with
  | nil => exact ⟨y, hy, .refl _⟩
  | cons c commands ih =>
    obtain ⟨x, hx, hrest⟩ := ih (h.apply c) hy
    obtain ⟨w, hw, hfirst⟩ := h.growsBy_apply c x hx
    exact ⟨w, hw, hfirst.trans hrest⟩

/-! ### The whole life -/

/-- What holds of a router and its link between any two commands. The router runs exactly while the
link has a callback, and exactly while it has the filter for cameras. -/
structure Orderly (r : Relay MemoryLink) : Prop where
  callback : r.isRunning ↔ r.link.callback.isSome
  filter : r.isRunning ↔ Topic.cameraFilter ∈ r.link.filters.topics
  /-- A message on the link is handled while the router runs, and is lost without a trace else. -/
  simulate : ∀ topic payload, r.simulate topic payload =
    if r.isRunning then (r.handle topic payload, true) else (r, false)
  /-- A message that is handled is counted once, whether the router runs or not. -/
  handle : ∀ topic payload x, r.router = some x → ∃ y,
    (r.handle topic payload).router = some y ∧ x.counters.GrowsBy 1 y.counters
  started : r.start.isRunning = r.router.isSome ∧ r.start.start = r.start
  stopped : r.stop.isRunning = false ∧ r.stop.stop = r.stop
  undone : if r.isRunning then r.stop.start = r else r.start.stop = r
  /-- Taking the router away stops it. From then on the link changes only by what others do. -/
  dropped : ∀ more, run more r.dropRouter =
    { link := more.foldl (fun l c => c.onLink l) r.stop.link }
  deserted : ∀ more topic payload,
    (run more r.dropRouter).simulate topic payload = (run more r.dropRouter, false)
  /-- Whatever is done later, the counters grow by the messages that it brings. -/
  counted : ∀ more y, (run more r).router = some y → ∃ x,
    r.router = some x ∧ x.counters.GrowsBy (r.messages more) y.counters

theorem InStep.callback_iff (h : InStep r) : r.isRunning ↔ r.link.callback.isSome := by
  cases h with
  | running hc hf hs => simp [isRunning, hc]
  | idle hr hc hf hs => simp [isRunning_of_idle hr, hc]

theorem InStep.filter_iff (h : InStep r) :
    r.isRunning ↔ Topic.cameraFilter ∈ r.link.filters.topics := by
  cases h with
  | running hc hf hs => simp [isRunning, hf]
  | idle hr hc hf hs => simp [isRunning_of_idle hr, hf]

theorem InStep.orderly (h : InStep r) : r.Orderly where
  callback := h.callback_iff
  filter := h.filter_iff
  simulate := h.simulate_eq
  handle topic payload x hx := by
    obtain ⟨link, router, listener⟩ := r
    obtain rfl : router = some x := hx
    obtain ⟨link', c', heq, -, hgrows⟩ := exists_handle x.running listener
    exact ⟨_, by rw [heq], hgrows⟩
  started := ⟨r.isRunning_start, r.start_start⟩
  stopped := ⟨r.isRunning_stop, r.stop_stop⟩
  undone := by
    split <;> rename_i hr
    · exact (h.stop_start hr).2
    · exact (h.start_stop (Bool.eq_false_iff.mpr hr)).2
  dropped more := by
    rw [h.dropRouter_eq]
    exact run_of_no_router (h.stop.of_link r.isRunning_stop) more
  deserted more topic payload := by
    have hrun := h.dropRouter.run more
    rw [hrun.simulate_eq, h.dropRouter_eq, run_of_no_router (h.stop.of_link r.isRunning_stop)]
    rfl
  counted more y hy := h.growsBy_run more y hy

/-- A new router on a link that nobody listens to: after any commands the two are in order. -/
theorem lifecycle_orderly (v : Validators) (link : MemoryLink) (hsorted : link.filters.Sorted)
    (hcallback : link.callback = none) (hfilter : Topic.cameraFilter ∉ link.filters.topics)
    (commands : List Command) :
    (run commands { link, router := some { validators := v } }).Orderly := by
  have hnew : InStep { link, router := some { validators := v } } :=
    .idle (by simp) hcallback hfilter hsorted
  exact (hnew.run commands).orderly

/-- A router that was stopped, handed a message and started again on a link that others use too. -/
theorem lifecycle_orderly_of_restart :
    let link : MemoryLink := { connected := true, filters := ⟨["scenescape/cmd"]⟩ }
    let commands : List Command := [.start, .stop, .handle "other" ByteArray.empty, .start]
    link.filters.Sorted ∧ link.callback = none ∧ Topic.cameraFilter ∉ link.filters.topics ∧
      (run commands { link, router := some { validators := {} } }).isRunning ∧
      (run commands { link, router := some { validators := {} } }).Orderly := by
  intro link commands
  have hsorted : link.filters.Sorted := List.pairwise_singleton _ _
  have hfilter : Topic.cameraFilter ∉ link.filters.topics := by decide
  exact ⟨hsorted, rfl, hfilter, rfl, lifecycle_orderly {} link hsorted rfl hfilter commands⟩

end Relay
end SceneRelay
