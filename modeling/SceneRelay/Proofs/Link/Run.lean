import Mathlib.Tactic.Common
import SceneRelay.Link.Tasks

/-! Runs of a link: calls, reports of the library, moves of the tasks and the passing of time in any
order, and what the record of a run says about it. -/
namespace SceneRelay.Link

/-- What can happen to a link. The last four are moves of its tasks, which do nothing while the task
has to wait. -/
inductive Event where
  | connect
  | subscribe (filter : String)
  | unsubscribe (filter : String)
  | publish (p : Publication)
  | listen (callback : Option Callback)
  | disconnect (patience : Nanoseconds)
  | report (r : Report)
  | flushed
  | answers (takes : Nat → Nat → Request → Bool)
  | advance (time : Nanoseconds)
  | sessionMoves
  | workerMoves
  | workerWakes
  | closingMoves

def Event.isDisconnect : Event → Bool
  | .disconnect _ => true
  | _ => false

/-- The worker makes the attempt whose time has come, whatever else it could be told first. -/
def wake (l : Link) : Link :=
  match l.worker with
  | some ⟨attempts, .waiting deadline⟩ => if deadline ≤ l.now then l.retry attempts else l
  | _ => l

/-- A link after an event. -/
def after (l : Link) : Event → Link
  | .connect => l.connect
  | .subscribe filter => l.subscribe filter
  | .unsubscribe filter => l.unsubscribe filter
  | .publish p => l.publish p
  | .listen callback => l.setCallback callback
  | .disconnect patience => l.disconnect patience
  | .report r => l.report r
  | .flushed => l.flush
  | .answers takes => l.setAnswers takes
  | .advance time => l.advance time
  | .sessionMoves => (l.session.bind fun s => l.stepSession? s).getD l
  | .workerMoves => (l.worker.bind fun w => l.stepWorker? w).getD l
  | .workerWakes => l.wake
  | .closingMoves => (l.closing.bind fun c => l.stepClosing? c).getD l

def run (l : Link) (es : List Event) : Link := es.foldl after l

@[simp] theorem run_nil (l : Link) : l.run [] = l := rfl

@[simp] theorem run_cons (l : Link) (e : Event) (es : List Event) :
    l.run (e :: es) = (l.after e).run es := rfl

@[simp] theorem run_append (l : Link) (es fs : List Event) :
    l.run (es ++ fs) = (l.run es).run fs := List.foldl_append

/-- Every event of a run from `l` meets a condition at the link it happens to. -/
def Along (Q : Link → Event → Prop) : Link → List Event → Prop
  | _, [] => True
  | l, e :: es => Q l e ∧ Along Q (l.after e) es

theorem along_append {Q : Link → Event → Prop} {l : Link} {es fs : List Event} :
    Along Q l (es ++ fs) ↔ Along Q l es ∧ Along Q (l.run es) fs := by
  induction es generalizing l with
  | nil => simp [Along]
  | cons e es ih => simp [Along, ih, and_assoc]

theorem along_iff {Q : Link → Event → Prop} {l : Link} {es : List Event} :
    Along Q l es ↔ ∀ before e rest, es = before ++ e :: rest → Q (l.run before) e := by
  constructor
  · rintro h before e rest rfl
    exact (along_append.mp h).2.1
  · intro h
    induction es generalizing l with
    | nil => trivial
    | cons e es ih =>
      refine ⟨h [] e es rfl, ih fun before f rest hes => ?_⟩
      exact h (e :: before) f rest (by rw [hes, List.cons_append])

/-- The first word of the library on a session is the broker's answer or an error, which is the end
of the attempt; so nothing else is reported while it lasts. -/
def AnswersFirst : Link → List Event → Prop :=
  Along fun l e => ∀ packet, e = .report (.ok packet) → l.state.isAttempting →
    ∃ code present, packet = .connAck code present

/-- A link that calls, reports, moves and the clock can lead to. -/
inductive Reachable : Link → Prop
  | create (options : BrokerOptions) (backoff : Backoff) : Reachable (create options backoff)
  | after {l : Link} (h : Reachable l) (e : Event) : Reachable (l.after e)

/-- A move of a task is a step of it if it is ready, and otherwise nothing. -/
theorem move_keeps {P : Link → Prop} {α : Type} {task : Option α} {step : α → Option Link}
    {l : Link} (h : P l) (keep : ∀ a, task = some a → ∀ m, step a = some m → P m) :
    P ((task.bind step).getD l) := by
  cases ht : task.bind step with
  | none => exact h
  | some m =>
    obtain ⟨a, ha, hm⟩ := Option.bind_eq_some_iff.mp ht
    exact keep a ha m hm

/-- What every event keeps holds after every run. -/
theorem run_keeps {P : Link → Prop} (keep : ∀ l e, P l → P (l.after e)) {l : Link} (h : P l)
    (es : List Event) : P (l.run es) := by
  induction es generalizing l with
  | nil => exact h
  | cons e es ih => exact ih (keep l e h)

theorem Reachable.run {l : Link} (h : l.Reachable) (es : List Event) : (l.run es).Reachable :=
  run_keeps (fun _ e hl => hl.after e) h es

/-- A step of the tasks is one of a single task. -/
theorem step?_cases {l m : Link} (h : l.step? = some m) :
    (∃ s, l.session = some s ∧ l.stepSession? s = some m) ∨
      (∃ w, l.worker = some w ∧ l.stepWorker? w = some m) ∨
        ∃ c, l.closing = some c ∧ l.stepClosing? c = some m := by
  simp only [← Option.bind_eq_some_iff]
  unfold step? at h
  obtain h | ⟨-, h⟩ := Option.or_eq_some_iff.mp h
  · exact .inl h
  · obtain h | ⟨-, h⟩ := Option.or_eq_some_iff.mp h
    · exact .inr (.inl h)
    · exact .inr (.inr h)

/-- The moves of the tasks in their own order. -/
def moves : List Event := [.sessionMoves, .workerMoves, .closingMoves]

/-- A step of the tasks in their own order is one of the moves. -/
theorem exists_after_of_step? {l m : Link} (h : l.step? = some m) : ∃ e ∈ moves, l.after e = m := by
  obtain ⟨s, hs, hm⟩ | ⟨w, hw, hm⟩ | ⟨c, hc, hm⟩ := step?_cases h
  · exact ⟨.sessionMoves, by simp [moves], by simp [after, hs, hm]⟩
  · exact ⟨.workerMoves, by simp [moves], by simp [after, hw, hm]⟩
  · exact ⟨.closingMoves, by simp [moves], by simp [after, hc, hm]⟩

/-- Each task waits. -/
theorem step?_eq_none_iff (l : Link) : l.step? = none ↔
    (∀ s ∈ l.session, l.stepSession? s = none) ∧ (∀ w ∈ l.worker, l.stepWorker? w = none) ∧
      ∀ c ∈ l.closing, l.stepClosing? c = none := by
  simp [step?, Option.or_eq_none_iff, Option.bind_eq_none_iff]

end SceneRelay.Link
