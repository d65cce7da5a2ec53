import Mathlib.Data.List.Induction
import SceneRelay.Health.Server
import SceneRelay.Proofs.History

/-! The life of the server of the probes. Whether it is alive, which listener is told to end next and
whose end is waited for are kept apart; through any starts and stops they agree, and no listener is
forgotten that was not told to end. -/
namespace SceneRelay.HealthServer

/-- What is done with a server; a start gets its port or does not. -/
inductive Command where
  | start (bound : Bool)
  | stop
  deriving DecidableEq

namespace Command

def apply : Command → HealthServer → HealthServer
  | start bound, s => s.start bound
  | stop, s => s.stop

/-- The listener that serves is told to end by a stop, and by a start that puts another one in its
place. -/
def relieves : Command → Bool
  | start bound => bound
  | stop => true

/-- The listener that a command adds, not told to end. -/
def added : Command → List Bool
  | start true => [false]
  | _ => []

end Command

def run (commands : List Command) (s : HealthServer) : HealthServer :=
  commands.foldl (fun s c => c.apply s) s

/-- A server that serves, after `n` other listeners. -/
def servingAfter (n : Nat) : HealthServer where
  alive := true
  listeners := List.replicate n true ++ [false]
  current := some n
  task := some n

/-- A server that does not serve, after `n` listeners. -/
def idleAfter (n : Nat) : HealthServer := { listeners := List.replicate n true }

/-- All listeners were told to end but the last one of a server that serves. -/
inductive Orderly : HealthServer → Prop
  | serving (n : Nat) : Orderly (servingAfter n)
  | idle (n : Nat) : Orderly (idleAfter n)

variable {s : HealthServer} {i : Nat} {told : Bool} {commands : List Command}

/-! ### Steps -/

theorem dismiss_serving (n : Nat) :
    (servingAfter n).dismiss = { idleAfter (n + 1) with alive := true, task := some n } := by
  have hset : (List.replicate n true ++ [false]).set n true = List.replicate (n + 1) true := by
    rw [List.set_append_right _ _ (by simp), List.replicate_succ']
    simp
  simp only [dismiss, servingAfter, idleAfter, hset]

theorem start_serving (n : Nat) : (servingAfter n).start true = servingAfter (n + 1) := by
  rw [start, if_pos rfl, dismiss_serving]
  simp [servingAfter, idleAfter]

theorem start_idle (n : Nat) : (idleAfter n).start true = servingAfter n := by
  simp [start, dismiss, servingAfter, idleAfter]

theorem stop_serving (n : Nat) : (servingAfter n).stop = idleAfter (n + 1) := by
  rw [stop, dismiss_serving]
  rfl

theorem stop_idle (n : Nat) : (idleAfter n).stop = idleAfter n := rfl

namespace Orderly

theorem stop (h : Orderly s) : Orderly s.stop := by
  cases h with
  | serving n => exact stop_serving n ▸ .idle (n + 1)
  | idle n => exact .idle n

theorem start (h : Orderly s) (bound : Bool) : Orderly (s.start bound) := by
  cases bound with
  | false => exact h
  | true =>
    cases h with
    | serving n => exact start_serving n ▸ .serving (n + 1)
    | idle n => exact start_idle n ▸ .serving n

theorem apply (h : Orderly s) (c : Command) : Orderly (c.apply s) := by
  cases c with
  | start bound => exact h.start bound
  | stop => exact h.stop

/-- After a command that relieves the listener, all were told to end but the one that it adds. -/
theorem listeners_apply (h : Orderly s) (c : Command) :
    (c.apply s).listeners =
      (if c.relieves then List.replicate s.listeners.length true else s.listeners) ++ c.added := by
  cases c with
  | start bound =>
    cases bound with
    | false => exact (List.append_nil _).symm
    | true =>
      cases h with
      | serving n =>
        rw [Command.apply, start_serving]
        simp [Command.relieves, Command.added, servingAfter]
      | idle n =>
        rw [Command.apply, start_idle]
        simp [Command.relieves, Command.added, servingAfter, idleAfter]
  | stop =>
    cases h with
    | serving n =>
      rw [Command.apply, stop_serving]
      simp [Command.relieves, Command.added, servingAfter, idleAfter]
    | idle n =>
      rw [Command.apply, stop_idle]
      simp [Command.relieves, Command.added, idleAfter]

theorem told_apply (h : Orderly s) (hi : s.listeners[i]? = some told) (c : Command) :
    (c.apply s).listeners[i]? = some (told || c.relieves) := by
  have hlt := (List.getElem?_eq_some_iff.mp hi).1
  rw [h.listeners_apply]
  cases hc : c.relieves with
  | false => rw [if_neg Bool.false_ne_true, List.getElem?_append_left hlt, hi, Bool.or_false]
  | true =>
    rw [if_pos rfl, List.getElem?_append_left (by simpa using hlt), Bool.or_true,
      List.getElem?_replicate_of_lt hlt]

theorem stop_stop (h : Orderly s) : s.stop.stop = s.stop := by
  cases h with
  | serving n => rw [stop_serving, stop_idle]
  | idle n => rfl

/-- Exactly the listener of a server that is alive was not told to end. -/
theorem count_false (h : Orderly s) : s.listeners.count false = if s.alive then 1 else 0 := by
  cases h <;> simp [servingAfter, idleAfter, List.count_replicate]

/-- A stop waits for the listener that it tells to end. -/
theorem awaited_eq (h : Orderly s) : s.awaited = s.current := by
  cases h <;> rfl

end Orderly

/-! ### Runs -/

theorem run_append (commands more : List Command) (s : HealthServer) :
    run (commands ++ more) s = run more (run commands s) := List.foldl_append

theorem run_concat (commands : List Command) (c : Command) (s : HealthServer) :
    run (commands ++ [c]) s = c.apply (run commands s) := run_append commands [c] s

theorem Orderly.run (h : Orderly s) (commands : List Command) : Orderly (s.run commands) := by
  induction commands generalizing s with
  | nil => exact h
  | cons c commands ih => exact ih (h.apply c)

theorem orderly_run (commands : List Command) : Orderly (run commands {}) :=
  Orderly.run (.idle 0) commands

/-- A server is alive while a start stands that no stop came after. -/
theorem alive_run_iff (commands : List Command) :
    (run commands {}).alive ↔ History.Stands commands (.start true) .stop := by
  induction commands using List.reverseRecOn with
  | nil => exact iff_of_false Bool.false_ne_true History.not_stands_nil
  | append_singleton commands c ih =>
    rw [run_concat, History.stands_concat, ← ih]
    rcases c with (_ | _) | _ <;> simp [Command.apply, start, stop]

/-- There is one listener for each start that got its port. -/
theorem length_run (commands : List Command) :
    (run commands {}).listeners.length = commands.count (.start true) := by
  induction commands using List.reverseRecOn with
  | nil => rfl
  | append_singleton commands c ih =>
    rw [run_concat, (orderly_run commands).listeners_apply, List.count_append, ← ih]
    rcases c with (_ | _) | _ <;> simp [Command.relieves, Command.added]

theorem Orderly.told_run (h : Orderly s) (hi : s.listeners[i]? = some told)
    (commands : List Command) :
    (s.run commands).listeners[i]? = some (told || commands.any Command.relieves) := by
  induction commands generalizing s told with
  | nil => rw [List.any_nil, Bool.or_false]; exact hi
  | cons c commands ih =>
    rw [List.any_cons, ← Bool.or_assoc]
    exact ih (h.apply c) (h.told_apply hi c)

/-- The listener of a start is told to end by the first command after it that relieves it, and not
before. -/
theorem listener_run (before after : List Command) :
    (run (before ++ .start true :: after) {}).listeners[before.count (.start true)]? =
      some (after.any Command.relieves) := by
  have h := orderly_run before
  have hnew : (Command.apply (.start true) (run before {})).listeners[before.count (.start true)]? =
      some false := by
    rw [h.listeners_apply, ← length_run before]
    simp [Command.relieves, Command.added]
  rw [run_append]
  exact (h.start true).told_run hnew after

/-- After any starts and stops, the server is alive if and only if a start got its port and there
was no stop since. A start without a port changes nothing. At most one listener was not told to end,
and there is one if and only if the server is alive; every listener is told to end by the next start
that gets its port or by the next stop, and not before. A second stop changes nothing, a start after
a stop makes the server alive again, and a stop waits for the listener that it tells to end. -/
theorem one_listener_at_a_time (h : List Command) :
    ((run h {}).alive ↔ History.Stands h (.start true) .stop) ∧
    run (h ++ [.start false]) {} = run h {} ∧
    (run h {}).listeners.count false ≤ 1 ∧
    ((run h {}).listeners.count false = 1 ↔ (run h {}).alive) ∧
    (run h {}).listeners.length = h.count (.start true) ∧
    (∀ after, (run (h ++ .start true :: after) {}).listeners[h.count (.start true)]? =
      some (after.any Command.relieves)) ∧
    run (h ++ [.stop, .stop]) {} = run (h ++ [.stop]) {} ∧
    (run (h ++ [.stop, .start true]) {}).alive ∧
    (run h {}).awaited = (run h {}).current := by
  have horderly := orderly_run h
  have hcount := horderly.count_false
  refine ⟨alive_run_iff h, ?_, ?_, ?_, length_run h, listener_run h, ?_, ?_, horderly.awaited_eq⟩
  · rw [run_append]
    rfl
  · rw [hcount]
    split <;> decide
  · rw [hcount]
    split <;> simp_all
  · rw [run_append, run_append]
    exact horderly.stop_stop
  · rw [run_append]
    rfl

end SceneRelay.HealthServer
