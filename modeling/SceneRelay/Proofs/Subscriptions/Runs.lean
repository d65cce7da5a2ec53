import Mathlib.Data.List.Induction
import SceneRelay.Proofs.History
import SceneRelay.Proofs.Subscriptions
import SceneRelay.Proofs.Text.ByteOrder

/-! The set of filters after any run of commands: it holds what was put in and not taken out since,
in the order of bytes, and each answer is that of a set. -/
namespace SceneRelay.Subscriptions

/-- What is done with a set, or asked of it. -/
inductive Command where
  | insert (topic : String)
  | erase (topic : String)
  | contains (topic : String)
  | isEmpty
  | size
  | snapshot
  deriving DecidableEq

/-- What a command answers. -/
inductive Answer where
  | flag (b : Bool)
  | number (n : Nat)
  | list (topics : List String)
  deriving DecidableEq

namespace Command

/-- The set after a command, and the command's answer. -/
def apply : Command → Subscriptions → Subscriptions × Answer
  | insert t, s => ((s.insert t).1, .flag (s.insert t).2)
  | erase t, s => ((s.erase t).1, .flag (s.erase t).2)
  | contains t, s => (s, .flag (s.contains t))
  | isEmpty, s => (s, .flag s.isEmpty)
  | size, s => (s, .number s.size)
  | snapshot, s => (s, .list s.topics)

/-- The answer of a set with these filters. -/
def answer : Command → List String → Answer
  | insert t, topics => .flag (t ∉ topics)
  | erase t, topics => .flag (t ∈ topics)
  | contains t, topics => .flag (t ∈ topics)
  | isEmpty, topics => .flag (topics = [])
  | size, topics => .number topics.length
  | snapshot, topics => .list topics

end Command

/-- The set after a run of commands, and all their answers. -/
def run (commands : List Command) (s : Subscriptions) : Subscriptions × List Answer :=
  commands.foldl (fun r c => ((c.apply r.1).1, r.2 ++ [(c.apply r.1).2])) (s, [])

variable {s : Subscriptions} {t : String} {commands : List Command}

theorem run_concat (commands : List Command) (c : Command) (s : Subscriptions) :
    run (commands ++ [c]) s =
      ((c.apply (run commands s).1).1, (run commands s).2 ++ [(c.apply (run commands s).1).2]) := by
  rw [run, List.foldl_append]
  rfl

/-! ### Steps -/

theorem Sorted.apply (h : s.Sorted) (c : Command) : (c.apply s).1.Sorted := by
  cases c with
  | insert t => exact h.insert t
  | erase t => exact h.erase t
  | contains | isEmpty | size | snapshot => exact h

/-- A filter is in the set after a command that puts it in, or if it was there before and is not
taken out. -/
theorem mem_apply (c : Command) :
    t ∈ (c.apply s).1.topics ↔ c = .insert t ∨ c ≠ .erase t ∧ t ∈ s.topics := by
  cases c with
  | insert u => simp [Command.apply, mem_insert, eq_comm]
  | erase u => simp [Command.apply, mem_erase, eq_comm]
  | contains | isEmpty | size | snapshot => simp [Command.apply]

theorem answer_apply (c : Command) (s : Subscriptions) : (c.apply s).2 = c.answer s.topics := by
  cases c with
  | insert t => simp [Command.apply, Command.answer, Subscriptions.insert, Subscriptions.contains]
  | erase t => simp [Command.apply, Command.answer, Subscriptions.erase, Subscriptions.contains]
  | contains t => simp [Command.apply, Command.answer, Subscriptions.contains]
  | isEmpty =>
    cases h : s.topics <;> simp [Command.apply, Command.answer, Subscriptions.isEmpty, h]
  | size | snapshot => rfl

/-! ### Runs -/

theorem Sorted.run (h : s.Sorted) (commands : List Command) : (s.run commands).1.Sorted := by
  induction commands using List.reverseRecOn with
  | nil => exact h
  | append_singleton commands c ih =>
    rw [run_concat]
    exact ih.apply c

theorem mem_run_iff (commands : List Command) :
    t ∈ (run commands {}).1.topics ↔ History.Stands commands (.insert t) (.erase t) := by
  induction commands using List.reverseRecOn with
  | nil => exact iff_of_false List.not_mem_nil History.not_stands_nil
  | append_singleton commands c ih => rw [run_concat, mem_apply, History.stands_concat, ih]

theorem sorted_run (commands : List Command) : (run commands {}).1.Sorted :=
  sorted_empty.run commands

/-- What was answered stays answered. -/
theorem answers_append (commands more : List Command) (s : Subscriptions) :
    (run commands s).2 <+: (run (commands ++ more) s).2 := by
  induction more using List.reverseRecOn with
  | nil => exact (List.append_nil commands).symm ▸ List.prefix_rfl
  | append_singleton more c ih =>
    rw [← List.append_assoc, run_concat]
    exact ih.trans (List.prefix_append _ _)

/-- After any commands the filters stand in strictly ascending order of their bytes, and they are
those that were put in and not taken out since. Every command answers what a set with these filters
answers: whether a filter that is put in was absent, whether one that is taken out was there, and so
on. Runs that leave the same filters leave the same list, and later commands change no answer. -/
theorem filters_form_a_set (h : List Command) :
    ((run h {}).1.topics.map Text.utf8).Pairwise (· < ·) ∧ (run h {}).1.topics.Nodup ∧
    (∀ t, t ∈ (run h {}).1.topics ↔ History.Stands h (.insert t) (.erase t)) ∧
    (∀ c, (run (h ++ [c]) {}).2 = (run h {}).2 ++ [c.answer (run h {}).1.topics]) ∧
    (∀ h', (run h' {}).1.topics = (run h {}).1.topics ↔
      ∀ t, History.Stands h' (.insert t) (.erase t) ↔ History.Stands h (.insert t) (.erase t)) ∧
    ∀ more, (run h {}).2 <+: (run (h ++ more) {}).2 := by
  have hsorted := sorted_run h
  refine ⟨List.pairwise_map.mpr (hsorted.imp Text.utf8_lt), hsorted.imp ne_of_lt,
    fun t => mem_run_iff h, fun c => ?_, fun h' => ?_, fun more => answers_append h more {}⟩
  · rw [run_concat, answer_apply]
  · simp only [← mem_run_iff]
    constructor
    · intro htopics t
      rw [htopics]
    · intro hmem
      rw [(sorted_run h').ext hsorted hmem]

end SceneRelay.Subscriptions
