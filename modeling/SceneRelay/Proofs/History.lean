import Mathlib.Data.List.Basic
import Mathlib.Tactic.Common

/-! What still stands at the end of a history: an event that happened and was not undone since. -/
namespace SceneRelay.History
variable {α : Type} {h : List α} {x y z : α}

/-- The event `x` happened, and `y` has not happened since. -/
def Stands (h : List α) (x y : α) : Prop := ∃ before after, h = before ++ x :: after ∧ y ∉ after

theorem not_stands_nil : ¬Stands [] x y := by
  rintro ⟨before, after, heq, -⟩
  exact absurd heq (by simp)

/-- One more event makes `x` stand if it is `x`, and leaves it standing if it is not `y`. -/
theorem stands_concat : Stands (h ++ [z]) x y ↔ z = x ∨ z ≠ y ∧ Stands h x y := by
  constructor
  · rintro ⟨before, after, heq, hy⟩
    obtain rfl | ⟨after, w, rfl⟩ := List.eq_nil_or_concat after
    · obtain ⟨-, hz⟩ := List.append_inj' heq rfl
      exact .inl (List.singleton_inj.mp hz)
    · have hsplit : h ++ [z] = (before ++ x :: after) ++ [w] := by simpa using heq
      obtain ⟨hh, hz⟩ := List.append_inj' hsplit rfl
      obtain rfl := List.singleton_inj.mp hz
      obtain ⟨hafter, hne⟩ : y ∉ after ∧ y ≠ z := by simpa using hy
      exact .inr ⟨hne.symm, before, after, hh, hafter⟩
  · rintro (rfl | ⟨hz, before, after, rfl, hy⟩)
    · exact ⟨h, [], rfl, List.not_mem_nil⟩
    · exact ⟨before, after ++ [z], by simp, by simp [hy, Ne.symm hz]⟩

end SceneRelay.History
