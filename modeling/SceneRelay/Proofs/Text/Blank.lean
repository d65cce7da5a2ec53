import Mathlib.Data.List.DropRight
import Mathlib.Tactic.Common
import SceneRelay.Text.Blank

/-! What trimming leaves of a text: the one part of it that has nothing but white space around it and
neither begins nor ends with any. -/
namespace SceneRelay.Text
variable {text before core after : List Char} {c : Char}

/-- The text is its core with white space around it, and the core has none at its ends. -/
structure IsTrimmed (text core : List Char) : Prop where
  within : ∃ before after, text = before ++ core ++ after ∧
    (∀ c ∈ before, isBlank c) ∧ ∀ c ∈ after, isBlank c
  first : ∀ h : core ≠ [], ¬isBlank (core.head h)
  last : ∀ h : core ≠ [], ¬isBlank (core.getLast h)

theorem trim_eq (text : List Char) : trim text = (text.dropWhile isBlank).rdropWhile isBlank := rfl

theorem isTrimmed_trim (text : List Char) : IsTrimmed text (trim text) where
  within := by
    refine ⟨text.takeWhile isBlank, (text.dropWhile isBlank).rtakeWhile isBlank, ?_,
      fun c => List.mem_takeWhile_imp, fun c => List.mem_rtakeWhile_imp⟩
    rw [trim_eq, List.append_assoc, List.rdropWhile_append_rtakeWhile,
      List.takeWhile_append_dropWhile]
  first h := by
    have hstart : trim text <+: text.dropWhile isBlank := List.rdropWhile_prefix isBlank _
    rw [hstart.head h, List.head_dropWhile_not isBlank]
    exact Bool.false_ne_true
  last h := List.rdropWhile_last_not isBlank _ h

/-- White space at the front is dropped, and no more than that. -/
theorem dropWhile_isBlank_append {rest : List Char} (hbefore : ∀ c ∈ before, isBlank c)
    (hrest : ∀ h : rest ≠ [], ¬isBlank (rest.head h)) :
    (before ++ rest).dropWhile isBlank = rest := by
  rw [List.dropWhile_append_of_pos hbefore, List.dropWhile_eq_self_iff]
  intro hlength
  rw [← List.head_eq_getElem_zero (List.ne_nil_of_length_pos hlength)]
  exact hrest _

theorem IsTrimmed.trim_eq (h : IsTrimmed text core) : trim text = core := by
  obtain ⟨before, after, rfl, hbefore, hafter⟩ := h.within
  by_cases hcore : core = []
  · subst hcore
    have hall : ∀ c ∈ before ++ [] ++ after, isBlank c := by
      simpa [or_imp, forall_and] using ⟨hbefore, hafter⟩
    rw [Text.trim_eq, List.dropWhile_eq_nil_iff.mpr hall, List.rdropWhile_nil]
  · have hfront : (before ++ core ++ after).dropWhile isBlank = core ++ after := by
      rw [List.append_assoc]
      refine dropWhile_isBlank_append hbefore fun _ => ?_
      rw [List.head_append_of_ne_nil hcore]
      exact h.first hcore
    have hback : (core ++ after).reverse.dropWhile isBlank = core.reverse := by
      rw [List.reverse_append]
      refine dropWhile_isBlank_append (by simpa using hafter) fun hne => ?_
      rw [List.head_reverse]
      exact h.last hcore
    rw [trim, hfront, hback, List.reverse_reverse]

/-- Trimming gives the core, and there is no other. -/
theorem trim_eq_iff : trim text = core ↔ IsTrimmed text core :=
  ⟨fun h => h ▸ isTrimmed_trim text, IsTrimmed.trim_eq⟩

/-- A part without any white space is the core if all around it is white space. -/
theorem isTrimmed_append (hbefore : ∀ c ∈ before, isBlank c) (hafter : ∀ c ∈ after, isBlank c)
    (hcore : ∀ c ∈ core, ¬isBlank c) : IsTrimmed (before ++ core ++ after) core where
  within := ⟨before, after, rfl, hbefore, hafter⟩
  first h := hcore _ (List.head_mem h)
  last h := hcore _ (List.getLast_mem h)

theorem not_isBlank_of_isDigit (h : c.isDigit) : ¬isBlank c := by
  obtain ⟨hlow, hhigh⟩ := Char.isDigit_iff_toNat.mp h
  simp only [isBlank, blankRanges, List.any_cons, List.any_nil, Char.reduceToNat] at hlow hhigh ⊢
  grind

end SceneRelay.Text
