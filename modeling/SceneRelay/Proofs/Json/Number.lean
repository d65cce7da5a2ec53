import Mathlib.Tactic.Common
import SceneRelay.Json.Parser
import SceneRelay.Json.Printer

/-! Numbers before other text: a number ends where no character of a number follows. -/
namespace SceneRelay.Json

/-- The characters that may go on with a number after one of its digits. -/
def continuesNumber (c : Char) : Bool := c.isDigit || c == '.' || c == 'e' || c == 'E'

/-- The text does not go on with a number. -/
def Ends (rest : List Char) : Prop := ∀ c ∈ rest.head?, continuesNumber c = false

theorem ends_nil : Ends [] := by simp [Ends]

theorem ends_cons {c : Char} {rest : List Char} (h : continuesNumber c = false) :
    Ends (c :: rest) := by simpa [Ends] using h

variable {c : Char} {cs rest after : List Char}

theorem Ends.not_isDigit (h : Ends (c :: rest)) : c.isDigit = false := by
  have hc := h c rfl
  simp only [continuesNumber, Bool.or_eq_false_iff] at hc
  exact hc.1.1.1

theorem Ends.not_point (h : Ends (c :: rest)) : c ≠ '.' := by
  rintro rfl
  exact absurd (h '.' rfl) (by decide)

theorem Ends.not_mark (h : Ends (c :: rest)) : ¬(c = 'e' ∨ c = 'E') := by
  rintro (rfl | rfl)
  · exact absurd (h 'e' rfl) (by decide)
  · exact absurd (h 'E' rfl) (by decide)

theorem Ends.takeWhile_isDigit (h : Ends rest) (cs : List Char) :
    (cs ++ rest).takeWhile Char.isDigit = cs.takeWhile Char.isDigit := by
  induction cs with
  | nil =>
    cases rest with
    | nil => rfl
    | cons c rest => simp [h.not_isDigit]
  | cons c cs ih =>
    rw [List.cons_append, List.takeWhile_cons, List.takeWhile_cons, ih]

theorem Ends.dropWhile_isDigit (h : Ends rest) (cs : List Char) :
    (cs ++ rest).dropWhile Char.isDigit = cs.dropWhile Char.isDigit ++ rest := by
  induction cs with
  | nil =>
    cases rest with
    | nil => rfl
    | cons c rest => simp [h.not_isDigit]
  | cons c cs ih =>
    rw [List.cons_append, List.dropWhile_cons, List.dropWhile_cons, ih]
    split <;> rfl

theorem Ends.integerPart_append {whole : List Char} (h : Ends rest)
    (hi : integerPart cs = some (whole, after)) :
    integerPart (cs ++ rest) = some (whole, after ++ rest) := by
  fun_cases integerPart cs with
  | case1 cs =>
    cases hi
    rfl
  | case2 c cs hzero hc =>
    rw [integerPart, if_pos hc] at hi
    · cases hi
      rw [List.cons_append, integerPart, if_pos hc, ← List.cons_append, h.takeWhile_isDigit,
        h.dropWhile_isDigit]
      exact hzero
    · exact hzero
  | case3 c cs hzero hc =>
    rw [integerPart, if_neg hc] at hi
    · nomatch hi
    · exact hzero
  | case4 => nomatch hi

theorem fractionPart_of_ne (h : ∀ cs', cs ≠ '.' :: cs') : fractionPart cs = some ([], cs) := by
  unfold fractionPart
  split
  · exact absurd rfl (h _)
  · rfl

theorem Ends.fractionPart_append {digits : List Char} (h : Ends rest)
    (hf : fractionPart cs = some (digits, after)) :
    fractionPart (cs ++ rest) = some (digits, after ++ rest) := by
  by_cases hpoint : ∃ cs', cs = '.' :: cs'
  · obtain ⟨cs', rfl⟩ := hpoint
    simp only [List.cons_append, fractionPart, h.takeWhile_isDigit, h.dropWhile_isDigit] at hf ⊢
    split at hf
    · nomatch hf
    · rename_i hdigits
      cases hf
      rw [if_neg hdigits]
  · rw [not_exists] at hpoint
    rw [fractionPart_of_ne hpoint] at hf
    cases hf
    refine fractionPart_of_ne fun cs' hcs => ?_
    cases cs with
    | nil =>
      rw [List.nil_append] at hcs
      subst hcs
      exact h.not_point rfl
    | cons c cs =>
      cases hcs
      exact hpoint _ rfl

/-- The digits of an exponent of known sign. -/
def exponentDigits (minus : Bool) (cs : List Char) : Option (Option Int × List Char) :=
  let digits := cs.takeWhile Char.isDigit
  if digits.isEmpty then none
  else
    let n : Int := Text.decimalValue digits
    some (some (if minus then -n else n), cs.dropWhile Char.isDigit)

theorem Ends.exponentDigits_append {minus : Bool} {exponent : Option Int} (h : Ends rest)
    (he : exponentDigits minus cs = some (exponent, after)) :
    exponentDigits minus (cs ++ rest) = some (exponent, after ++ rest) := by
  simp only [exponentDigits, h.takeWhile_isDigit, h.dropWhile_isDigit] at he ⊢
  split at he
  · nomatch he
  · rename_i hdigits
    cases he
    rw [if_neg hdigits]

theorem exponentPart_of_ne (h : ∀ e cs', cs = e :: cs' → ¬(e = 'e' ∨ e = 'E')) :
    exponentPart cs = some (none, cs) := by
  cases cs with
  | nil => rfl
  | cons e cs => exact if_neg (h e cs rfl)

theorem exponentPart_minus {e : Char} (he : e = 'e' ∨ e = 'E') (cs : List Char) :
    exponentPart (e :: '-' :: cs) = exponentDigits true cs := if_pos he

theorem exponentPart_plus {e : Char} (he : e = 'e' ∨ e = 'E') (cs : List Char) :
    exponentPart (e :: '+' :: cs) = exponentDigits false cs := if_pos he

theorem exponentPart_unsigned {e : Char} (he : e = 'e' ∨ e = 'E') (hminus : c ≠ '-')
    (hplus : c ≠ '+') (cs : List Char) :
    exponentPart (e :: c :: cs) = exponentDigits false (c :: cs) := by
  unfold exponentPart
  simp only [he, if_true]
  split
  · rename_i hc
    cases hc
    exact absurd rfl hminus
  · rename_i hc
    cases hc
    exact absurd rfl hplus
  · rfl

theorem Ends.exponentPart_append {exponent : Option Int} (h : Ends rest)
    (he : exponentPart cs = some (exponent, after)) :
    exponentPart (cs ++ rest) = some (exponent, after ++ rest) := by
  by_cases hmark : ∃ e cs', cs = e :: cs' ∧ (e = 'e' ∨ e = 'E')
  · obtain ⟨e, cs', rfl, hmark⟩ := hmark
    cases cs' with
    | nil => simp [exponentPart, hmark] at he
    | cons d ds =>
      by_cases hminus : d = '-'
      · subst hminus
        rw [exponentPart_minus hmark] at he
        exact (exponentPart_minus hmark _).trans (h.exponentDigits_append he)
      · by_cases hplus : d = '+'
        · subst hplus
          rw [exponentPart_plus hmark] at he
          exact (exponentPart_plus hmark _).trans (h.exponentDigits_append he)
        · rw [exponentPart_unsigned hmark hminus hplus] at he
          exact (exponentPart_unsigned hmark hminus hplus _).trans (h.exponentDigits_append he)
  · have hne : ∀ e cs', cs = e :: cs' → ¬(e = 'e' ∨ e = 'E') := fun e cs' hcs he =>
      hmark ⟨e, cs', hcs, he⟩
    rw [exponentPart_of_ne hne] at he
    cases he
    refine exponentPart_of_ne fun e cs' hcs => ?_
    cases cs with
    | nil =>
      rw [List.nil_append] at hcs
      subst hcs
      exact h.not_mark
    | cons c cs =>
      cases hcs
      exact hne _ _ rfl

theorem Ends.unsigned?_append {negative : Bool} {v : Json} (h : Ends rest)
    (hu : unsigned? negative cs = some (v, after)) :
    unsigned? negative (cs ++ rest) = some (v, after ++ rest) := by
  simp only [unsigned?, Option.bind_eq_bind, Option.bind_eq_some_iff] at hu
  obtain ⟨⟨whole, cs₁⟩, hi, ⟨fraction, cs₂⟩, hf, ⟨exponent, cs₃⟩, he, n, hn, hv⟩ := hu
  cases hv
  simp only [unsigned?, h.integerPart_append hi, h.fractionPart_append hf,
    h.exponentPart_append he, hn, Option.bind_eq_bind, Option.bind_some]
  rfl

theorem number?_of_ne (h : ∀ cs', cs ≠ '-' :: cs') : number? cs = unsigned? false cs := by
  unfold number?
  split
  · exact absurd rfl (h _)
  · rfl

theorem unsigned?_nil (negative : Bool) : unsigned? negative [] = none := rfl

/-- A number is read the same before a text that does not go on with it. -/
theorem Ends.number?_append {v : Json} (h : Ends rest) (hn : number? cs = some (v, after)) :
    number? (cs ++ rest) = some (v, after ++ rest) := by
  by_cases hminus : ∃ cs', cs = '-' :: cs'
  · obtain ⟨cs', rfl⟩ := hminus
    exact h.unsigned?_append hn
  · rw [not_exists] at hminus
    rw [number?_of_ne hminus] at hn
    refine (number?_of_ne fun cs' hcs => ?_).trans (h.unsigned?_append hn)
    cases cs with
    | nil => nomatch (unsigned?_nil false).symm.trans hn
    | cons c cs =>
      cases hcs
      exact hminus _ rfl

/-- A number begins with a digit or a minus sign. -/
theorem number?_head {v : Json} (hn : number? cs = some (v, after)) :
    ∃ c cs', cs = c :: cs' ∧ (c = '-' ∨ c.isDigit) := by
  by_cases hminus : ∃ cs', cs = '-' :: cs'
  · obtain ⟨cs', rfl⟩ := hminus
    exact ⟨'-', cs', rfl, .inl rfl⟩
  · rw [number?_of_ne (not_exists.mp hminus), unsigned?, Option.bind_eq_bind,
      Option.bind_eq_some_iff] at hn
    obtain ⟨⟨whole, cs₁⟩, hi, -⟩ := hn
    unfold integerPart at hi
    split at hi
    · exact ⟨'0', _, rfl, .inr rfl⟩
    · rename_i c cs' _
      split at hi
      · rename_i hc
        exact ⟨c, cs', rfl, .inr hc⟩
      · nomatch hi
    · nomatch hi

/-- A zero with a minus sign is a double. -/
theorem number?_minus_zero : number? "-0".toList = some (.number (.double ⟨true, 0⟩), []) := by
  have hzero : numberOf? true ['0'] [] none = some (.double ⟨true, 0⟩) := by decide +kernel
  have hchars : "-0".toList = ['-', '0'] := rfl
  simp [hchars, number?, unsigned?, integerPart, fractionPart, exponentPart, hzero]

/-- A whole number that is written with a point need not be read as one. -/
example : (double? false "1801500751847877".toList ['0'] 0).map (·.isIntegral) = some false := by
  decide +kernel

end SceneRelay.Json
