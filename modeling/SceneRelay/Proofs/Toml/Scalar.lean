import Mathlib.Data.List.TakeWhile
import Mathlib.Data.String.Basic
import Mathlib.Tactic.Common
import SceneRelay.Proofs.Text.Digits
import SceneRelay.Toml.Parser

/-! Digits alone are an integer: no point in time and no float is written like that. -/
namespace SceneRelay.Toml

/-- A run of digits, at least one. -/
structure Digits (cs : List Char) : Prop where
  ne_nil : cs ≠ []
  isDigit : ∀ c ∈ cs, c.isDigit

namespace Digits

variable {cs : List Char}

theorem not_mem (h : Digits cs) {c : Char} (hc : c.isDigit = false) : c ∉ cs := fun hmem => by
  simp [h.isDigit c hmem] at hc

theorem ne_cons (h : Digits cs) {c : Char} (hc : c.isDigit = false) (rest : List Char) :
    cs ≠ c :: rest := by
  rintro rfl
  exact h.not_mem hc List.mem_cons_self

theorem groups?_eq (h : Digits cs) : groups? Char.isDigit cs = some cs := by
  induction cs with
  | nil => exact absurd rfl h.ne_nil
  | cons c cs ih =>
    have hc : c.isDigit := h.isDigit c List.mem_cons_self
    match cs with
    | [] => simp [groups?, hc]
    | d :: cs =>
      have hcs : Digits (d :: cs) := ⟨by simp, fun x hx => h.isDigit x (.tail _ hx)⟩
      rw [groups?, if_pos hc, ih hcs]
      · rfl
      · exact hcs.ne_nil
      · exact hcs.ne_cons (by decide)

theorem splitSign_eq (h : Digits cs) : splitSign cs = (false, cs) := by
  unfold splitSign
  split
  · exact absurd rfl (h.ne_cons (by decide) _)
  · exact absurd rfl (h.ne_cons (by decide) _)
  · rfl

theorem date?_eq (h : Digits cs) : date? cs = none := by
  unfold date?
  split
  · exact absurd (by simp) (h.not_mem (c := '-') (by decide))
  · rfl

theorem time?_eq (h : Digits cs) : time? cs = none := by
  have hclock : clock? cs = none := by
    unfold clock?
    split
    · exact absurd (by simp) (h.not_mem (c := ':') (by decide))
    · rfl
  simp [time?, h.date?_eq, hclock]

theorem float?_eq (h : Digits cs) : float? cs = none := by
  have hinf : cs ≠ ['i', 'n', 'f'] := h.ne_cons (by decide) _
  have hnan : cs ≠ ['n', 'a', 'n'] := h.ne_cons (by decide) _
  have hdrop : cs.dropWhile (fun c => decide (c ≠ '.') && !isExponentMark c) = [] := by
    rw [List.dropWhile_eq_nil_iff]
    intro c hc
    have hpoint : c ≠ '.' := ne_of_mem_of_not_mem hc (h.not_mem (by decide))
    have he : c ≠ 'e' := ne_of_mem_of_not_mem hc (h.not_mem (by decide))
    have hE : c ≠ 'E' := ne_of_mem_of_not_mem hc (h.not_mem (by decide))
    simp [isExponentMark, hpoint, he, hE]
  simp only [float?, h.splitSign_eq, hinf, hnan, hdrop, or_self, ↓reduceIte]
  cases wholeDigits? (cs.takeWhile fun c => decide (c ≠ '.') && !isExponentMark c) <;> rfl

theorem wholeDigits?_eq (h : Digits cs) (hzero : ∀ d rest, cs ≠ '0' :: d :: rest) :
    wholeDigits? cs = some cs := by
  rw [wholeDigits?, h.groups?_eq]
  split
  · rename_i heq
    exact absurd (Option.some.inj heq) (hzero _ _)
  · rfl

/-- Digits have no sign, whatever is done with their number. -/
theorem unsigned_eq (h : Digits cs) (hzero : ∀ d rest, cs ≠ '0' :: d :: rest)
    (use : Int → Option Toml) :
    (do
      let (negative, cs) := splitSign cs
      let digits ← wholeDigits? cs
      let n : Int := Text.decimalValue digits
      use (if negative then -n else n)) = use (Text.decimalValue cs) := by
  simp [h.splitSign_eq, h.wholeDigits?_eq hzero]

theorem integer?_eq (h : Digits cs) (hzero : ∀ d rest, cs ≠ '0' :: d :: rest) :
    integer? cs = word? (Text.decimalValue cs) := by
  unfold integer?
  split
  · exact absurd rfl (hzero _ _)
  · exact absurd rfl (hzero _ _)
  · exact absurd rfl (hzero _ _)
  · exact h.unsigned_eq hzero word?

/-- Digits without an idle zero are read as their number. -/
theorem scalar?_eq (h : Digits cs) (hzero : ∀ d rest, cs ≠ '0' :: d :: rest) :
    scalar? cs = word? (Text.decimalValue cs) := by
  have htrue : cs ≠ ['t', 'r', 'u', 'e'] := h.ne_cons (by decide) _
  have hfalse : cs ≠ ['f', 'a', 'l', 's', 'e'] := h.ne_cons (by decide) _
  rw [scalar?, if_neg htrue, if_neg hfalse, h.time?_eq, h.float?_eq, h.integer?_eq hzero,
    Option.orElse_none, Option.orElse_none]

end Digits

/-! ### Numbers in decimal digits -/

variable (n : Nat)

theorem digits_toDigits : Digits (Nat.toDigits 10 n) :=
  ⟨Nat.toDigits_ne_nil, fun _ => Nat.isDigit_of_mem_toDigits (by decide) (by decide)⟩

theorem scalar?_toDigits (h : n < twoTo 63) : scalar? (Nat.toDigits 10 n) = some (.integer n) := by
  have hzero (d : Char) (rest : List Char) : Nat.toDigits 10 n ≠ '0' :: d :: rest := by
    by_cases hn : n = 0
    · simp [hn]
    · exact Text.toDigits_ne_zero_cons n _ hn
  rw [(digits_toDigits n).scalar?_eq hzero, Text.decimalValue_toDigits]
  exact if_pos (by omega)

end SceneRelay.Toml
