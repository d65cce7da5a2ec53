import Mathlib.Data.List.Induction
import Mathlib.Tactic.Common
import SceneRelay.Text.Digits

/-! Numbers written in decimal digits: they are read back, only zero begins with a zero, and any
digits are those of the number that they stand for, with zeros in front. -/
namespace SceneRelay.Text
variable {c : Char} {cs : List Char} {n : Nat}

theorem decimalValue_toDigits (n : Nat) : decimalValue (Nat.toDigits 10 n) = n :=
  Nat.ofDigitChars_toDigits (by decide) (by decide)

/-- Only zero itself begins with the digit zero. -/
theorem toDigits_ne_zero_cons (n : Nat) (rest : List Char) (hn : n ≠ 0) :
    Nat.toDigits 10 n ≠ '0' :: rest := by
  induction n using Nat.strongRecOn generalizing rest with
  | ind n ih =>
    by_cases hlt : n < 10
    · rw [Nat.toDigits_of_lt_base hlt]
      have hdigit : n.digitChar ≠ '0' := by
        rw [ne_eq, Nat.digitChar_eq_zero]
        exact hn
      simp [hdigit]
    · rw [Nat.toDigits_of_base_le (by decide) (by omega)]
      have hdiv := ih (n / 10) (by omega)
      match hdigits : Nat.toDigits 10 (n / 10) with
      | [] => exact absurd hdigits Nat.toDigits_ne_nil
      | c :: cs =>
        rintro heq
        obtain ⟨rfl, -⟩ := List.cons.inj heq
        exact hdiv cs (by omega) hdigits

/-! ### Zeros in front -/

theorem decimalValue_concat (cs : List Char) (c : Char) :
    decimalValue (cs ++ [c]) = 10 * decimalValue cs + digitValue c := by
  rw [decimalValue, List.foldl_append]
  rfl

theorem decimalValue_zeros_append (zeros : Nat) (cs : List Char) :
    decimalValue (List.replicate zeros '0' ++ cs) = decimalValue cs := by
  have hzeros : decimalValue (List.replicate zeros '0') = 0 := Nat.ofDigitChars_replicate_zero
  unfold decimalValue at hzeros ⊢
  rw [List.foldl_append, hzeros]

theorem digitValue_lt (h : c.isDigit) : digitValue c < 10 := by
  obtain ⟨-, hhigh⟩ := Char.isDigit_iff_toNat.mp h
  have : '9'.toNat - '0'.toNat < 10 := by decide
  unfold digitValue
  omega

theorem digitChar_digitValue (h : c.isDigit) : (digitValue c).digitChar = c := by
  have hchar : ∀ d < 10, d.digitChar = Char.ofNat (d + '0'.toNat) := by decide
  obtain ⟨hlow, -⟩ := Char.isDigit_iff_toNat.mp h
  rw [hchar _ (digitValue_lt h), digitValue, Nat.sub_add_cancel hlow, Char.ofNat_toNat]

theorem exists_zeros_append_toDigits (hne : cs ≠ []) (hdigits : ∀ c ∈ cs, c.isDigit) :
    ∃ zeros, cs = List.replicate zeros '0' ++ Nat.toDigits 10 (decimalValue cs) := by
  induction cs using List.reverseRecOn with
  | nil => exact absurd rfl hne
  | append_singleton cs c ih =>
    obtain ⟨hcs, hc⟩ : (∀ d ∈ cs, d.isDigit) ∧ c.isDigit := by
      simpa [or_imp, forall_and] using hdigits
    have hlast : Nat.toDigits 10 (digitValue c) = [c] := by
      rw [Nat.toDigits_of_lt_base (digitValue_lt hc), digitChar_digitValue hc]
    rw [decimalValue_concat]
    rcases Nat.eq_zero_or_pos (decimalValue cs) with hzero | hpos
    · -- All digits before the last one are zeros, and none of them is a digit of the number.
      obtain ⟨zeros, hzeros⟩ : ∃ zeros, cs = List.replicate zeros '0' := by
        by_cases hempty : cs = []
        · exact ⟨0, hempty⟩
        · obtain ⟨zeros, hzeros⟩ := ih hempty hcs
          rw [hzero, Nat.toDigits_zero, ← List.replicate_succ'] at hzeros
          exact ⟨zeros + 1, hzeros⟩
      refine ⟨zeros, ?_⟩
      rw [hzero, Nat.mul_zero, Nat.zero_add, hlast, ← hzeros]
    · have hempty : cs ≠ [] := by
        rintro rfl
        exact absurd hpos (by decide)
      obtain ⟨zeros, hzeros⟩ := ih hempty hcs
      refine ⟨zeros, ?_⟩
      rw [← Nat.toDigits_append_toDigits (by decide) hpos (digitValue_lt hc), hlast,
        ← List.append_assoc, ← hzeros]

/-- Digits stand for a number if they are its own with any zeros in front. -/
theorem decimalValue_eq_iff : cs ≠ [] ∧ (∀ c ∈ cs, c.isDigit) ∧ decimalValue cs = n ↔
    ∃ zeros, cs = List.replicate zeros '0' ++ Nat.toDigits 10 n := by
  constructor
  · rintro ⟨hne, hdigits, rfl⟩
    exact exists_zeros_append_toDigits hne hdigits
  · rintro ⟨zeros, rfl⟩
    refine ⟨List.append_ne_nil_of_right_ne_nil _ Nat.toDigits_ne_nil, fun c hc => ?_, ?_⟩
    · obtain hzero | hdigit := List.mem_append.mp hc
      · rw [List.eq_of_mem_replicate hzero]
        decide
      · exact Nat.isDigit_of_mem_toDigits (by decide) (by decide) hdigit
    · rw [decimalValue_zeros_append, decimalValue_toDigits]

end SceneRelay.Text
