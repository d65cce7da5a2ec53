import Mathlib.Data.String.Basic
import Mathlib.Tactic.Common
import SceneRelay.Toml.Printer
import SceneRelay.Toml.Quoted

/-! Strings read back from whichever of the four quoted forms they are written in. -/
namespace SceneRelay.Toml

/-! ### Characters -/

/-- The escape of a character by two digits stands for it. -/
theorem codePoint?_hexUpper : ∀ n < 128,
    codePoint? ['0', '0', hexUpper (n / 16), hexUpper (n % 16)] = some (Char.ofNat n) := by decide

theorem toNat_lt_of_isControl {c : Char} (h : isControl c) : c.toNat < 128 := by
  simp only [isControl, Bool.or_eq_true, Bool.and_eq_true, decide_eq_true_eq, beq_iff_eq] at h
  obtain ⟨⟨hc, -⟩, -⟩ | rfl := h
  · have hlt : c.toNat < 32 := hc
    omega
  · decide

theorem isPlain_of_not_isControl {c : Char} (h : isControl c = false) (hn : c ≠ '\n') :
    isPlain c := by
  simp only [isControl, Bool.or_eq_false_iff, Bool.and_eq_false_iff, decide_eq_false_iff_not,
    not_lt, ne_eq, not_not, beq_eq_false_iff_ne] at h
  simp only [isPlain, Bool.or_eq_true, Bool.and_eq_true, decide_eq_true_eq, beq_iff_eq]
  obtain ⟨(hc | ht) | hn', hdel⟩ := h
  · exact .inr ⟨hc, hdel⟩
  · exact .inl ht
  · exact absurd hn' hn

theorem ne_of_isPlain {c : Char} (h : isPlain c) : c ≠ '\r' := by
  rintro rfl
  exact absurd h (by decide)

/-- A character other than quote and line break is written as a short escape, by its number, or as
itself. -/
theorem escapeChar_cases {c : Char} (hn : c ≠ '\n') :
    (∃ e, escapeChar c = ['\\', e] ∧ unescape? e = some c ∧ e ≠ 'u' ∧ e ≠ 'U') ∨
    (∃ a b, escapeChar c = ['\\', 'u', '0', '0', a, b] ∧ codePoint? ['0', '0', a, b] = some c) ∨
    escapeChar c = [c] ∧ isPlain c ∧ c ≠ '\\' ∧ c ≠ '\r' := by
  unfold escapeChar
  split
  case h_6 _ _ _ hr hslash =>
    split
    · rename_i hc
      refine .inr (.inl ⟨_, _, rfl, ?_⟩)
      rw [codePoint?_hexUpper _ (toNat_lt_of_isControl hc), Char.ofNat_toNat]
    · rename_i hc
      exact .inr (.inr ⟨rfl, isPlain_of_not_isControl (by simpa using hc) hn, hslash, hr⟩)
  all_goals exact .inl ⟨_, rfl, rfl, by decide, by decide⟩

theorem escaped_other {c : Char} (cs : List Char) (lines : Bool) (run : Nat) (hquote : c ≠ '"')
    (hn : c ≠ '\n') : escaped lines run (c :: cs) = escapeChar c ++ escaped lines 0 cs := by
  rw [escaped] <;> simpa

theorem escaped_quote {run : Nat} (cs : List Char) (h : run < 2) :
    escaped true run ('"' :: cs) = '"' :: escaped true (run + 1) cs := by
  simp [escaped, h]

/-- What is written for a character begins with a quote only on several lines and after fewer than
two others, and with a line break only for one. -/
theorem escaped_cons_eq (lines : Bool) (run : Nat) {c : Char} (cs : List Char)
    (h : lines → run < 2 → c ≠ '"') :
    ∃ x t, escaped lines run (c :: cs) = x :: t ∧ x ≠ '"' ∧ x ≠ '\r' ∧ (x = '\n' → c = '\n') := by
  by_cases hquote : c = '"'
  · subst hquote
    have hrun : ¬ (lines ∧ run < 2) := fun ⟨hl, hr⟩ => h hl hr rfl
    exact ⟨'\\', '"' :: escaped lines 0 cs, by rw [escaped, if_neg hrun], by decide⟩
  · by_cases hn : c = '\n'
    · subst hn
      cases lines
      · exact ⟨'\\', 'n' :: escaped false 0 cs, rfl, by decide⟩
      · exact ⟨'\n', escaped true 0 cs, rfl, by decide⟩
    · rw [escaped_other cs lines run hquote hn]
      obtain ⟨e, he, -⟩ | ⟨a, b, he, -⟩ | ⟨he, -, -, hr⟩ := escapeChar_cases hn
      · exact ⟨'\\', _, by rw [he]; rfl, by decide, by decide, by simp⟩
      · exact ⟨'\\', _, by rw [he]; rfl, by decide, by decide, by simp⟩
      · exact ⟨c, _, by rw [he]; rfl, hquote, hr, id⟩

/-! ### Double quotes on one line -/

section
variable (done rest : List Char)

theorem basicBody_plain {c : Char} (hquote : c ≠ '"') (hslash : c ≠ '\\') (hc : isPlain c) :
    basicBody done (c :: rest) = basicBody (c :: done) rest := by
  rw [basicBody.eq_def]
  split
  case h_6 heq =>
    cases heq
    exact if_pos hc
  all_goals simp_all

theorem basicBody_short {e c : Char} (h : unescape? e = some c) (hu : e ≠ 'u') (hU : e ≠ 'U') :
    basicBody done ('\\' :: e :: rest) = basicBody (c :: done) rest := by
  rw [basicBody.eq_def]
  split
  case h_5 heq =>
    cases heq
    simp only [h]
  case h_6 hother heq =>
    cases heq
    exact absurd rfl (hother _ _ rfl)
  all_goals simp_all

theorem basicBody_escapeChar {c : Char} (hquote : c ≠ '"') (hn : c ≠ '\n') :
    basicBody done (escapeChar c ++ rest) = basicBody (c :: done) rest := by
  obtain ⟨e, he, hc, hu, hU⟩ | ⟨a, b, he, hc⟩ | ⟨he, hc, hslash, -⟩ := escapeChar_cases hn
  · rw [he]
    exact basicBody_short done rest hc hu hU
  · simp [he, basicBody, hc]
  · rw [he]
    exact basicBody_plain done rest hquote hslash hc

/-- What is written between double quotes is read, up to the closing quote. -/
theorem basicBody_escaped (cs : List Char) (run : Nat) :
    basicBody done (escaped false run cs ++ '"' :: rest) =
      some (String.ofList (done.reverse ++ cs), rest) := by
  induction cs generalizing done run with
  | nil => simp [escaped, basicBody]
  | cons c cs ih =>
    by_cases hquote : c = '"'
    · subst hquote
      simp [escaped, basicBody, unescape?, ih]
    · by_cases hn : c = '\n'
      · subst hn
        simp [escaped, basicBody, unescape?, ih]
      · rw [escaped_other cs false run hquote hn, List.append_assoc,
          basicBody_escapeChar _ _ hquote hn, ih]
        simp

end

/-! ### Single quotes on one line -/

theorem literalBody_append {cs : List Char} (done rest : List Char)
    (h : ∀ c ∈ cs, c ≠ '\'' ∧ isPlain c) :
    literalBody done (cs ++ '\'' :: rest) = some (String.ofList (done.reverse ++ cs), rest) := by
  induction cs generalizing done with
  | nil => simp [literalBody]
  | cons c cs ih =>
    obtain ⟨⟨hquote, hc⟩, hcs⟩ := List.forall_mem_cons.mp h
    rw [List.cons_append, literalBody.eq_def]
    split
    case h_3 heq =>
      cases heq
      rw [if_pos hc, ih _ hcs]
      simp
    all_goals simp_all

/-! ### Runs of quotes -/

section
variable {q : Char}

theorem le_longestRun (q : Char) (now : Nat) (cs : List Char) : now ≤ longestRun q now cs := by
  induction cs generalizing now with
  | nil => exact le_rfl
  | cons c cs ih =>
    rw [longestRun]
    split
    · exact (Nat.le_succ now).trans (ih _)
    · exact le_max_left ..

/-- A text without a run of some quote is one without that quote. -/
theorem not_mem_of_longestRun_eq_zero {cs : List Char} (h : longestRun q 0 cs = 0) : q ∉ cs := by
  induction cs with
  | nil => simp
  | cons c cs ih =>
    rw [longestRun] at h
    split at h
    · have hpos := le_longestRun q (0 + 1) cs
      omega
    · rename_i hc
      have hcs : longestRun q 0 cs = 0 := by omega
      simp [Ne.symm hc, ih hcs]

end

/-! ### Double quotes on several lines -/

section
variable (done rest : List Char)

theorem basicLines_quote (h : ∀ t, rest ≠ '"' :: '"' :: t) :
    basicLines false done ('"' :: rest) = basicLines false ('"' :: done) rest := by
  rw [basicLines.eq_def]
  split
  case h_10 heq =>
    cases heq
    rfl
  all_goals simp_all

theorem basicLines_plain {c : Char} (hquote : c ≠ '"') (hslash : c ≠ '\\') (hn : c ≠ '\n')
    (hr : c ≠ '\r') (hc : isPlain c) :
    basicLines false done (c :: rest) = basicLines false (c :: done) rest := by
  rw [basicLines.eq_def]
  split
  case h_10 heq =>
    cases heq
    simp [hc]
  all_goals simp_all

theorem basicLines_short {e c : Char} (h : unescape? e = some c) (hu : e ≠ 'u') (hU : e ≠ 'U') :
    basicLines false done ('\\' :: e :: rest) = basicLines false (c :: done) rest := by
  rw [basicLines.eq_def]
  split
  case h_7 heq =>
    cases heq
    simp only [h]
  case h_10 hother _ _ heq =>
    cases heq
    exact absurd rfl (hother _ _ rfl)
  all_goals simp_all

theorem basicLines_escapeChar {c : Char} (hquote : c ≠ '"') (hn : c ≠ '\n') :
    basicLines false done (escapeChar c ++ rest) = basicLines false (c :: done) rest := by
  obtain ⟨e, he, hc, hu, hU⟩ | ⟨a, b, he, hc⟩ | ⟨he, hc, hslash, hr⟩ := escapeChar_cases hn
  · rw [he]
    exact basicLines_short done rest hc hu hU
  · simp [he, basicLines, hc]
  · rw [he]
    exact basicLines_plain done rest hquote hslash hn hr hc

end

/-- After one or two quotes, what is still written begins with two more only if these are among the
closing ones, or the first of them is the end of the text. -/
theorem eq_of_escaped_quotes {run : Nat} {cs rest t : List Char} (hrun : 0 < run)
    (h : escaped true run cs ++ '"' :: '"' :: '"' :: rest = '"' :: '"' :: t) :
    cs = [] ∨ run = 1 ∧ cs = ['"'] := by
  match cs with
  | [] => exact .inl rfl
  | c :: cs =>
    by_cases hc : run < 2 → c ≠ '"'
    · obtain ⟨x, u, hx, hne, -⟩ := escaped_cons_eq true run cs fun _ => hc
      rw [hx, List.cons_append] at h
      exact absurd (List.cons.inj h).1 hne
    · obtain ⟨hlt, rfl⟩ : run < 2 ∧ c = '"' := by simpa using hc
      refine .inr ⟨by omega, ?_⟩
      match cs with
      | [] => rfl
      | d :: cs =>
        have hd : true → run + 1 < 2 → d ≠ '"' := by omega
        obtain ⟨x, u, hx, hne, -⟩ := escaped_cons_eq true (run + 1) cs hd
        simp [escaped_quote _ hlt, hx, hne] at h

/-- What is written between three double quotes is read, up to the closing ones. -/
theorem basicLines_escaped (done rest cs : List Char) (run : Nat) :
    basicLines false done (escaped true run cs ++ '"' :: '"' :: '"' :: '\n' :: rest) =
      some (String.ofList (done.reverse ++ cs), '\n' :: rest) := by
  induction cs generalizing done run with
  | nil => simp [escaped, basicLines]
  | cons c cs ih =>
    by_cases hquote : c = '"'
    · subst hquote
      by_cases hrun : run < 2
      · rw [escaped_quote cs hrun, List.cons_append]
        by_cases hquotes : ∃ t,
            escaped true (run + 1) cs ++ '"' :: '"' :: '"' :: '\n' :: rest = '"' :: '"' :: t
        · -- the text ends here, with one quote or two before the closing ones
          obtain ⟨t, ht⟩ := hquotes
          obtain rfl | ⟨hone, rfl⟩ := eq_of_escaped_quotes (Nat.succ_pos run) ht
          · simp [escaped, basicLines]
          · have hzero : run = 0 := by omega
            simp [hzero, escaped, basicLines]
        · rw [basicLines_quote _ _ (not_exists.mp hquotes), ih]
          simp
      · simp [escaped, hrun, basicLines, unescape?, ih]
    · by_cases hn : c = '\n'
      · subst hn
        simp [escaped, basicLines, ih]
      · rw [escaped_other cs true run hquote hn, List.append_assoc,
          basicLines_escapeChar _ _ hquote hn, ih]
        simp

/-! ### Single quotes on several lines -/

theorem literalLines_quote {done rest : List Char} (h : ∀ t, rest ≠ '\'' :: '\'' :: t) :
    literalLines done ('\'' :: rest) = literalLines ('\'' :: done) rest := by
  rw [literalLines.eq_def]
  split
  case h_7 heq =>
    cases heq
    rfl
  all_goals simp_all

theorem literalLines_plain {done rest : List Char} {c : Char} (hquote : c ≠ '\'') (hn : c ≠ '\n')
    (hc : isPlain c) : literalLines done (c :: rest) = literalLines (c :: done) rest := by
  have hr : c ≠ '\r' := ne_of_isPlain hc
  rw [literalLines.eq_def]
  split
  case h_7 heq =>
    cases heq
    exact if_pos hc
  all_goals simp_all

/-- A text without three single quotes in a row is read between three of them. -/
theorem literalLines_append {cs : List Char} (done rest : List Char) {run : Nat}
    (hrun : longestRun '\'' run cs ≤ 2) (h : ∀ c ∈ cs, c ≠ '\n' → isPlain c) :
    literalLines done (cs ++ '\'' :: '\'' :: '\'' :: '\n' :: rest) =
      some (String.ofList (done.reverse ++ cs), '\n' :: rest) := by
  induction cs generalizing done run with
  | nil => simp [literalLines]
  | cons c cs ih =>
    obtain ⟨hc, hcs⟩ := List.forall_mem_cons.mp h
    rw [longestRun] at hrun
    split at hrun
    · rename_i hquote
      subst hquote
      rw [List.cons_append]
      by_cases hquotes : ∃ t, cs ++ '\'' :: '\'' :: '\'' :: '\n' :: rest = '\'' :: '\'' :: t
      · obtain ⟨t, ht⟩ := hquotes
        match cs, ht with
        | [], _ => simp [literalLines]
        | [_], ht =>
          obtain ⟨rfl, -⟩ := List.cons.inj ht
          simp [literalLines]
        | _ :: _ :: cs, ht =>
          -- a third quote would make the run too long
          simp only [List.cons_append, List.cons.injEq] at ht
          obtain ⟨rfl, rfl, -⟩ := ht
          have hlong := le_longestRun '\'' (run + 1 + 1 + 1) cs
          simp only [longestRun, ↓reduceIte] at hrun
          omega
      · rw [literalLines_quote (not_exists.mp hquotes), ih _ hrun hcs]
        simp
    · rename_i hquote
      by_cases hn : c = '\n'
      · subst hn
        simp [literalLines, ih _ (le_trans (le_max_right ..) hrun) hcs]
      · rw [List.cons_append, literalLines_plain hquote hn (hc hn),
          ih _ (le_trans (le_max_right ..) hrun) hcs]
        simp

/-! ### All forms -/

section
variable (cs rest : List Char)

theorem quoted?_basic :
    quoted? ('"' :: (escaped false 0 cs ++ '"' :: '\n' :: rest)) =
      some (String.ofList cs, '\n' :: rest) := by
  have hone : quoted? ('"' :: (escaped false 0 cs ++ '"' :: '\n' :: rest)) =
      basicBody [] (escaped false 0 cs ++ '"' :: '\n' :: rest) := by
    match cs with
    | [] => rfl
    | c :: cs =>
      obtain ⟨x, t, hx, hne, -⟩ := escaped_cons_eq false 0 (c := c) cs (by simp)
      simp [hx, quoted?, hne]
  rw [hone, basicBody_escaped]
  rfl

theorem quoted?_literal (h : ∀ c ∈ cs, c ≠ '\'' ∧ isPlain c) :
    quoted? ('\'' :: (cs ++ '\'' :: '\n' :: rest)) = some (String.ofList cs, '\n' :: rest) := by
  have hone : quoted? ('\'' :: (cs ++ '\'' :: '\n' :: rest)) =
      literalBody [] (cs ++ '\'' :: '\n' :: rest) := by
    match cs with
    | [] => rfl
    | c :: cs =>
      have hc := (h c List.mem_cons_self).1
      simp [quoted?, hc]
  rw [hone, literalBody_append _ _ h]
  rfl

theorem skipBreak_cons {c : Char} (hn : c ≠ '\n') (hr : c ≠ '\r') :
    skipBreak (c :: cs) = c :: cs := by
  rw [skipBreak.eq_def]
  split <;> simp_all

/-- The line break after three opening quotes is the only one that is passed over. -/
theorem skipBreak_append {lineBreak : Bool} (body : List Char)
    (h : lineBreak = false → ∀ x t, body = x :: t → x ≠ '\n' ∧ x ≠ '\r') :
    skipBreak ((if lineBreak then ['\n'] else []) ++ body) = body := by
  cases lineBreak with
  | true => rfl
  | false =>
    match body with
    | [] => rfl
    | x :: t =>
      obtain ⟨hn, hr⟩ := h rfl x t rfl
      exact skipBreak_cons t hn hr

theorem quoted?_inLines_escaped {lineBreak : Bool} (h : '\n' ∈ cs → lineBreak) :
    quoted? (inLines '"' lineBreak (escaped true 0 cs) ++ '\n' :: rest) =
      some (String.ofList cs, '\n' :: rest) := by
  have hopen : quoted? (inLines '"' lineBreak (escaped true 0 cs) ++ '\n' :: rest) =
      basicLines false [] (skipBreak ((if lineBreak then ['\n'] else []) ++
        (escaped true 0 cs ++ '"' :: '"' :: '"' :: '\n' :: rest))) := by
    simp [inLines, quoted?]
  rw [hopen, skipBreak_append, basicLines_escaped]
  · rfl
  · rintro rfl x t hx
    match cs with
    | [] => obtain ⟨rfl, -⟩ := List.cons.inj hx; decide
    | c :: cs =>
      have hn : c ≠ '\n' := by rintro rfl; simp at h
      by_cases hquote : c = '"'
      · subst hquote
        rw [escaped_quote cs Nat.two_pos, List.cons_append, List.cons.injEq] at hx
        obtain ⟨rfl, -⟩ := hx
        decide
      · obtain ⟨y, u, hy, -, hr, hbreak⟩ :=
          escaped_cons_eq true 0 cs fun _ _ => hquote
        rw [hy, List.cons_append, List.cons.injEq] at hx
        obtain ⟨rfl, -⟩ := hx
        exact ⟨mt hbreak hn, hr⟩

theorem quoted?_inLines_self {lineBreak : Bool} (h : '\n' ∈ cs → lineBreak)
    (hrun : longestRun '\'' 0 cs ≤ 2) (hplain : ∀ c ∈ cs, c ≠ '\n' → isPlain c) :
    quoted? (inLines '\'' lineBreak cs ++ '\n' :: rest) =
      some (String.ofList cs, '\n' :: rest) := by
  have hopen : quoted? (inLines '\'' lineBreak cs ++ '\n' :: rest) =
      literalLines [] (skipBreak ((if lineBreak then ['\n'] else []) ++
        (cs ++ '\'' :: '\'' :: '\'' :: '\n' :: rest))) := by
    simp [inLines, quoted?]
  rw [hopen, skipBreak_append, literalLines_append _ _ hrun hplain]
  · rfl
  · rintro rfl x t hx
    match cs with
    | [] => obtain ⟨rfl, -⟩ := List.cons.inj hx; decide
    | c :: cs =>
      obtain ⟨rfl, -⟩ := List.cons.inj hx
      have hn : c ≠ '\n' := by rintro rfl; simp at h
      exact ⟨hn, ne_of_isPlain (hplain _ List.mem_cons_self hn)⟩

end

/-- A string is read from the form that is chosen for it, at the end of a line. -/
theorem quoted?_renderString (s : String) (rest : List Char) :
    quoted? (renderString s ++ '\n' :: rest) = some (s, '\n' :: rest) := by
  have hs : String.ofList s.toList = s := String.ofList_toList
  have hplain (h : (traits s.toList).control = false) :
      ∀ c ∈ s.toList, c ≠ '\n' → isPlain c := fun c hc hn =>
    isPlain_of_not_isControl (by simpa using List.any_eq_false.mp h c hc) hn
  have hbreak : '\n' ∈ s.toList → (traits s.toList).lineBreak := List.contains_iff_mem.mpr
  have hbasic : quoted? ('"' :: (escaped false 0 s.toList ++ ['"']) ++ '\n' :: rest) =
      some (s, '\n' :: rest) := by
    simpa using quoted?_basic s.toList rest
  unfold renderString
  dsimp only
  split
  · exact hbasic
  · split
    · rename_i h
      simp only [Bool.and_eq_true, Bool.not_eq_true', decide_eq_true_eq] at h
      obtain ⟨⟨hcontrol, hsingles⟩, hlines⟩ := h
      have hcs : ∀ c ∈ s.toList, c ≠ '\'' ∧ isPlain c := fun c hc =>
        ⟨ne_of_mem_of_not_mem hc (not_mem_of_longestRun_eq_zero hsingles),
          hplain hcontrol c hc (ne_of_mem_of_not_mem hc (by simpa [hlines] using hbreak))⟩
      simpa [hs] using quoted?_literal s.toList rest hcs
    · split
      · simpa [hs] using quoted?_inLines_escaped s.toList rest hbreak
      · split
        · rename_i h
          simp only [Bool.and_eq_true, Bool.not_eq_true', decide_eq_true_eq] at h
          simpa [hs] using quoted?_inLines_self s.toList rest hbreak h.2 (hplain h.1)
        · split
          · simpa [hs] using quoted?_inLines_escaped s.toList rest (fun _ => rfl)
          · exact hbasic

end SceneRelay.Toml
