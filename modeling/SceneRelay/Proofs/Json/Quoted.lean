import Mathlib.Tactic.Common
import SceneRelay.Json.Parser
import SceneRelay.Json.Printer

/-! Quoted strings read back: each written character stands for itself, whatever follows it. -/
namespace SceneRelay.Json

/-- The four digits of a control character. -/
theorem hexNumber?_hexChar : ∀ n < 32,
    Text.hexNumber? ['0', '0', hexChar (n / 16), hexChar (n % 16)] = some n := by decide

theorem toNat_lt_of_lt_space {c : Char} (h : c < ' ') : c.toNat < 32 := h

/-- A character that needs no escape stands for itself. -/
theorem stringBody_plain {c : Char} (hquote : c ≠ '"') (hslash : c ≠ '\\') (hc : ¬c < ' ')
    (done rest : List Char) : stringBody done (c :: rest) = stringBody (c :: done) rest := by
  rw [stringBody.eq_def]
  split
  case h_5 heq =>
    cases heq
    exact if_neg hc
  all_goals simp_all

/-- A written character is read as that character. -/
theorem stringBody_escapeChar (done : List Char) (c : Char) (rest : List Char) :
    stringBody done (escapeChar c ++ rest) = stringBody (c :: done) rest := by
  unfold escapeChar
  split
  case h_8 hquote hslash hb hf hn hr ht =>
    split
    · rename_i hc
      have hn := toNat_lt_of_lt_space hc
      have hlow : isLowSurrogate c.toNat = false := by simp [isLowSurrogate]; omega
      have hhigh : isHighSurrogate c.toNat = false := by simp [isHighSurrogate]; omega
      simp only [List.cons_append, List.nil_append]
      rw [stringBody, hexNumber?_hexChar _ hn]
      simp [hlow, hhigh]
    · rename_i hc
      exact stringBody_plain hquote hslash hc done rest
  all_goals simp [stringBody, unescape?]

theorem stringBody_flatMap (done cs rest : List Char) :
    stringBody done (cs.flatMap escapeChar ++ '"' :: rest) =
      some (String.ofList (done.reverse ++ cs), rest) := by
  induction cs generalizing done with
  | nil => simp [stringBody]
  | cons c cs ih =>
    rw [List.flatMap_cons, List.append_assoc, stringBody_escapeChar, ih]
    simp

/-- What follows the opening quote of a written string is read as that string. -/
theorem stringBody_quote (s : String) (rest : List Char) :
    stringBody [] (s.toList.flatMap escapeChar ++ '"' :: rest) = some (s, rest) := by
  rw [stringBody_flatMap, List.reverse_nil, List.nil_append, String.ofList_toList]

end SceneRelay.Json
