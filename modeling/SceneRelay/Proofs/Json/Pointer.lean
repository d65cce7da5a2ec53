import Mathlib.Data.List.TakeWhile
import Mathlib.Data.String.Basic
import Mathlib.Tactic.Common
import SceneRelay.Json.Pointer
import SceneRelay.Proofs.Json.Ordered
import SceneRelay.Proofs.Text.Digits

/-! The text of a pointer stands for that pointer, whatever characters its tokens have: no token
brings a slash into the text, so the slashes there are those between tokens. -/
namespace SceneRelay.Json

namespace Pointer
variable {a b cs : List Char} {c : Char}

theorem escape_cons (htilde : c ≠ '~') (hslash : c ≠ '/') : escape (c :: cs) = c :: escape cs := by
  rw [escape.eq_def]
  split <;> simp_all

theorem unescape_cons (h : c ≠ '~') : unescape (c :: cs) = (unescape cs).map (c :: ·) := by
  rw [unescape.eq_def]
  split <;> simp_all

/-- Escaping is undone. -/
theorem unescape_escape (cs : List Char) : unescape (escape cs) = some cs := by
  induction cs with
  | nil => rfl
  | cons c cs ih =>
    by_cases htilde : c = '~'
    · subst htilde
      simp [escape, unescape, ih]
    · by_cases hslash : c = '/'
      · subst hslash
        simp [escape, unescape, ih]
      · rw [escape_cons htilde hslash, unescape_cons htilde, ih, Option.map_some]

theorem slash_not_mem_escape (cs : List Char) : '/' ∉ escape cs := by
  induction cs with
  | nil => simp [escape]
  | cons c cs ih =>
    by_cases htilde : c = '~'
    · subst htilde
      simp [escape, ih]
    · by_cases hslash : c = '/'
      · subst hslash
        simp [escape, ih]
      · rw [escape_cons htilde hslash]
        simp [ih, Ne.symm hslash]

theorem splitSlash_of_not_mem (h : '/' ∉ a) : splitSlash a = [a] := by
  induction a with
  | nil => rfl
  | cons c a ih =>
    obtain ⟨hc, ha⟩ := not_or.mp (mt List.mem_cons.mpr h)
    rw [splitSlash, if_neg (Ne.symm hc), ih ha]

theorem splitSlash_append (h : '/' ∉ a) (b : List Char) :
    splitSlash (a ++ '/' :: b) = a :: splitSlash b := by
  induction a with
  | nil => rfl
  | cons c a ih =>
    obtain ⟨hc, ha⟩ := not_or.mp (mt List.mem_cons.mpr h)
    rw [List.cons_append, splitSlash, if_neg (Ne.symm hc), ih ha]

/-- How a token is written. -/
def segment (token : String) : List Char := escape token.toList

theorem slash_not_mem_segment (token : String) : '/' ∉ segment token := slash_not_mem_escape _

theorem toChars_cons (token : String) (p : Pointer) :
    toChars (token :: p) = '/' :: (segment token ++ toChars p) := rfl

theorem splitSlash_segment_append (token : String) (p : Pointer) :
    splitSlash (segment token ++ toChars p) = segment token :: p.map segment := by
  induction p generalizing token with
  | nil =>
    have hnil : toChars [] = [] := rfl
    rw [hnil, List.append_nil, splitSlash_of_not_mem (slash_not_mem_segment token)]
    rfl
  | cons next p ih =>
    rw [toChars_cons, splitSlash_append (slash_not_mem_segment token), ih]
    rfl

/-- The text of a pointer is cut at its slashes into its tokens. -/
theorem splitSlash_toChars (p : Pointer) : splitSlash p.toChars = [] :: p.map segment := by
  cases p with
  | nil => rfl
  | cons token p =>
    rw [toChars_cons]
    exact congrArg ([] :: ·) (splitSlash_segment_append token p)

/-- The text of a pointer is read as that pointer. -/
theorem ofChars?_toChars (p : Pointer) : ofChars? p.toChars = some p := by
  cases p with
  | nil => rfl
  | cons token p =>
    have hread (t : String) : (unescape (segment t)).map String.ofList = some t := by
      rw [segment, unescape_escape, Option.map_some, String.ofList_toList]
    have hall (p : Pointer) :
        (p.map segment).mapM (fun part => (unescape part).map String.ofList) = some p := by
      induction p with
      | nil => rfl
      | cons t p ih =>
        rw [List.map_cons, List.mapM_cons, hread, ih]
        rfl
    rw [toChars_cons, ofChars?, splitSlash_segment_append]
    exact hall (token :: p)

end Pointer

/-! ### What pointers lead to -/

theorem indexOf?_toString (i : Nat) : indexOf? (toString i) = some i := by
  have hdigits : (toString i).toList = Nat.toDigits 10 i := Nat.toList_repr
  unfold indexOf?
  rw [hdigits]
  split
  · rename_i h
    rw [← Text.decimalValue_toDigits i, h]
    rfl
  · rename_i c cs hne h
    have hzero : c ≠ '0' := by
      rintro rfl
      by_cases hi : i = 0
      · subst hi
        cases h
        exact hne rfl rfl
      · exact Text.toDigits_ne_zero_cons i cs hi h
    have hall : (c :: cs).all Char.isDigit := by
      rw [← h, List.all_eq_true]
      exact fun d hd => Nat.isDigit_of_mem_toDigits (by decide) (by decide) hd
    rw [if_pos ⟨hzero, hall⟩, ← h, Text.decimalValue_toDigits]
  · rename_i h
    exact absurd h Nat.toDigits_ne_nil

/-- The value that one token leads to. -/
def child? (token : String) : Json → Option Json
  | object members => members.lookup token
  | array items => (indexOf? token).bind fun i => items[i]?
  | _ => none

theorem resolve?_cons (token : String) (p : Pointer) (v : Json) :
    resolve? (token :: p) v = (child? token v).bind (resolve? p) := by
  cases v with
  | object members =>
    rw [resolve?, child?]
    cases members.lookup token <;> rfl
  | array items =>
    rw [resolve?, child?]
    cases indexOf? token with
    | none => rfl
    | some i =>
      simp only [Option.bind_some]
      cases items[i]? <;> rfl
  | _ => rfl

theorem child?_toString (i : Nat) (items : List Json) :
    child? (toString i) (.array items) = items[i]? := by
  rw [child?, indexOf?_toString, Option.bind_some]

/-- A pointer leads on from where its first part leads. -/
theorem resolve?_append (p q : Pointer) (v : Json) :
    resolve? (p ++ q) v = (resolve? p v).bind (resolve? q) := by
  induction p generalizing v with
  | nil => cases v <;> rfl
  | cons token p ih =>
    rw [List.cons_append, resolve?_cons, resolve?_cons, Option.bind_assoc]
    exact congrArg _ (funext ih)

theorem Ordered.of_child? {token : String} {v w : Json} (h : Ordered v)
    (hw : child? token v = some w) : Ordered w := by
  cases h with
  | array h =>
    obtain ⟨i, -, hi⟩ := Option.bind_eq_some_iff.mp hw
    exact h w (List.mem_of_getElem? hi)
  | object _ h => exact h _ (mem_of_lookup hw)
  | _ => nomatch hw

/-- What holds of a document if it holds of the values one token below holds of all documents. -/
@[elab_as_elim]
theorem Ordered.induction {motive : (v : Json) → Ordered v → Prop}
    (part : ∀ v (h : Ordered v),
      (∀ token w (hw : child? token v = some w), motive w (h.of_child? hw)) → motive v h)
    {v : Json} (h : Ordered v) : motive v h := by
  induction h with
  | array h ih =>
    refine part _ (.array h) fun token w hw => ?_
    obtain ⟨i, -, hi⟩ := Option.bind_eq_some_iff.mp hw
    exact ih w (List.mem_of_getElem? hi)
  | object ho h ih => exact part _ (.object ho h) fun token w hw => ih _ (mem_of_lookup hw)
  | null => exact part _ .null nofun
  | bool b => exact part _ (.bool b) nofun
  | number n => exact part _ (.number n) nofun
  | string s => exact part _ (.string s) nofun

end SceneRelay.Json
