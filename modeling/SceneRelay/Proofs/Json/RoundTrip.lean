import Mathlib.Data.String.Basic
import SceneRelay.Proofs.Json.Number
import SceneRelay.Proofs.Json.Quoted

/-! The compact text of a document stands for that document, if its numbers do, its objects are in
order and it is not too deep. -/
namespace SceneRelay

/-- The text of a number stands for that number. -/
def JsonNumber.ReadsBack (n : JsonNumber) : Prop :=
  Json.number? (Json.renderNumber n) = some (.number n, [])

/-- Reads the text of a number and compares. -/
def JsonNumber.readsBack (n : JsonNumber) : Bool :=
  match Json.number? (Json.renderNumber n) with
  | some (.number m, []) => m = n
  | _ => false

theorem JsonNumber.readsBack_iff {n : JsonNumber} : n.readsBack ↔ n.ReadsBack := by
  unfold readsBack ReadsBack
  split
  · rename_i h
    simp [h]
  · rename_i h
    exact iff_of_false Bool.false_ne_true (h n)

instance : DecidablePred JsonNumber.ReadsBack := fun _ =>
  decidable_of_iff _ JsonNumber.readsBack_iff

namespace Json

/-- The members have distinct names in ascending order. -/
def Ascending (members : List (String × Json)) : Prop := members.Pairwise fun m n => m.1 < n.1

/-- Documents with at most `depth` containers in each other, objects in order, and numbers that read
back. -/
inductive Readable : Nat → Json → Prop
  | null (depth) : Readable depth .null
  | bool (depth b) : Readable depth (.bool b)
  | number (depth) {n} (h : n.ReadsBack) : Readable depth (.number n)
  | string (depth s) : Readable depth (.string s)
  | array {depth items} (h : ∀ v ∈ items, Readable depth v) : Readable (depth + 1) (.array items)
  | object {depth members} (ho : Ascending members) (h : ∀ m ∈ members, Readable depth m.2) :
      Readable (depth + 1) (.object members)

/-! ### Objects in order -/

theorem ascending_iff {members : List (String × Json)} :
    Ascending members ↔ (members.map Prod.fst).Pairwise (· < ·) := List.pairwise_map.symm

theorem insertMember_of_lt {name : String} {v : Json} {members : List (String × Json)}
    (h : ∀ m ∈ members, m.1 < name) : insertMember name v members = members ++ [(name, v)] := by
  induction members with
  | nil => rfl
  | cons m members ih =>
    obtain ⟨hm, hmembers⟩ := List.forall_mem_cons.mp h
    rw [insertMember, if_neg (ne_of_lt hm), if_neg (lt_asymm hm), ih hmembers, List.cons_append]

/-- Members in order are kept as they are. -/
theorem ofMembers_of_ascending {members : List (String × Json)} (h : Ascending members) :
    ofMembers members = .object members := by
  have hfold (done rest : List (String × Json)) (hp : Ascending (done ++ rest)) :
      rest.foldl (fun acc m => insertMember m.1 m.2 acc) done = done ++ rest := by
    induction rest generalizing done with
    | nil => simp
    | cons m rest ih =>
      have hlt : ∀ n ∈ done, n.1 < m.1 := fun n hn =>
        (List.pairwise_append.mp hp).2.2 n hn m List.mem_cons_self
      rw [List.foldl_cons, insertMember_of_lt hlt, ih _ (by simpa using hp)]
      simp
  exact congrArg object (hfold [] members h)

/-! ### Items between commas -/

/-- Written items with commas between them. -/
def joined {α : Type} (write : α → List Char) : List α → List Char
  | [] => []
  | [x] => write x
  | x :: xs => write x ++ ',' :: joined write xs

def renderMember (m : String × Json) : List Char := quote m.1 ++ ':' :: render m.2

theorem renderItems_eq (items : List Json) : renderItems items = joined render items := by
  induction items with
  | nil => rfl
  | cons v items ih =>
    cases items with
    | nil => rfl
    | cons w items => rw [renderItems, joined, ih] <;> simp

theorem renderMembers_eq (members : List (String × Json)) :
    renderMembers members = joined renderMember members := by
  induction members with
  | nil => rfl
  | cons m members ih =>
    cases members with
    | nil => rfl
    | cons n members => rw [renderMembers, joined, ih] <;> simp [renderMember]

/-- The text begins with a character that is no blank and closes nothing. -/
def Opens (cs : List Char) : Prop :=
  ∃ c cs', cs = c :: cs' ∧ isBlank c = false ∧ c ≠ ']' ∧ c ≠ '}'

variable {α : Type} {write : α → List Char} {item : List Char → Option (α × List Char)}
  {close : Char} {cs rest : List Char} {xs : List α} {x : α}

theorem skipBlank_cons {c : Char} (h : isBlank c = false) : skipBlank (c :: cs) = c :: cs :=
  List.dropWhile_cons_of_neg (by simp [h])

theorem Opens.append (h : Opens cs) (rest : List Char) : Opens (cs ++ rest) := by
  obtain ⟨c, cs', rfl, hc⟩ := h
  exact ⟨c, cs' ++ rest, rfl, hc⟩

theorem Opens.skipBlank (h : Opens cs) : skipBlank cs = cs := by
  obtain ⟨c, cs', rfl, hc, -⟩ := h
  exact skipBlank_cons hc

/-- An item is written so that it opens, and is read before any text that does not go on with a
number. -/
structure ReadsItem (write : α → List Char) (item : List Char → Option (α × List Char)) (x : α) :
    Prop where
  opens : Opens (write x)
  reads : ∀ rest, Ends rest → item (write x ++ rest) = some (x, rest)

theorem opens_joined (h : ∀ x ∈ xs, ReadsItem write item x) (hne : xs ≠ []) :
    Opens (joined write xs) := by
  cases xs with
  | nil => exact absurd rfl hne
  | cons x xs =>
    have hx := (h x List.mem_cons_self).opens
    cases xs with
    | nil => exact hx
    | cons y xs => exact hx.append _

theorem length_le_joined (h : ∀ x ∈ xs, ReadsItem write item x) :
    xs.length ≤ (joined write xs).length := by
  induction xs with
  | nil => exact Nat.le_refl 0
  | cons x xs ih =>
    obtain ⟨hx, hxs⟩ := List.forall_mem_cons.mp h
    obtain ⟨c, cs, hc, -⟩ := hx.opens
    cases xs with
    | nil => simp [joined, hc]
    | cons y xs =>
      have hlength := ih hxs
      simp only [joined, hc, List.length_append, List.length_cons] at hlength ⊢
      omega

/-- A character that closes a container. -/
def Closes (close : Char) : Prop := close = ']' ∨ close = '}'

theorem Closes.ends (h : Closes close) (rest : List Char) : Ends (close :: rest) := by
  obtain rfl | rfl := h <;> exact ends_cons (by decide)

theorem Closes.skipBlank (h : Closes close) (rest : List Char) :
    skipBlank (close :: rest) = close :: rest := by
  obtain rfl | rfl := h <;> exact skipBlank_cons (by decide)

theorem itemsUpTo_joined (hclose : Closes close) (h : ∀ x ∈ xs, ReadsItem write item x)
    (hne : xs ≠ []) {fuel : Nat} (hfuel : xs.length ≤ fuel) (done : List α) (rest : List Char) :
    itemsUpTo close item fuel done (joined write xs ++ close :: rest) =
      some (done.reverse ++ xs, rest) := by
  induction xs generalizing fuel done with
  | nil => exact absurd rfl hne
  | cons x xs ih =>
    obtain ⟨hx, hxs⟩ := List.forall_mem_cons.mp h
    cases fuel with
    | zero => simp at hfuel
    | succ fuel =>
      cases xs with
      | nil =>
        rw [itemsUpTo, joined, hx.reads _ (hclose.ends rest)]
        simp only [hclose.skipBlank]
        obtain rfl | rfl := hclose <;> simp
      | cons y xs =>
        have hfuel' : (y :: xs).length ≤ fuel := Nat.le_of_succ_le_succ hfuel
        have hcomma : Ends (',' :: (joined write (y :: xs) ++ close :: rest)) :=
          ends_cons (by decide)
        have hskip : Json.skipBlank (',' :: (joined write (y :: xs) ++ close :: rest)) =
            ',' :: (joined write (y :: xs) ++ close :: rest) := skipBlank_cons (by decide)
        simp only [itemsUpTo, joined, List.append_assoc, List.cons_append, hx.reads _ hcomma,
          hskip, ih hxs (by simp) hfuel']
        simp

/-- A written container is read as its items. -/
theorem itemsOf_joined (hclose : Closes close) (h : ∀ x ∈ xs, ReadsItem write item x)
    (rest : List Char) : itemsOf close item (joined write xs ++ close :: rest) = some (xs, rest) := by
  by_cases hne : xs = []
  · subst hne
    simp [joined, itemsOf, hclose.skipBlank]
  · have hopens := opens_joined h hne
    have hfuel : xs.length ≤ (joined write xs ++ close :: rest).length + 1 := by
      have hle := length_le_joined h
      rw [List.length_append]
      omega
    have hitems := itemsUpTo_joined hclose h hne hfuel [] rest
    rw [itemsOf, (hopens.append _).skipBlank]
    obtain ⟨c, cs, hc, -, hbracket, hbrace⟩ := hopens.append (close :: rest)
    have hnot : c ≠ close := by
      rintro rfl
      exact hclose.elim hbracket hbrace
    rw [hc] at hitems ⊢
    simpa [hnot] using hitems

/-! ### Documents -/

theorem opens_of_isDigit {c : Char} (h : c.isDigit) (cs : List Char) : Opens (c :: cs) := by
  refine ⟨c, cs, rfl, ?_, ?_, ?_⟩
  · rw [isBlank, Bool.eq_false_iff]
    simp only [ne_eq, Bool.or_eq_true, beq_iff_eq]
    rintro (((rfl | rfl) | rfl) | rfl) <;> exact absurd h (by decide)
  · rintro rfl
    exact absurd h (by decide)
  · rintro rfl
    exact absurd h (by decide)

theorem opens_render {depth : Nat} {v : Json} (h : Readable depth v) : Opens (render v) := by
  cases h with
  | null => exact ⟨'n', _, rfl, rfl, by decide, by decide⟩
  | bool _ b =>
    cases b
    · exact ⟨'f', _, rfl, rfl, by decide, by decide⟩
    · exact ⟨'t', _, rfl, rfl, by decide, by decide⟩
  | number _ h =>
    obtain ⟨c, cs, hc, rfl | hdigit⟩ := number?_head h
    · exact ⟨'-', cs, hc, rfl, by decide, by decide⟩
    · rw [render, hc]
      exact opens_of_isDigit hdigit cs
  | string => exact ⟨'"', _, rfl, rfl, by decide, by decide⟩
  | array => exact ⟨'[', _, rfl, rfl, by decide, by decide⟩
  | object => exact ⟨'{', _, rfl, rfl, by decide, by decide⟩

/-- A number is no other kind of value. -/
theorem value_of_number {depth : Nat} {n : Json} (h : number? cs = some (n, rest)) :
    value depth cs = some (n, rest) := by
  obtain ⟨c, cs, rfl, hc⟩ := number?_head h
  have hopens : Opens (c :: cs) := by
    obtain rfl | hdigit := hc
    · exact ⟨'-', cs, rfl, rfl, by decide, by decide⟩
    · exact opens_of_isDigit hdigit cs
  have hne {d : Char} (hd : ¬(d = '-' ∨ d.isDigit)) : c ≠ d := fun hcd => hd (hcd ▸ hc)
  rw [value.eq_def]
  dsimp only
  rw [hopens.skipBlank]
  split
  case h_7 => exact h
  all_goals
    rename_i heq
    injection heq with hcd
    exact absurd hcd (hne (by decide))

theorem parse?_of_number {text : String} {n : Json} (h : number? text.toList = some (n, [])) :
    parse? text = some n := by
  rw [parse?, value_of_number h]
  rfl

theorem value_quote (depth : Nat) (s : String) (rest : List Char) :
    value depth (quote s ++ rest) = some (.string s, rest) := by
  have hquote : quote s ++ rest = '"' :: (s.toList.flatMap escapeChar ++ '"' :: rest) := by
    simp [quote]
  rw [hquote, value.eq_def]
  exact congrArg (Option.map _) (stringBody_quote s rest)

theorem value_bracket (depth : Nat) (cs : List Char) : value (depth + 1) ('[' :: cs) =
    (itemsOf ']' (value depth) cs).map fun (items, cs) => (.array items, cs) := by
  rw [value.eq_def]
  rfl

theorem value_brace (depth : Nat) (cs : List Char) : value (depth + 1) ('{' :: cs) =
    (itemsOf '}' (memberOf (value depth)) cs).map fun (members, cs) => (ofMembers members, cs) := by
  rw [value.eq_def]
  rfl

/-- A member is read if its value is. -/
theorem memberOf_renderMember {depth : Nat} {m : String × Json}
    (h : ∀ rest, Ends rest → value depth (render m.2 ++ rest) = some (m.2, rest)) :
    ReadsItem renderMember (memberOf (value depth)) m where
  opens := ⟨'"', _, rfl, rfl, by decide, by decide⟩
  reads rest hr := by
    have hmember : renderMember m ++ rest =
        '"' :: (m.1.toList.flatMap escapeChar ++ '"' :: ':' :: (render m.2 ++ rest)) := by
      simp [renderMember, quote]
    have hquote : skipBlank (renderMember m ++ rest) = renderMember m ++ rest := by
      rw [hmember]
      exact skipBlank_cons (by decide)
    have hcolon : skipBlank (':' :: (render m.2 ++ rest)) = ':' :: (render m.2 ++ rest) :=
      skipBlank_cons (by decide)
    rw [memberOf, hquote, hmember]
    simp only [stringBody_quote, hcolon, h rest hr, Option.map_some]

/-- A document is read from its text, whatever follows but more digits of a number. -/
theorem value_render {depth : Nat} {v : Json} (h : Readable depth v) (hr : Ends rest) :
    value depth (render v ++ rest) = some (v, rest) := by
  induction h generalizing rest with
  | null =>
    rw [value.eq_def]
    rfl
  | bool _ b =>
    rw [value.eq_def]
    cases b <;> rfl
  | number _ h => exact value_of_number (hr.number?_append h)
  | string _ s => exact value_quote _ s rest
  | @array depth items h ih =>
    have hitems : ∀ v ∈ items, ReadsItem render (value depth) v := fun v hv =>
      ⟨opens_render (h v hv), fun _ hr => ih v hv hr⟩
    rw [render, renderItems_eq, List.cons_append, List.append_assoc, List.singleton_append,
      value_bracket, itemsOf_joined (.inl rfl) hitems]
    rfl
  | @object depth members ho h ih =>
    have hmembers : ∀ m ∈ members, ReadsItem renderMember (memberOf (value depth)) m :=
      fun m hm => memberOf_renderMember fun _ hr => ih m hm hr
    rw [render, renderMembers_eq, List.cons_append, List.append_assoc, List.singleton_append,
      value_brace, itemsOf_joined (.inr rfl) hmembers, ← ofMembers_of_ascending ho]
    rfl

/-- The bytes of a text are read as that text. -/
theorem fromUTF8?_toUTF8 (s : String) : String.fromUTF8? s.toUTF8 = some s :=
  dif_pos s.isValidUTF8

/-- The text of a document stands for that document. -/
theorem parse?_toText {v : Json} (h : Readable maxDepth v) : parse? v.toText = some v := by
  have hv := value_render h ends_nil
  rw [List.append_nil] at hv
  simp [parse?, toText, hv, skipBlank]

/-- The bytes of the text of a document stand for that document. -/
theorem ofBytes?_toText {v : Json} (h : Readable maxDepth v) :
    ofBytes? v.toText.toUTF8 = some v := by
  rw [ofBytes?, fromUTF8?_toUTF8, Option.bind_some, parse?_toText h]

end Json
end SceneRelay
