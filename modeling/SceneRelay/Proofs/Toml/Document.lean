import SceneRelay.Proofs.Toml.Quoted
import SceneRelay.Proofs.Toml.Scalar

/-! A document of plain statements, one on each line, is read as these statements. -/
namespace SceneRelay.Toml

/-! ### Values -/

/-- A value whose written form is its own. -/
inductive Plain : Toml → Prop where
  | string (s : String) : Plain (.string s)
  | integer {n : Nat} (h : n < twoTo 63) : Plain (.integer n)
  | boolean (b : Bool) : Plain (.boolean b)

theorem renderString_eq_cons (s : String) :
    ∃ t, renderString s = '"' :: t ∨ renderString s = '\'' :: t := by
  unfold renderString
  dsimp only
  split_ifs
  all_goals first | exact ⟨_, .inl rfl⟩ | exact ⟨_, .inr rfl⟩

theorem toList_toString_natCast (n : Nat) : (toString (n : Int)).toList = Nat.toDigits 10 n := by
  show (Nat.repr n).toList = _
  simp [Nat.repr]

theorem isScalarChar_of_isDigit {c : Char} (h : c.isDigit) : isScalarChar c := by
  simp [isScalarChar, Char.isAlphanum, h]

/-- The characters of a scalar reach up to the end of the line. -/
theorem value?_scalar {run : List Char} (hne : run ≠ []) (hrun : ∀ c ∈ run, isScalarChar c)
    (hdate : date? run = none) (depth : Nat) (rest : List Char) :
    value? depth (run ++ '\n' :: rest) = (scalar? run).map fun v => (v, '\n' :: rest) := by
  have hsplit : splitScalar (run ++ '\n' :: rest) = (run, '\n' :: rest) := by
    have htake : (run ++ '\n' :: rest).takeWhile isScalarChar = run := by
      rw [List.takeWhile_append_of_pos hrun]
      exact List.append_nil run
    have hdrop : (run ++ '\n' :: rest).dropWhile isScalarChar = '\n' :: rest := by
      rw [List.dropWhile_append_of_pos hrun]
      rfl
    simp only [splitScalar, htake, hdrop, hdate]
  obtain ⟨c, cs, rfl⟩ := List.exists_cons_of_ne_nil hne
  have hc : isScalarChar c := hrun c List.mem_cons_self
  rw [List.cons_append] at hsplit ⊢
  have hother : c ≠ '"' ∧ c ≠ '\'' ∧ c ≠ '[' ∧ c ≠ '{' := by
    refine ⟨?_, ?_, ?_, ?_⟩ <;> rintro rfl <;> exact absurd hc (by decide)
  rw [value?.eq_def]
  dsimp only
  split
  case h_5 => rw [hsplit]
  all_goals simp_all

theorem value?_renderValue {v : Toml} (h : Plain v) (depth : Nat) (rest : List Char) :
    value? depth (renderValue v ++ '\n' :: rest) = some (v, '\n' :: rest) := by
  cases h with
  | string s =>
    have hquoted := quoted?_renderString s rest
    obtain ⟨t, ht | ht⟩ := renderString_eq_cons s
    · rw [ht, List.cons_append] at hquoted
      simp [renderValue, ht, value?, hquoted]
    · rw [ht, List.cons_append] at hquoted
      simp [renderValue, ht, value?, hquoted]
  | @integer n hn =>
    rw [renderValue, toList_toString_natCast,
      value?_scalar Nat.toDigits_ne_nil
        (fun c hc => isScalarChar_of_isDigit ((digits_toDigits n).isDigit c hc))
        (digits_toDigits n).date?_eq, scalar?_toDigits n hn]
    rfl
  | boolean b =>
    cases b
    · exact value?_scalar (List.cons_ne_nil 'f' _) (List.all_eq_true.mp rfl) rfl depth rest
    · exact value?_scalar (List.cons_ne_nil 't' _) (List.all_eq_true.mp rfl) rfl depth rest

/-! ### Keys -/

/-- A name that needs no quotes in a key. -/
def BareName (name : String) : Prop := name.toList ≠ [] ∧ name.toList.all isBare

instance : DecidablePred BareName := fun _ => inferInstanceAs (Decidable (_ ∧ _))

/-- The parts of a key that needs no quotes. -/
structure BarePath (path : List String) : Prop where
  ne_nil : path ≠ []
  length_le : path.length ≤ depthLimit - 1
  bare : ∀ name ∈ path, BareName name

theorem ne_of_isBare {c q : Char} (h : isBare c) (hq : isBare q = false) : c ≠ q := by
  rintro rfl
  simp [h] at hq

theorem skipInline_cons {c : Char} (h : isInlineBlank c = false) (cs : List Char) :
    skipInline (c :: cs) = c :: cs := by
  simp [skipInline, h]

theorem isInlineBlank_of_isBare {c : Char} (h : isBare c) : isInlineBlank c = false := by
  have hblank : c ≠ ' ' := ne_of_isBare h (by decide)
  have htab : c ≠ '\t' := ne_of_isBare h (by decide)
  simp [isInlineBlank, hblank, htab]

theorem renderPath_cons_cons (p q : String) (path : List String) :
    renderPath (p :: q :: path) = p.toList ++ '.' :: renderPath (q :: path) := by
  simp [renderPath]

theorem BareName.forall_mem {name : String} (h : BareName name) : ∀ c ∈ name.toList, isBare c :=
  List.all_eq_true.mp h.2

theorem BareName.exists_cons {name : String} (h : BareName name) :
    ∃ c cs, name.toList = c :: cs ∧ isBare c := by
  obtain ⟨c, cs, hcons⟩ := List.exists_cons_of_ne_nil h.1
  exact ⟨c, cs, hcons, h.forall_mem c (by simp [hcons])⟩

theorem BareName.simpleKey?_append {name : String} (h : BareName name) {c : Char}
    (hc : isBare c = false) (rest : List Char) :
    simpleKey? (name.toList ++ c :: rest) = some (name, c :: rest) := by
  have htake : (name.toList ++ c :: rest).takeWhile isBare = name.toList := by
    rw [List.takeWhile_append_of_pos h.forall_mem, List.takeWhile_cons_of_neg (by simp [hc]),
      List.append_nil]
  have hdrop : (name.toList ++ c :: rest).dropWhile isBare = c :: rest := by
    rw [List.dropWhile_append_of_pos h.forall_mem, List.dropWhile_cons_of_neg (by simp [hc])]
  have hfirst (q : Char) (cs : List Char) (hq : isBare q = false) :
      name.toList ++ c :: rest ≠ q :: cs := by
    obtain ⟨d, ds, hcons, hd⟩ := h.exists_cons
    rw [hcons]
    exact fun heq => ne_of_isBare hd hq (List.cons.inj heq).1
  unfold simpleKey?
  split
  · exact absurd ‹_› (hfirst '"' _ (by decide))
  · exact absurd ‹_› (hfirst '\'' _ (by decide))
  · simp [htake, hdrop, h.1]

theorem exists_renderPath_eq_cons {path : List String} (hne : path ≠ [])
    (h : ∀ name ∈ path, BareName name) : ∃ c cs, renderPath path = c :: cs ∧ isBare c := by
  match path with
  | [p] =>
    obtain ⟨c, cs, hcons, hc⟩ := (h p (by simp)).exists_cons
    exact ⟨c, cs, by simpa [renderPath] using hcons, hc⟩
  | p :: q :: path =>
    obtain ⟨c, cs, hcons, hc⟩ := (h p (by simp)).exists_cons
    exact ⟨c, cs ++ '.' :: renderPath (q :: path), by rw [renderPath_cons_cons, hcons]; rfl, hc⟩

theorem skipInline_renderPath {path : List String} (hne : path ≠ [])
    (h : ∀ name ∈ path, BareName name) (rest : List Char) :
    skipInline (renderPath path ++ rest) = renderPath path ++ rest := by
  obtain ⟨c, cs, hcons, hc⟩ := exists_renderPath_eq_cons hne h
  rw [hcons, List.cons_append, skipInline_cons (isInlineBlank_of_isBare hc)]

/-- A bare path is read up to a character that cannot stand in a key, and blanks after it. -/
theorem key?_renderPath {path : List String} {c : Char} {rest after : List Char} {fuel : Nat}
    (hne : path ≠ []) (hlen : path.length ≤ fuel) (h : ∀ name ∈ path, BareName name)
    (hc : isBare c = false) (hafter : skipInline (c :: rest) = after)
    (hpoint : ∀ t, after ≠ '.' :: t) :
    key? fuel (renderPath path ++ c :: rest) = some (path, after) := by
  induction path generalizing fuel with
  | nil => exact absurd rfl hne
  | cons p path ih =>
    obtain ⟨fuel, rfl⟩ : ∃ n, fuel = n + 1 := Nat.exists_eq_add_one.mpr (by simp at hlen; omega)
    rw [key?, skipInline_renderPath hne h]
    obtain ⟨hp, hpath⟩ := List.forall_mem_cons.mp h
    match path with
    | [] =>
      have hsole : renderPath [p] = p.toList := by simp [renderPath]
      simp only [hsole, hp.simpleKey?_append hc, hafter, Option.bind_eq_bind, Option.bind_some]
      rfl
    | q :: path =>
      have hdot : skipInline ('.' :: (renderPath (q :: path) ++ c :: rest)) =
          '.' :: (renderPath (q :: path) ++ c :: rest) := skipInline_cons (by decide) _
      rw [renderPath_cons_cons, List.append_assoc, List.cons_append,
        hp.simpleKey?_append (by decide)]
      simp only [hdot, Option.bind_eq_bind, Option.bind_some]
      rw [ih (by simp) (by simpa using hlen) hpath]
      rfl

/-! ### Statements -/

/-- A statement whose written form is its own. -/
inductive Statement.Plain : Statement → Prop where
  | header {path : List String} (h : BarePath path) : Plain (.header path)
  | element {path : List String} (h : BarePath path) : Plain (.element path)
  | assignment {path : List String} {v : Toml} (h : BarePath path) (hv : v.Plain) :
      Plain (.assignment path v)

theorem exists_renderValue_eq_cons {v : Toml} (h : Plain v) :
    ∃ c cs, renderValue v = c :: cs ∧ isInlineBlank c = false := by
  cases h with
  | string s =>
    obtain ⟨t, ht | ht⟩ := renderString_eq_cons s
    · exact ⟨'"', t, ht, by decide⟩
    · exact ⟨'\'', t, ht, by decide⟩
  | @integer n _ =>
    obtain ⟨c, cs, hcons⟩ := List.exists_cons_of_ne_nil (Nat.toDigits_ne_nil (n := n) (b := 10))
    have hc : c.isDigit := (digits_toDigits n).isDigit c (by simp [hcons])
    refine ⟨c, cs, by rw [renderValue, toList_toString_natCast, hcons], ?_⟩
    exact isInlineBlank_of_isBare (by simp [isBare, Char.isAlphanum, hc])
  | boolean b => cases b <;> exact ⟨_, _, rfl, by decide⟩

theorem headerPath?_renderPath {path : List String} (h : BarePath path) (more rest : List Char) :
    headerPath? (']' :: more) (renderPath path ++ ']' :: (more ++ rest)) = some (path, rest) := by
  have hclosed : skipInline (']' :: (more ++ rest)) = ']' :: more ++ rest :=
    skipInline_cons (by decide) _
  have hkey := key?_renderPath h.ne_nil h.length_le h.bare (by decide) hclosed
    (by simp)
  have hprefix : (']' :: more).isPrefixOf (']' :: more ++ rest) :=
    List.isPrefixOf_iff_prefix.mpr (List.prefix_append ..)
  simp only [headerPath?, hkey, Option.bind_eq_bind, Option.bind_some]
  rw [if_pos hprefix, List.drop_left]
  rfl

theorem pair?_renderStatement {path : List String} {v : Toml} (h : BarePath path) (hv : Plain v)
    (depth : Nat) (rest : List Char) :
    pair? (value? depth) (renderStatement (.assignment path v) ++ rest) =
      some ((path, v), '\n' :: rest) := by
  obtain ⟨c, cs, hcons, hc⟩ := exists_renderValue_eq_cons hv
  have hvalue : skipInline (' ' :: (renderValue v ++ '\n' :: rest)) =
      renderValue v ++ '\n' :: rest := by
    rw [hcons]
    exact skipInline_cons hc _
  have hequals : skipInline (' ' :: '=' :: ' ' :: (renderValue v ++ '\n' :: rest)) =
      '=' :: ' ' :: (renderValue v ++ '\n' :: rest) := rfl
  have hkey := key?_renderPath h.ne_nil h.length_le h.bare (by decide) hequals
    (by simp)
  have htext : renderStatement (.assignment path v) ++ rest =
      renderPath path ++ ' ' :: '=' :: ' ' :: (renderValue v ++ '\n' :: rest) := by
    simp [renderStatement]
  simp only [htext, pair?, hkey, hvalue, value?_renderValue hv, Option.bind_eq_bind,
    Option.bind_some]
  rfl

theorem statement?_renderStatement {s : Statement} (h : s.Plain) (rest : List Char) :
    statement? (renderStatement s ++ rest) = some (s, '\n' :: rest) := by
  cases h with
  | @header path h =>
    obtain ⟨c, cs, hcons, hc⟩ := exists_renderPath_eq_cons h.ne_nil h.bare
    have hopen : c ≠ '[' := ne_of_isBare hc (by decide)
    have hpath := headerPath?_renderPath h [] ('\n' :: rest)
    rw [hcons] at hpath
    simp_all [renderStatement, statement?]
  | @element path h =>
    have hpath := headerPath?_renderPath h [']'] ('\n' :: rest)
    simp_all [renderStatement, statement?]
  | @assignment path v h hv =>
    obtain ⟨c, cs, hcons, hc⟩ := exists_renderPath_eq_cons h.ne_nil h.bare
    have hopen : c ≠ '[' := ne_of_isBare hc (by decide)
    have hfirst (t : List Char) : renderStatement (.assignment path v) ++ rest ≠ '[' :: t := by
      rw [renderStatement, hcons]
      exact fun heq => hopen (List.cons.inj heq).1
    rw [statement?.eq_def]
    split
    · exact absurd ‹_› (hfirst _)
    · exact absurd ‹_› (hfirst _)
    · rw [pair?_renderStatement h hv]
      rfl

theorem skipTrivia_of_isBare {c : Char} (h : isBare c) (cs : List Char) :
    skipTrivia false (c :: cs) = some (c :: cs) := by
  have hn : c ≠ '\n' := ne_of_isBare h (by decide)
  have hr : c ≠ '\r' := ne_of_isBare h (by decide)
  have hhash : c ≠ '#' := ne_of_isBare h (by decide)
  rw [skipTrivia.eq_def]
  split
  case h_4 heq =>
    cases heq
    simp [isInlineBlank_of_isBare h, hhash]
  all_goals simp_all

theorem skipTrivia_renderStatement {s : Statement} (h : s.Plain) (rest : List Char) :
    skipTrivia false (renderStatement s ++ rest) = some (renderStatement s ++ rest) := by
  cases h with
  | header h => rfl
  | element h => rfl
  | @assignment path v h hv =>
    obtain ⟨c, cs, hcons, hc⟩ := exists_renderPath_eq_cons h.ne_nil h.bare
    rw [renderStatement, hcons]
    exact skipTrivia_of_isBare hc _

/-- Each line is read as its statement, and then the lines below it. -/
theorem statements?_renderStatement {s : Statement} (h : s.Plain) (fuel : Nat)
    (rest : List Char) :
    statements? (fuel + 1) (renderStatement s ++ rest) =
      (statements? fuel rest).map (s :: ·) := by
  have htrivia := skipTrivia_renderStatement h rest
  have hstatement := statement?_renderStatement h rest
  have hend : finishLine false ('\n' :: rest) = some rest := rfl
  obtain ⟨c, cs, hcons⟩ : ∃ c cs, renderStatement s ++ rest = c :: cs :=
    List.exists_cons_of_ne_nil (by cases s <;> simp [renderStatement])
  rw [hcons] at htrivia hstatement ⊢
  simp only [statements?, htrivia, hstatement, hend, Option.bind_eq_bind, Option.bind_some]
  cases statements? fuel rest <;> rfl

theorem statements?_append {ss : List Statement} (h : ∀ s ∈ ss, s.Plain) (fuel : Nat)
    (rest : List Char) :
    statements? (ss.length + fuel) (ss.flatMap renderStatement ++ rest) =
      (statements? fuel rest).map (ss ++ ·) := by
  induction ss with
  | nil => simp
  | cons s ss ih =>
    obtain ⟨hs, hss⟩ := List.forall_mem_cons.mp h
    rw [List.length_cons, Nat.add_right_comm, List.flatMap_cons, List.append_assoc,
      statements?_renderStatement hs, ih hss, Option.map_map]
    rfl

/-- Each statement takes a character, at least. -/
theorem length_le_render (ss : List Statement) :
    ss.length ≤ (ss.flatMap renderStatement).length := by
  induction ss with
  | nil => exact le_rfl
  | cons s ss ih =>
    have hs : 1 ≤ (renderStatement s).length := by
      cases s
      all_goals
        simp only [renderStatement, List.length_append, List.length_cons]
        omega
    rw [List.flatMap_cons, List.length_append, List.length_cons]
    omega

/-! ### Sections -/

/-- What a section of a document says. -/
def sectionStatements (path : List String) (pairs : List (String × Toml)) : List Statement :=
  .header path :: pairs.map fun p => .assignment [p.1] p.2

theorem renderSection_eq (path : List String) (pairs : List (String × Toml)) :
    renderSection path pairs = (sectionStatements path pairs).flatMap renderStatement := by
  simp [renderSection, sectionStatements, List.flatMap_map]

theorem plain_sectionStatements {path : List String} {pairs : List (String × Toml)}
    (hpath : BarePath path) (hpairs : ∀ p ∈ pairs, BareName p.1 ∧ p.2.Plain) :
    ∀ s ∈ sectionStatements path pairs, s.Plain := by
  refine List.forall_mem_cons.mpr ⟨.header hpath, ?_⟩
  intro s hs
  obtain ⟨p, hp, rfl⟩ := List.mem_map.mp hs
  obtain ⟨hname, hvalue⟩ := hpairs p hp
  exact .assignment ⟨by simp, by simp [depthLimit], by simpa using hname⟩ hvalue

/-- A blank line says nothing. -/
theorem statements?_blank (fuel : Nat) (cs : List Char) :
    statements? fuel ('\n' :: cs) = statements? fuel cs := by
  cases fuel <;> rfl

end SceneRelay.Toml
