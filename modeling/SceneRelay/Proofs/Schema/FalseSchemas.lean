import SceneRelay.Proofs.Schema.Violations

/-! Which reports name a keyword of the schema: all but those of a false schema that is the whole
schema or the schema for one property, since the path to such a place does not end in a keyword. -/
namespace SceneRelay.Schema
open Json (Pointer resolve? Ordered)

variable {schema document inner value place : Json} {token : String}
  {instancePath schemaPath keys path : Pointer} {rules : List (String × Json)} {k : Keywords}
  {s t : Schema} {x y : Violation} {w : Json} {keyword : String}

/-! ### From a part to the whole -/

theorem Violation.under_nil (x : Violation) : x.under [] [] = x := rfl

theorem Violation.under_under (x : Violation) (i i' p p' : Pointer) :
    (x.under i p).under i' p' = x.under (i' ++ i) (p' ++ p) := by
  simp only [under, List.append_assoc]

theorem ne_never_of_ofJson? (hs : ofJson? schema = some s) (h : schema ≠ .bool false) :
    s ≠ .never := by
  obtain ⟨-, rfl⟩ | ⟨hfalse, -⟩ | ⟨_, _, -, -, rfl⟩ := cases_of_ofJson? hs
  · exact nofun
  · exact absurd hfalse h
  · exact nofun

/-- The violations of a part are violations of the whole, except that a false schema for extra
members refuses the object that has them. -/
theorem Step.under_mem_violations (h : Step (.object rules) document token keys inner value)
    (hread : keywords? rules = some k) :
    ∃ t, ofJson? inner = some t ∧ ((inner = .bool false → keys ≠ ["additionalProperties"]) →
      ∀ y ∈ t.violations value, y.under [token] keys ∈ k.toSchema.violations document) := by
  have hk := Keywords.of_keywords? hread
  cases h with
  | @property _ members properties _ _ _ hp hs hv =>
    obtain ⟨ps, hps, hnamed⟩ := hk.properties.exists_of_lookup hp
    have hmem := Json.mem_of_lookup hs
    obtain ⟨t, ht⟩ := exists_of_namedSchemas? hnamed hmem
    refine ⟨t, ht, fun _ y hy => mem_violations_object.mpr (.inr (.inr (.inl ?_)))⟩
    refine mem_namedViolations.mpr ⟨ps, hps, mem_propertyViolations.mpr ?_⟩
    exact ⟨(token, t), (mem_of_namedSchemas? hnamed).mpr ⟨inner, hmem, ht⟩, value, hv, y, hy, rfl⟩
  | @extra _ members _ _ _ hp hs hv =>
    obtain ⟨t, hclosed, ht⟩ := hk.closedBy.exists_of_lookup hs
    have hextra : (token, value) ∈ extras k.properties members := by
      refine mem_extras.mpr ⟨Json.mem_of_lookup hv, fun ps hps p hmem heq => ?_⟩
      obtain ⟨properties, hproperties, hnamed⟩ := hk.properties_iff.mp hps
      obtain ⟨v, hv', -⟩ := (mem_of_namedSchemas? (s := p.2) hnamed).mp hmem
      have hne := List.lookup_eq_none_iff.mp (hp properties hproperties) _ hv'
      simp [show p.1 = token from heq] at hne
    refine ⟨t, ht, fun hne y hy => mem_violations_object.mpr (.inr (.inr (.inr ?_)))⟩
    exact mem_extraViolations.mpr
      ⟨t, hclosed, .inr ⟨ne_never_of_ofJson? ht fun heq => hne heq rfl, _, hextra, y, hy, rfl⟩⟩
  | @item _ items _ _ i hs hv =>
    obtain ⟨t, heach, ht⟩ := hk.each.exists_of_lookup hs
    refine ⟨t, ht, fun _ y hy => mem_violations_array.mpr (.inr (.inr ?_))⟩
    exact mem_itemViolations.mpr ⟨t, heach, i, value, hv, y, hy, rfl⟩

theorem Step.exists_rules (h : Step schema document token keys inner value) :
    ∃ rules, schema = .object rules := by
  cases h <;> exact ⟨_, rfl⟩

/-- Whatever an object inside the schema refuses is in the report of the whole. -/
theorem Governs.under_mem_violations
    (h : Governs schema document instancePath path (.object rules) w)
    (hs : ofJson? schema = some s) : ∃ k, keywords? rules = some k ∧
      ∀ y ∈ k.toSchema.violations w, y.under instancePath path ∈ s.violations document := by
  generalize hplace : Json.object rules = place at h
  induction h generalizing s with
  | whole =>
    subst hplace
    obtain ⟨hbool, -⟩ | ⟨hbool, -⟩ | ⟨_, k, heq, hk, rfl⟩ := cases_of_ofJson? hs
    · nomatch hbool
    · nomatch hbool
    · cases heq
      exact ⟨k, hk, fun y hy => y.under_nil.symm ▸ hy⟩
  | @step _ _ _ _ inner _ _ _ _ _ hstep hg ih =>
    obtain ⟨outer, rfl⟩ := hstep.exists_rules
    obtain ⟨k', hk', rfl⟩ := Option.map_eq_some_iff.mp hs
    obtain ⟨t, ht, hlift⟩ := hstep.under_mem_violations hk'
    obtain ⟨k, hk, hmem⟩ := ih ht hplace
    -- No step leads on from a false schema.
    have hne : inner ≠ .bool false := by
      rintro rfl
      cases hg with
      | whole => nomatch hplace
      | step hstep' _ => nomatch hstep'
    refine ⟨k, hk, fun y hy => ?_⟩
    have hwhole := hlift (fun heq => absurd heq hne) _ (hmem y hy)
    rwa [Violation.under_under] at hwhole

/-! ### Names of keywords -/

/-- The keyword of a report is that of an object which is a schema, and the path leads to it. -/
def Violation.NamesKeyword (schema : Json) (x : Violation) : Prop :=
  ∃ path rules, isPlace path ∧ resolve? path schema = some (.object rules) ∧
    x.schemaPath = path ++ [x.keyword] ∧ x.keyword ∈ keywordNames ∧
    (rules.lookup x.keyword).isSome

/-- False schemas that are held against a value and stand at no keyword, with the two pointers and
what stands after the last slash. -/
inductive Unnamed (schema document : Json) : Pointer → Pointer → String → Prop
  | whole (h : schema = .bool false) : Unnamed schema document [] [] ""
  | property {instancePath path rules members properties name value}
      (hg : Governs schema document instancePath path (.object rules) (.object members))
      (hp : rules.lookup "properties" = some (.object properties))
      (hs : properties.lookup name = some (.bool false)) (hv : members.lookup name = some value) :
      Unnamed schema document (instancePath ++ [name]) (path ++ ["properties", name])
        (String.ofList (Pointer.segment name))

theorem Governs.namesKeyword {name : String}
    (h : Governs schema document instancePath path (.object rules) w)
    (hx : x.schemaPath = path ++ [name]) (hname : name ∈ keywordNames)
    (hlookup : rules.lookup name = some value) : x.NamesKeyword schema := by
  have hkeyword := Violation.keyword_of_mem_keywordNames hx hname
  refine ⟨path, rules, h.isPlace, h.resolve?.2, ?_, ?_, ?_⟩ <;> rw [hkeyword]
  · exact hx
  · exact hname
  · simp [hlookup]

/-- A false schema stands at a keyword or is one of the unnamed. -/
theorem Governs.namesKeyword_or_unnamed
    (h : Governs schema document x.instancePath x.schemaPath (.bool false) w) :
    x.NamesKeyword schema ∨ Unnamed schema document x.instancePath x.schemaPath x.keyword := by
  obtain ⟨hi, hpath, hplace, -⟩ | ⟨i, path, outer, u, token, keys, hg, hstep, hi, hpath⟩ := h.last
  · rw [hi, hpath, Violation.keyword_of_nil hpath]
    exact .inr (.whole hplace.symm)
  · cases hstep with
    | property hp hs hv =>
      have hname : x.schemaPath = (path ++ ["properties"]) ++ [token] := by simp [hpath]
      rw [hi, Violation.keyword_of_append hname, hpath]
      exact .inr (.property hg hp hs hv)
    | extra _ hs => exact .inl (hg.namesKeyword hpath (by decide) hs)
    | item hs => exact .inl (hg.namesKeyword hpath (by decide) hs)

/-- The path to an unnamed false schema does not end in a keyword. -/
theorem Unnamed.not_namesKeyword
    (h : Unnamed schema document instancePath x.schemaPath keyword) : ¬x.NamesKeyword schema := by
  rintro ⟨path, rules, hplace, -, hpath, -⟩
  generalize x.schemaPath = schemaPath at h hpath
  cases h with
  | whole => simp at hpath
  | @property _ path' _ _ _ name _ hg =>
    -- The object would be the one under `properties`, which is no place of a schema.
    have hsplit : path' ++ ["properties"] ++ [name] = path ++ [x.keyword] := by
      rw [← hpath, List.append_assoc]
      rfl
    obtain ⟨rfl, -⟩ := List.append_inj' hsplit rfl
    rw [isPlace_append hg.isPlace] at hplace
    nomatch hplace

/-- What an unnamed false schema refuses is in the report, under a keyword that is none. -/
theorem Unnamed.exists_mem_violations
    (h : Unnamed schema document instancePath schemaPath keyword) (hs : ofJson? schema = some s) :
    ∃ x ∈ s.violations document,
      x.instancePath = instancePath ∧ x.schemaPath = schemaPath ∧ x.keyword = keyword := by
  cases h with
  | whole h =>
    subst h
    cases hs
    exact ⟨_, List.mem_singleton_self _, rfl, rfl, rfl⟩
  | @property i path rules members properties name value hg hp hf hv =>
    obtain ⟨k, hk, hmem⟩ := hg.under_mem_violations hs
    obtain ⟨t, ht, hlift⟩ := (Step.property hp hf hv).under_mem_violations hk
    cases ht
    have hy := hlift (fun _ => by simp) _ (List.mem_singleton_self _)
    have hx := hmem _ hy
    rw [Violation.under_under] at hx
    refine ⟨_, hx, by simp [Violation.under], by simp [Violation.under], ?_⟩
    have hend : path ++ ["properties", name] ++ [] = path ++ ["properties"] ++ [name] := by simp
    exact Violation.keyword_of_append hend

/-- A report names a keyword unless it is about an unnamed false schema, and every unnamed false
schema that is held against a value has its report. -/
theorem keywords_named_unless_false (schema document : Json) (s : Schema) (hschema : schema.Ordered)
    (hdocument : document.Ordered) (hs : ofJson? schema = some s) :
    (∀ x ∈ s.report document, ¬x.NamesKeyword schema ↔
      Unnamed schema document x.instancePath x.schemaPath x.keyword) ∧
    ∀ instancePath schemaPath keyword, Unnamed schema document instancePath schemaPath keyword →
      ∃ x ∈ s.report document,
        x.instancePath = instancePath ∧ x.schemaPath = schemaPath ∧ x.keyword = keyword := by
  constructor
  · intro x hx
    refine ⟨fun hnot => ?_, fun h => h.not_namesKeyword⟩
    cases cause_of_mem hschema hdocument hs (mem_report.mp hx) with
    | falseSchema hg => exact hg.namesKeyword_or_unnamed.resolve_left hnot
    | keyword hg hpath hname hvalue _ => exact absurd (hg.namesKeyword hpath hname hvalue) hnot
  · intro instancePath schemaPath keyword h
    obtain ⟨x, hx, hplaces⟩ := h.exists_mem_violations hs
    exact ⟨x, mem_report.mpr hx, hplaces⟩

/-- No keyword `required` stands in this schema: what is reported under it is the property. -/
theorem keywords_named_unless_false_of_required :
    let schema : Json := .object [("properties", .object [("required", .bool false)])]
    let document : Json := .object [("required", .null)]
    ∃ s, ofJson? schema = some s ∧ schema.Ordered ∧ document.Ordered ∧
      ∃ x ∈ s.report document, x.keyword = "required" ∧ ¬x.NamesKeyword schema := by
  intro schema document
  obtain ⟨s, hs⟩ : ∃ s, ofJson? schema = some s := ⟨_, rfl⟩
  have hschema : schema.Ordered := by simp [schema, Json.ascending_iff]
  have hdocument : document.Ordered := by simp [document, Json.ascending_iff]
  obtain ⟨hnames, hreports⟩ := keywords_named_unless_false schema document s hschema hdocument hs
  have hfalse : Unnamed schema document ["required"] ["properties", "required"]
      (String.ofList (Pointer.segment "required")) := .property (.whole _ _) rfl rfl rfl
  obtain ⟨x, hx, hi, hpath, hkeyword⟩ := hreports _ _ _ hfalse
  refine ⟨s, hs, hschema, hdocument, x, hx, hkeyword.trans (by decide), (hnames x hx).mpr ?_⟩
  rw [hi, hpath, hkeyword]
  exact hfalse

end SceneRelay.Schema
