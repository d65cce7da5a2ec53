import SceneRelay.Proofs.Schema.Keywords
import SceneRelay.Proofs.Schema.Places
import SceneRelay.Schema.Violation

/-! A document without violations is one that its schema accepts, and every violation has its cause:
the pointers of a report lead to a value and to the place of the schema that refuses it. -/
namespace SceneRelay.Schema
open Json (Pointer resolve? Ordered)

variable {types : Option (List JsonType)} {required : List String}
  {properties : Option (List (String × Schema))} {closedBy each : Option Schema}
  {minItems maxItems : Option Nat} {members : List (String × Json)} {items : List Json}
  {s : Schema} {v : Json} {x : Violation}

/-! ### No violations -/

theorem typeViolations_eq_nil_iff : typeViolations types v = [] ↔ typesAdmit types v := by
  cases types <;> simp [typeViolations, typesAdmit]

theorem missingViolations_eq_nil_iff : missingViolations required members = [] ↔
    required.all fun name => (members.lookup name).isSome := by
  simp [missingViolations]

theorem countViolations_eq_nil_iff : countViolations minItems maxItems items = [] ↔
    (minItems.all fun n => n ≤ items.length) ∧ maxItems.all fun n => items.length ≤ n := by
  cases minItems <;> cases maxItems <;> simp [countViolations]

theorem inEach_eq_nil_iff {find : Json → List Violation} {keyword : String} :
    inEach find keyword members = [] ↔ ∀ m ∈ members, find m.2 = [] := by
  simp [inEach]

theorem map_snd_byIndex : (byIndex items).map Prod.snd = items := by
  simp [byIndex, Function.comp_def]

theorem mem_byIndex {token : String} :
    (token, v) ∈ byIndex items ↔ ∃ i : Nat, items[i]? = some v ∧ token = toString i := by
  simp [byIndex, List.mem_zipIdx_iff_getElem?, and_comm, eq_comm]

mutual

/-- A document has no violations if and only if it is accepted. -/
theorem violations_eq_nil_iff : ∀ (s : Schema) (v : Json), s.violations v = [] ↔ s.accepts v
  | .always, v => by simp [violations, accepts]
  | .never, v => by simp [violations, accepts]
  | .rules types required properties closedBy each minItems maxItems, v => by
    cases v with
    | object members =>
      simp only [violations, accepts, List.append_eq_nil_iff, Bool.and_eq_true, and_assoc,
        typeViolations_eq_nil_iff, missingViolations_eq_nil_iff,
        namedViolations_eq_nil_iff properties, extraViolations_eq_nil_iff closedBy]
    | array items =>
      simp only [violations, accepts, List.append_eq_nil_iff, Bool.and_eq_true, and_assoc,
        typeViolations_eq_nil_iff, countViolations_eq_nil_iff, itemViolations_eq_nil_iff each]
    | _ => simp [violations, accepts, typeViolations_eq_nil_iff]

theorem namedViolations_eq_nil_iff : ∀ (properties : Option (List (String × Schema)))
    (members : List (String × Json)),
    namedViolations properties members = [] ↔ acceptsNamed properties members
  | none, members => by simp [namedViolations, acceptsNamed]
  | some properties, members => propertyViolations_eq_nil_iff properties members

theorem propertyViolations_eq_nil_iff : ∀ (properties : List (String × Schema))
    (members : List (String × Json)),
    propertyViolations properties members = [] ↔ acceptsProperties properties members
  | [], members => by simp [propertyViolations, acceptsProperties]
  | (name, s) :: rest, members => by
    have hs (w : Json) := violations_eq_nil_iff s w
    have hrest := propertyViolations_eq_nil_iff rest members
    cases hw : members.lookup name <;> simp [propertyViolations, acceptsProperties, hw, hs, hrest]

theorem extraViolations_eq_nil_iff : ∀ (closedBy : Option Schema) (named : Bool)
    (extras : List (String × Json)),
    extraViolations closedBy named extras = [] ↔ acceptsAll closedBy (extras.map Prod.snd)
  | none, named, extras => by simp [extraViolations, acceptsAll]
  | some s, named, extras => by
    have hs (w : Json) := violations_eq_nil_iff s w
    cases s with
    | never =>
      cases extras <;> simp [extraViolations, isNever, closedViolations, acceptsAll, accepts]
    | _ => simp [extraViolations, isNever, acceptsAll, inEach_eq_nil_iff, hs]

theorem itemViolations_eq_nil_iff : ∀ (each : Option Schema) (items : List Json),
    itemViolations each items = [] ↔ acceptsAll each items
  | none, items => by simp [itemViolations, acceptsAll]
  | some s, items => by
    have hs (w : Json) := violations_eq_nil_iff s w
    rw [itemViolations, inEach_eq_nil_iff, ← List.forall_mem_map (f := Prod.snd)
      (P := fun w => s.violations w = []), map_snd_byIndex]
    simp only [hs, acceptsAll, List.all_eq_true]

end

/-! ### One violation -/

theorem mem_violations_object :
    x ∈ (rules types required properties closedBy each minItems maxItems).violations
      (.object members) ↔
      x ∈ typeViolations types (.object members) ∨ x ∈ missingViolations required members ∨
        x ∈ namedViolations properties members ∨
          x ∈ extraViolations closedBy properties.isSome (extras properties members) := by
  simp only [violations, List.mem_append, or_assoc]

theorem mem_violations_array :
    x ∈ (rules types required properties closedBy each minItems maxItems).violations
      (.array items) ↔
      x ∈ typeViolations types (.array items) ∨ x ∈ countViolations minItems maxItems items ∨
        x ∈ itemViolations each items := by
  simp only [violations, List.mem_append]

theorem mem_inEach {find : Json → List Violation} {keyword : String} :
    x ∈ inEach find keyword members ↔
      ∃ m ∈ members, ∃ y ∈ find m.2, x = y.under [m.1] [keyword] := by
  simp [inEach, eq_comm]

theorem mem_propertyViolations {ps : List (String × Schema)} :
    x ∈ propertyViolations ps members ↔ ∃ p ∈ ps, ∃ w, members.lookup p.1 = some w ∧
      ∃ y ∈ p.2.violations w, x = y.under [p.1] ["properties", p.1] := by
  induction ps with
  | nil => simp [propertyViolations]
  | cons p ps ih =>
    obtain ⟨name, s⟩ := p
    simp only [propertyViolations, List.mem_append, ih, List.mem_cons, exists_eq_or_imp]
    cases members.lookup name <;> simp [eq_comm]

theorem mem_namedViolations : x ∈ namedViolations properties members ↔
    ∃ ps, properties = some ps ∧ x ∈ propertyViolations ps members := by
  cases properties <;> simp [namedViolations]

theorem mem_extraViolations {named : Bool} {extras : List (String × Json)} :
    x ∈ extraViolations closedBy named extras ↔ ∃ s, closedBy = some s ∧
      (s = .never ∧ x ∈ closedViolations named extras ∨
        s ≠ .never ∧ ∃ m ∈ extras, ∃ y ∈ s.violations m.2,
          x = y.under [m.1] ["additionalProperties"]) := by
  cases closedBy with
  | none => simp [extraViolations]
  | some s =>
    cases s <;> simp [extraViolations, isNever, mem_inEach]

theorem mem_itemViolations : x ∈ itemViolations each items ↔ ∃ s, each = some s ∧
    ∃ (i : Nat) (w : Json), items[i]? = some w ∧ ∃ y ∈ s.violations w,
      x = y.under [toString i] ["items"] := by
  cases each with
  | none => simp [itemViolations]
  | some s =>
    simp only [itemViolations, mem_inEach, Prod.exists, mem_byIndex, Option.some.injEq,
      exists_eq_left']
    constructor
    · rintro ⟨_, w, ⟨i, hi, rfl⟩, hy⟩
      exact ⟨i, w, hi, hy⟩
    · rintro ⟨i, w, hi, hy⟩
      exact ⟨_, w, ⟨i, hi, rfl⟩, hy⟩

theorem of_mem_typeViolations (h : x ∈ typeViolations types v) :
    (∃ ts, types = some ts) ∧ x.instancePath = [] ∧ x.schemaPath = ["type"] := by
  unfold typeViolations at h
  split at h
  · nomatch h
  · rename_i ts
    split at h
    · nomatch h
    · obtain rfl := List.mem_singleton.mp h
      exact ⟨⟨ts, rfl⟩, rfl, rfl⟩

theorem of_mem_missingViolations (h : x ∈ missingViolations required members) :
    required ≠ [] ∧ x.instancePath = [] ∧ x.schemaPath = ["required"] := by
  obtain ⟨name, hname, rfl⟩ := List.mem_map.mp h
  exact ⟨List.ne_nil_of_mem (List.mem_filter.mp hname).1, rfl, rfl⟩

theorem of_mem_countViolations (h : x ∈ countViolations minItems maxItems items) :
    x.instancePath = [] ∧ ((∃ n, minItems = some n) ∧ x.schemaPath = ["minItems"] ∨
      (∃ n, maxItems = some n) ∧ x.schemaPath = ["maxItems"]) := by
  obtain h | h := List.mem_append.mp h
  · split at h
    · split at h
      · nomatch h
      · obtain rfl := List.mem_singleton.mp h
        exact ⟨rfl, .inl ⟨⟨_, rfl⟩, rfl⟩⟩
    · nomatch h
  · split at h
    · split at h
      · nomatch h
      · obtain rfl := List.mem_singleton.mp h
        exact ⟨rfl, .inr ⟨⟨_, rfl⟩, rfl⟩⟩
    · nomatch h

theorem of_mem_closedViolations {named : Bool} {extras : List (String × Json)}
    (h : x ∈ closedViolations named extras) :
    x.instancePath = [] ∧ x.schemaPath = ["additionalProperties"] := by
  unfold closedViolations at h
  split at h
  · nomatch h
  · obtain rfl := List.mem_singleton.mp h
    exact ⟨rfl, rfl⟩

/-! ### Causes -/

/-- The schema of a document refuses a value. -/
def Refuses (schema v : Json) : Prop := ∃ s, ofJson? schema = some s ∧ ¬s.accepts v

/-- What a violation is about: a false schema, or a keyword of an object that refuses the value. -/
inductive Violation.Cause (schema document : Json) (x : Violation) : Prop
  | falseSchema {w} (h : Governs schema document x.instancePath x.schemaPath (.bool false) w)
  | keyword {path rules w name value}
      (h : Governs schema document x.instancePath path (.object rules) w)
      (hs : x.schemaPath = path ++ [name]) (hname : name ∈ keywordNames)
      (hvalue : rules.lookup name = some value) (hr : Refuses (.object rules) w)

variable {schema document inner value : Json} {token : String} {keys : Pointer}
  {rules : List (String × Json)} {k : Keywords}

theorem Violation.Cause.under {y : Violation} (hc : y.Cause inner value)
    (h : Step schema document token keys inner value) :
    (y.under [token] keys).Cause schema document := by
  cases hc with
  | falseSchema hg => exact .falseSchema (.step h hg)
  | keyword hg hs hname hvalue hr =>
    refine .keyword (.step h hg) ?_ hname hvalue hr
    rw [List.append_assoc, ← hs]
    rfl

/-- A keyword of the whole schema is the cause of a violation at the whole document. -/
theorem Violation.Cause.here {name : String} (hk : keywords? rules = some k)
    (hx : x ∈ k.toSchema.violations document) (hi : x.instancePath = [])
    (hs : x.schemaPath = [name]) (hname : name ∈ keywordNames)
    (hvalue : ∃ value, rules.lookup name = some value) : x.Cause (.object rules) document := by
  obtain ⟨value, hvalue⟩ := hvalue
  have hrefuses : Refuses (.object rules) document := by
    refine ⟨k.toSchema, by rw [ofJson?, hk, Option.map_some], fun haccepts => ?_⟩
    rw [(violations_eq_nil_iff _ _).mpr haccepts] at hx
    nomatch hx
  have hgoverns : Governs (.object rules) document x.instancePath [] (.object rules) document := by
    rw [hi]
    exact .whole _ _
  exact .keyword hgoverns hs hname hvalue hrefuses

theorem cases_of_ofJson? (h : ofJson? schema = some s) :
    (schema = .bool true ∧ s = .always) ∨ (schema = .bool false ∧ s = .never) ∨
      ∃ rules k, schema = .object rules ∧ keywords? rules = some k ∧ s = k.toSchema := by
  cases schema with
  | bool b => cases b <;> cases h <;> simp
  | object rules =>
    rw [ofJson?] at h
    obtain ⟨k, hk, rfl⟩ := Option.map_eq_some_iff.mp h
    exact .inr (.inr ⟨rules, k, rfl, hk, rfl⟩)
  | _ => nomatch h

/-- A member that has been read is there. -/
theorem Reads.exists_lookup {α : Type} {name : String} {read : Json → Option α} {value : Option α}
    (h : Reads rules name read value) (hvalue : ∃ a, value = some a) :
    ∃ v, rules.lookup name = some v := by
  obtain ⟨a, rfl⟩ := hvalue
  obtain ⟨v, hv, -⟩ := h.exists_of_eq_some
  exact ⟨v, hv⟩

theorem Keywords.Of.exists_required (hk : k.Of rules) (h : k.required ≠ []) :
    ∃ v, rules.lookup "required" = some v := by
  have hrequired := hk.required
  cases hv : rules.lookup "required" with
  | some v => exact ⟨v, rfl⟩
  | none =>
    rw [hv] at hrequired
    exact absurd (Option.some.inj hrequired).symm h

/-- A violation is due to a keyword of the whole schema, or it is one of a part of the document,
seen from the whole. -/
theorem cause_or_step (hrules : Ordered (.object rules)) (hdocument : document.Ordered)
    (hread : keywords? rules = some k) (hx : x ∈ k.toSchema.violations document) :
    x.Cause (.object rules) document ∨ ∃ token keys inner value t y,
      Step (.object rules) document token keys inner value ∧ ofJson? inner = some t ∧
        y ∈ t.violations value ∧ x = y.under [token] keys := by
  have hk := Keywords.of_keywords? hread
  have htype (h : x ∈ typeViolations k.types document) : x.Cause (.object rules) document := by
    obtain ⟨hts, hi, hs⟩ := of_mem_typeViolations h
    exact .here hread hx hi hs (by decide) (hk.types.exists_lookup hts)
  cases document with
  | object members =>
    obtain h | h | h | h := mem_violations_object.mp hx
    · exact .inl (htype h)
    · obtain ⟨hne, hi, hs⟩ := of_mem_missingViolations h
      exact .inl (.here hread hx hi hs (by decide) (hk.exists_required hne))
    · obtain ⟨ps, hps, h⟩ := mem_namedViolations.mp h
      obtain ⟨⟨name, s⟩, hs, w, hw, y, hy, rfl⟩ := mem_propertyViolations.mp h
      obtain ⟨inner, hstep, hinner⟩ := Step.of_property hk hrules hps hs hw
      exact .inr ⟨_, _, _, _, _, y, hstep, hinner, hy, rfl⟩
    · obtain ⟨s, hs, ⟨-, h⟩ | ⟨-, ⟨name, w⟩, hw, y, hy, rfl⟩⟩ := mem_extraViolations.mp h
      · obtain ⟨hi, hp⟩ := of_mem_closedViolations h
        exact .inl (.here hread hx hi hp (by decide) (hk.closedBy.exists_lookup ⟨_, hs⟩))
      · obtain ⟨inner, hstep, hinner⟩ := Step.of_extra hk hdocument hs hw
        exact .inr ⟨_, _, _, _, _, y, hstep, hinner, hy, rfl⟩
  | array items =>
    obtain h | h | h := mem_violations_array.mp hx
    · exact .inl (htype h)
    · obtain ⟨hi, ⟨hn, hp⟩ | ⟨hn, hp⟩⟩ := of_mem_countViolations h
      · exact .inl (.here hread hx hi hp (by decide) (hk.minItems.exists_lookup hn))
      · exact .inl (.here hread hx hi hp (by decide) (hk.maxItems.exists_lookup hn))
    · obtain ⟨s, hs, i, w, hw, y, hy, rfl⟩ := mem_itemViolations.mp h
      obtain ⟨inner, hstep, hinner⟩ := Step.of_item hk hs hw
      exact .inr ⟨_, _, _, _, _, y, hstep, hinner, hy, rfl⟩
  | _ => exact .inl (htype (by simpa [Keywords.toSchema, violations] using hx))

/-- Every violation has a cause. -/
theorem cause_of_mem (hschema : schema.Ordered) (hdocument : document.Ordered)
    (hs : ofJson? schema = some s) (hx : x ∈ s.violations document) : x.Cause schema document := by
  -- Each step leads to a smaller part of the document, with a schema of its own.
  induction hdocument using Ordered.induction generalizing schema s x with
  | part document hdocument ih =>
    obtain ⟨rfl, rfl⟩ | ⟨rfl, rfl⟩ | ⟨rules, k, rfl, hread, rfl⟩ := cases_of_ofJson? hs
    · nomatch hx
    · obtain rfl := List.mem_singleton.mp hx
      exact .falseSchema (.whole _ _)
    · obtain hcause | ⟨token, keys, inner, value, t, y, hstep, hinner, hy, rfl⟩ :=
        cause_or_step hschema hdocument hread hx
      · exact hcause
      · have hcause := ih token value hstep.child? (hstep.ordered hschema hdocument).1 hinner hy
        exact hcause.under hstep

/-! ### Reports -/

theorem mem_report : x ∈ s.report v ↔ x ∈ s.violations v := List.mem_mergeSort

theorem report_eq_nil_iff : s.report v = [] ↔ s.accepts v := by
  rw [← violations_eq_nil_iff, ← List.length_eq_zero_iff, report, List.length_mergeSort,
    List.length_eq_zero_iff]

namespace Violation

theorem keyword_of_append {path : Pointer} {name : String} (h : x.schemaPath = path ++ [name]) :
    x.keyword = String.ofList (Pointer.segment name) := by
  have hchars : x.schemaPath.toChars = path.toChars ++ '/' :: Pointer.segment name := by
    simp [h, Pointer.toChars, Pointer.segment]
  have hslash : ∀ c ∈ (Pointer.segment name).reverse, decide (c ≠ '/') = true := by
    intro c hc
    have hmem := List.mem_reverse.mp hc
    exact decide_eq_true fun heq => Pointer.slash_not_mem_segment name (heq ▸ hmem)
  rw [keyword, hchars, List.reverse_append, List.reverse_cons, List.append_assoc,
    List.takeWhile_append_of_pos hslash]
  simp

theorem keyword_of_nil (h : x.schemaPath = []) : x.keyword = "" := by
  rw [keyword, h]
  rfl

/-- The keyword of a report is the last of the parts of the schema path between slashes. -/
theorem getLast?_splitSlash (x : Violation) :
    (Pointer.splitSlash x.schemaPath.toText.toList).getLast? = some x.keyword.toList := by
  rw [Pointer.toText, String.toList_ofList, Pointer.splitSlash_toChars]
  obtain hnil | ⟨path, name, h⟩ := x.schemaPath.eq_nil_or_concat'
  · rw [keyword_of_nil hnil, hnil]
    rfl
  · rw [keyword_of_append h, h, String.toList_ofList, List.map_append, ← List.cons_append]
    exact List.getLast?_concat

theorem keyword_of_mem_keywordNames {path : Pointer} {name : String}
    (h : x.schemaPath = path ++ [name]) (hname : name ∈ keywordNames) : x.keyword = name := by
  have hsegment : ∀ name ∈ keywordNames, String.ofList (Pointer.segment name) = name := by decide
  rw [keyword_of_append h, hsegment name hname]

/-- A violation as a reader of its report finds it: the texts of its two paths are pointers that
lead to a value of the document and to a place of the schema; its keyword is what stands after the
last slash; and the value is refused, by that place if it is a false schema, else by the object of
which the place is a keyword. -/
def Genuine (schema document : Json) (x : Violation) : Prop :=
  ∃ instancePath schemaPath value place,
    Pointer.ofChars? x.instancePath.toText.toList = some instancePath ∧
    Pointer.ofChars? x.schemaPath.toText.toList = some schemaPath ∧
    resolve? instancePath document = some value ∧ resolve? schemaPath schema = some place ∧
    (Pointer.splitSlash x.schemaPath.toText.toList).getLast? = some x.keyword.toList ∧
    (place = .bool false ∧ Governs schema document instancePath schemaPath place value ∨
      ∃ path rules, schemaPath = path ++ [x.keyword] ∧ x.keyword ∈ keywordNames ∧
        rules.lookup x.keyword = some place ∧ resolve? path schema = some (.object rules) ∧
        Governs schema document instancePath path (.object rules) value ∧
        Refuses (.object rules) value)

theorem Cause.genuine (h : x.Cause schema document) : x.Genuine schema document := by
  have hread (p : Pointer) : Pointer.ofChars? p.toText.toList = some p := by
    rw [Pointer.toText, String.toList_ofList, Pointer.ofChars?_toChars]
  cases h with
  | falseSchema hg =>
    obtain ⟨hvalue, hplace⟩ := hg.resolve?
    exact ⟨_, _, _, _, hread _, hread _, hvalue, hplace, x.getLast?_splitSlash, .inl ⟨rfl, hg⟩⟩
  | @keyword path rules w name value hg hs hname hlookup hr =>
    obtain ⟨hvalue, hobject⟩ := hg.resolve?
    have hkeyword := keyword_of_mem_keywordNames hs hname
    have hplace : resolve? x.schemaPath schema = some value := by
      rw [hs, Json.resolve?_append, hobject, Option.bind_some, Json.resolve?_cons, Json.child?,
        hlookup]
      cases value <;> rfl
    refine ⟨_, _, _, _, hread _, hread _, hvalue, hplace, x.getLast?_splitSlash,
      .inr ⟨path, rules, ?_, ?_, ?_, hobject, hg, hr⟩⟩ <;> rwa [hkeyword]

end Violation

/-- Documents read from bytes have their objects in order. Of such a schema and such a document: the
report is empty exactly if the document is accepted, and everything in it is genuine. -/
theorem violations_genuine :
    (∀ bytes v, Json.ofBytes? bytes = some v → v.Ordered) ∧
    ∀ schema document s, schema.Ordered → document.Ordered → ofJson? schema = some s →
      (s.accepts document ↔ s.report document = []) ∧
        ∀ x ∈ s.report document, x.Genuine schema document := by
  refine ⟨fun _ _ => Json.ordered_of_ofBytes?, fun schema document s hschema hdocument hs => ?_⟩
  refine ⟨report_eq_nil_iff.symm, fun x hx => ?_⟩
  have hcause := cause_of_mem hschema hdocument hs (mem_report.mp hx)
  exact hcause.genuine

/-- Names with a slash, with a tilde and without a character. -/
theorem violations_genuine_of_odd_names :
    let schema : Json := .object [("properties", .object
      [("", .bool false), ("a/b", .object [("required", .array [.string "~"])])])]
    let document : Json := .object [("", .null), ("a/b", .object [("~1", .null)])]
    ∃ s, ofJson? schema = some s ∧ schema.Ordered ∧ document.Ordered ∧
      (s.violations document).map (fun x => (x.instancePath.toText, x.schemaPath.toText)) =
        [("/", "/properties/"), ("/a~1b", "/properties/a~1b/required")] ∧
      ∀ x ∈ s.report document, x.Genuine schema document := by
  intro schema document
  obtain ⟨s, hs⟩ : ∃ s, ofJson? schema = some s := ⟨_, rfl⟩
  have hnames : ["", "a/b"].Pairwise (· < ·) := by decide
  have hschema : schema.Ordered := by simpa [schema, Json.ascending_iff] using hnames
  have hdocument : document.Ordered := by simpa [document, Json.ascending_iff] using hnames
  obtain ⟨-, hgenuine⟩ := violations_genuine.2 schema document s hschema hdocument hs
  refine ⟨s, hs, hschema, hdocument, ?_, hgenuine⟩
  cases hs
  decide +kernel

end SceneRelay.Schema
