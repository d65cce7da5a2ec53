import SceneRelay.Proofs.Json.Ordered
import SceneRelay.Proofs.Json.Pointer
import SceneRelay.Schema.Document

/-! Which place of a schema document is held against which value of a document, both given by the
pointers that lead there; and what a schema document says at each of its keywords. -/
namespace SceneRelay.Schema
open Json (Pointer resolve? Ordered)

/-- The keywords that ask something of a value. -/
def keywordNames : List String :=
  ["type", "required", "properties", "additionalProperties", "items", "minItems", "maxItems"]

/-! ### Reading keywords -/

/-- The member of the name, if there is one, is read as the value. -/
def Reads {α : Type} (rules : List (String × Json)) (name : String) (read : Json → Option α)
    (value : Option α) : Prop :=
  (rules.lookup name).map read = value.map some

/-- Keywords are those of an object with these members. -/
structure Keywords.Of (rules : List (String × Json)) (k : Keywords) : Prop where
  types : Reads rules "type" types? k.types
  required : (rules.lookup "required").elim (some []) names? = some k.required
  properties : Reads rules "properties" properties? k.properties
  closedBy : Reads rules "additionalProperties" ofJson? k.closedBy
  each : Reads rules "items" ofJson? k.each
  minItems : Reads rules "minItems" limit? k.minItems
  maxItems : Reads rules "maxItems" limit? k.maxItems

variable {α : Type} {rules : List (String × Json)} {name : String} {read : Json → Option α}
  {value : Option α} {a : α} {v w : Json}

theorem Reads.exists_of_eq_some (h : Reads rules name read (some a)) :
    ∃ v, rules.lookup name = some v ∧ read v = some a :=
  Option.map_eq_some_iff.mp h

theorem Reads.exists_of_lookup (h : Reads rules name read value) (hv : rules.lookup name = some v) :
    ∃ a, value = some a ∧ read v = some a := by
  rw [Reads, hv, Option.map_some, eq_comm, Option.map_eq_some_iff] at h
  obtain ⟨a, ha, hread⟩ := h
  exact ⟨a, ha, hread.symm⟩

/-- A member that is no keyword changes nothing. -/
theorem Keywords.Of.of_tail {k : Keywords} (h : k.Of rules) (hname : name ∉ keywordNames) :
    k.Of ((name, v) :: rules) := by
  have hlookup : ∀ keyword ∈ keywordNames,
      List.lookup keyword ((name, v) :: rules) = rules.lookup keyword := by
    intro keyword hk
    have hne : (keyword == name) = false := beq_eq_false_iff_ne.mpr fun heq => hname (heq ▸ hk)
    rw [List.lookup_cons, hne]
  simp only [keywordNames, List.forall_mem_cons] at hlookup
  obtain ⟨htypes, hrequired, hproperties, hclosedBy, heach, hmin, hmax, -⟩ := hlookup
  obtain ⟨_, _, _, _, _, _, _⟩ := h
  unfold Reads at *
  constructor <;> simp only [Reads, *]

/-- The keywords that are read from an object are those of its members. -/
theorem Keywords.of_keywords? {k : Keywords} (h : keywords? rules = some k) : k.Of rules := by
  induction rules generalizing k with
  | nil =>
    cases h
    exact ⟨rfl, rfl, rfl, rfl, rfl, rfl, rfl⟩
  | cons m rules ih =>
    obtain ⟨name, v⟩ := m
    rw [keywords?] at h
    split at h
    · nomatch h
    · rename_i k' hk'
      have hof := ih hk'
      split at h
      case h_8 =>
        split at h
        · cases h
          exact hof.of_tail (by decide)
        · nomatch h
      case h_9 | h_10 | h_11 =>
        split at h
        · cases h
          exact hof.of_tail (by decide)
        · nomatch h
      case h_12 =>
        cases h
        exact hof.of_tail (by simp_all [keywordNames])
      all_goals
        obtain ⟨a, ha, rfl⟩ := Option.map_eq_some_iff.mp h
        obtain ⟨htypes, hrequired, hproperties, hclosedBy, heach, hmin, hmax⟩ := hof
        unfold Reads at *
        constructor <;> simp [Reads, List.lookup_cons, *]

variable {members : List (String × Json)} {ps : List (String × Schema)} {s : Schema}

theorem mem_of_namedSchemas? (h : namedSchemas? members = some ps) :
    (name, s) ∈ ps ↔ ∃ v, (name, v) ∈ members ∧ ofJson? v = some s := by
  induction members generalizing ps with
  | nil =>
    cases h
    simp
  | cons m members ih =>
    obtain ⟨n, v⟩ := m
    rw [namedSchemas?] at h
    split at h
    · rename_i s' ps' hs' hps'
      cases h
      constructor
      · intro hm
        obtain heq | hm := List.mem_cons.mp hm
        · cases heq
          exact ⟨v, List.mem_cons_self, hs'⟩
        · obtain ⟨u, hu, hread⟩ := (ih hps').mp hm
          exact ⟨u, List.mem_cons_of_mem _ hu, hread⟩
      · rintro ⟨u, hu, hread⟩
        obtain heq | hu := List.mem_cons.mp hu
        · cases heq
          cases hs'.symm.trans hread
          exact List.mem_cons_self
        · exact List.mem_cons_of_mem _ ((ih hps').mpr ⟨u, hu, hread⟩)
    · nomatch h

theorem exists_of_namedSchemas? (h : namedSchemas? members = some ps) (hm : (name, v) ∈ members) :
    ∃ s, ofJson? v = some s := by
  induction members generalizing ps with
  | nil => nomatch hm
  | cons m members ih =>
    rw [namedSchemas?] at h
    split at h
    · rename_i s' ps' hs' hps'
      obtain heq | hm := List.mem_cons.mp hm
      · cases heq
        exact ⟨s', hs'⟩
      · exact ih hps' hm
    · nomatch h

/-! ### Places -/

/-- One step down: an object's member with the schema that `properties` has for its name, or with
that for all members that `properties` does not name, or an array's item with the schema for items.
A value of the document is found by its token, its schema by one or two keys. -/
inductive Step : Json → Json → String → Pointer → Json → Json → Prop
  | property {rules members properties name inner value}
      (hp : rules.lookup "properties" = some (.object properties))
      (hs : properties.lookup name = some inner) (hv : members.lookup name = some value) :
      Step (.object rules) (.object members) name ["properties", name] inner value
  | extra {rules members name inner value}
      (hp : ∀ properties, rules.lookup "properties" = some (.object properties) →
        properties.lookup name = none)
      (hs : rules.lookup "additionalProperties" = some inner)
      (hv : members.lookup name = some value) :
      Step (.object rules) (.object members) name ["additionalProperties"] inner value
  | item {rules items inner value} {i : Nat} (hs : rules.lookup "items" = some inner)
      (hv : items[i]? = some value) :
      Step (.object rules) (.array items) (toString i) ["items"] inner value

/-- The place at the second pointer into the schema is held against the value at the first pointer
into the document. -/
inductive Governs : Json → Json → Pointer → Pointer → Json → Json → Prop
  | whole (schema document) : Governs schema document [] [] schema document
  | step {schema document token keys inner value path place w} {i : Pointer}
      (h : Step schema document token keys inner value) (hg : Governs inner value i path place w) :
      Governs schema document (token :: i) (keys ++ path) place w

variable {schema document inner value place : Json} {token : String} {keys path : Pointer}

theorem Step.child? (h : Step schema document token keys inner value) :
    Json.child? token document = some value := by
  cases h with
  | property _ _ hv => exact hv
  | extra _ _ hv => exact hv
  | item _ hv => rw [Json.child?_toString, hv]

theorem Step.resolve? (h : Step schema document token keys inner value) :
    resolve? keys schema = some inner := by
  cases h with
  | property hp hs => simp [Json.resolve?, hp, hs]
  | extra _ hs => simp [Json.resolve?, hs]
  | item hs => simp [Json.resolve?, hs]

theorem Step.ordered (h : Step schema document token keys inner value) (hs : schema.Ordered)
    (hd : document.Ordered) : inner.Ordered ∧ value.Ordered := by
  refine ⟨?_, hd.of_child? h.child?⟩
  cases h with
  | property hp hs' => exact (hs.of_lookup hp).of_lookup hs'
  | extra _ hs' => exact hs.of_lookup hs'
  | item hs' => exact hs.of_lookup hs'

/-- Both pointers lead where they should. -/
theorem Governs.resolve? {i : Pointer} (h : Governs schema document i path place w) :
    resolve? i document = some w ∧ resolve? path schema = some place := by
  induction h with
  | whole => exact ⟨by cases document <;> rfl, by cases schema <;> rfl⟩
  | step h _ ih =>
    rw [Json.resolve?_cons, h.child?, Json.resolve?_append, h.resolve?]
    exact ih

/-- The last step to a place, if it is not the whole schema. -/
theorem Governs.last {i : Pointer} (h : Governs schema document i path place w) :
    (i = [] ∧ path = [] ∧ place = schema ∧ w = document) ∨
      ∃ i' path' outer u token keys, Governs schema document i' path' outer u ∧
        Step outer u token keys place w ∧ i = i' ++ [token] ∧ path = path' ++ keys := by
  induction h with
  | whole => exact .inl ⟨rfl, rfl, rfl, rfl⟩
  | @step schema document token keys _ _ _ _ _ _ h _ ih =>
    right
    obtain ⟨rfl, rfl, rfl, rfl⟩ | ⟨i', path', outer, u, token', keys', hg', h', rfl, rfl⟩ := ih
    · exact ⟨[], [], _, _, token, keys, .whole _ _, h, rfl, List.append_nil _⟩
    · exact ⟨_, _, outer, u, token', keys', .step h hg', h', rfl, (List.append_assoc _ _ _).symm⟩

/-- Pointers that lead from a schema to a schema inside it. -/
def isPlace : Pointer → Bool
  | [] => true
  | "properties" :: _ :: p => isPlace p
  | "additionalProperties" :: p => isPlace p
  | "items" :: p => isPlace p
  | _ => false

theorem isPlace_append {p q : Pointer} (h : isPlace p) : isPlace (p ++ q) = isPlace q := by
  fun_induction isPlace p with
  | case1 => rfl
  | case2 _ p ih => exact ih h
  | case3 p ih => exact ih h
  | case4 p ih => exact ih h
  | case5 => nomatch h

theorem Step.isPlace (h : Step schema document token keys inner value) : isPlace keys := by
  cases h <;> rfl

theorem Governs.isPlace {i : Pointer} (h : Governs schema document i path place w) :
    isPlace path := by
  induction h with
  | whole => rfl
  | step h _ ih => rwa [isPlace_append h.isPlace]

/-! ### The steps of a schema that has been read -/

theorem exists_of_properties? (h : properties? v = some ps) :
    ∃ properties, v = .object properties ∧ namedSchemas? properties = some ps := by
  cases v with
  | object properties => exact ⟨properties, rfl, h⟩
  | _ => nomatch h

theorem mem_extras {properties : Option (List (String × Schema))} {m : String × Json} :
    m ∈ extras properties members ↔
      m ∈ members ∧ ∀ ps, properties = some ps → ∀ p ∈ ps, p.1 ≠ m.1 := by
  cases properties <;> simp [extras]

variable {k : Keywords} {items : List Json} {i : Nat}

/-- The properties that have been read are those of the document. -/
theorem Keywords.Of.properties_iff (hk : k.Of rules) : k.properties = some ps ↔
    ∃ properties, rules.lookup "properties" = some (.object properties) ∧
      namedSchemas? properties = some ps := by
  constructor
  · intro h
    have hreads := hk.properties
    rw [h] at hreads
    obtain ⟨v, hv, hread⟩ := hreads.exists_of_eq_some
    obtain ⟨properties, rfl, hps⟩ := exists_of_properties? hread
    exact ⟨properties, hv, hps⟩
  · rintro ⟨properties, hv, hps⟩
    obtain ⟨ps', hps', hread⟩ := hk.properties.exists_of_lookup hv
    cases hps.symm.trans hread
    exact hps'

theorem Step.of_property (hk : k.Of rules) (hrules : Ordered (.object rules))
    (hps : k.properties = some ps) (hs : (name, s) ∈ ps) (hv : members.lookup name = some value) :
    ∃ inner, Step (.object rules) (.object members) name ["properties", name] inner value ∧
      ofJson? inner = some s := by
  obtain ⟨properties, hp, hread⟩ := hk.properties_iff.mp hps
  obtain ⟨inner, hinner, hs⟩ := (mem_of_namedSchemas? hread).mp hs
  cases hrules.of_lookup hp with
  | object ho => exact ⟨inner, .property hp (ho.lookup_eq_some_iff.mpr hinner) hv, hs⟩

theorem Step.of_extra (hk : k.Of rules) (hmembers : Ordered (.object members))
    (hs : k.closedBy = some s) (hv : (name, value) ∈ extras k.properties members) :
    ∃ inner, Step (.object rules) (.object members) name ["additionalProperties"] inner value ∧
      ofJson? inner = some s := by
  have hreads := hk.closedBy
  rw [hs] at hreads
  obtain ⟨inner, hinner, hread⟩ := hreads.exists_of_eq_some
  obtain ⟨hv, hextra⟩ := mem_extras.mp hv
  refine ⟨inner, .extra (fun properties hp => ?_) hinner ?_, hread⟩
  · -- A schema for the name would be among the properties that have been read.
    obtain ⟨ps, hps, hnamed⟩ := hk.properties.exists_of_lookup hp
    refine Option.eq_none_iff_forall_ne_some.mpr fun v hlookup => ?_
    have hmem := Json.mem_of_lookup hlookup
    obtain ⟨t, ht⟩ := exists_of_namedSchemas? hnamed hmem
    exact hextra ps hps (name, t) ((mem_of_namedSchemas? hnamed).mpr ⟨v, hmem, ht⟩) rfl
  · cases hmembers with
    | object ho => exact ho.lookup_eq_some_iff.mpr hv

theorem Step.of_item (hk : k.Of rules) (hs : k.each = some s) (hv : items[i]? = some value) :
    ∃ inner, Step (.object rules) (.array items) (toString i) ["items"] inner value ∧
      ofJson? inner = some s := by
  have hreads := hk.each
  rw [hs] at hreads
  obtain ⟨inner, hinner, hread⟩ := hreads.exists_of_eq_some
  exact ⟨inner, .item hinner hv, hread⟩

end SceneRelay.Schema
