import Mathlib.Algebra.Order.Ring.Nat
import Mathlib.Algebra.Ring.Int.Defs
import Mathlib.Data.List.Forall2
import Mathlib.Logic.Relation
import SceneRelay.Proofs.Json.RoundTrip
import SceneRelay.Proofs.Router.Gates

/-! The detections of a camera message are the well-formed entries of its categories, one by one and
in their order. Other entries do not matter, nor do categories that are no arrays. -/
namespace SceneRelay

theorem JsonNumber.toInt64?_eq_some_iff {k : JsonNumber} {n : Int} :
    k.toInt64? = some n ↔ k = .integer n ∧ -2 ^ 63 ≤ n ∧ n < 2 ^ 63 := by
  have hword : (twoTo 63 : Int) = 2 ^ 63 := by decide
  cases k with
  | integer m =>
    simp only [toInt64?, hword, Option.ite_none_right_eq_some, Option.some.injEq, integer.injEq]
    constructor
    · rintro ⟨hm, rfl⟩
      exact ⟨rfl, hm⟩
    · rintro ⟨rfl, hm⟩
      exact ⟨hm, rfl⟩
  | double x => simp [toInt64?]

namespace Json
variable {v : Json}

theorem asNumber?_eq_some_iff {n : JsonNumber} : v.asNumber? = some n ↔ v = .number n := by
  cases v <;> simp [asNumber?]

theorem asObject?_eq_some_iff {members : List (String × Json)} :
    v.asObject? = some members ↔ v = .object members := by
  cases v <;> simp [asObject?]

end Json

namespace BoundingBox
variable {members : List (String × Json)} {b : BoundingBox}

/-- The member of the name is a number, of this value as a double. -/
def Measures (members : List (String × Json)) (name : String) (x : Binary64) : Prop :=
  ∃ n, members.lookup name = some (.number n) ∧ n.toBinary64 = x

/-- The four numbers of an object are those of a box. -/
structure Spans (members : List (String × Json)) (b : BoundingBox) : Prop where
  x : Measures members "x" b.x
  y : Measures members "y" b.y
  width : Measures members "width" b.width
  height : Measures members "height" b.height

theorem measures_iff {name : String} {x : Binary64} : Measures members name x ↔
    ((members.lookup name).bind Json.asNumber?).map JsonNumber.toBinary64 = some x := by
  simp [Measures, Option.bind_eq_some_iff, Json.asNumber?_eq_some_iff]

theorem ofJson?_object_eq_some_iff : ofJson? (.object members) = some b ↔ Spans members b := by
  simp only [ofJson?, Json.asObject?, Option.bind_eq_bind, Option.pure_def, Option.bind_some,
    Option.bind_eq_some_iff, ← measures_iff, Option.some.injEq]
  constructor
  · rintro ⟨x, hx, y, hy, width, hwidth, height, hheight, rfl⟩
    exact ⟨hx, hy, hwidth, hheight⟩
  · rintro ⟨hx, hy, hwidth, hheight⟩
    exact ⟨_, hx, _, hy, _, hwidth, _, hheight, rfl⟩

theorem ofJson?_eq_some_iff {v : Json} :
    ofJson? v = some b ↔ ∃ members, v = .object members ∧ Spans members b := by
  cases v with
  | object members => simp [ofJson?_object_eq_some_iff]
  | _ => simp [ofJson?, Json.asObject?]

theorem exists_spans_iff : (∃ b, Spans members b) ↔
    ∀ name ∈ ["x", "y", "width", "height"], ∃ n, members.lookup name = some (.number n) := by
  simp only [List.forall_mem_cons, List.not_mem_nil, IsEmpty.forall_iff, implies_true, and_true]
  constructor
  · rintro ⟨b, ⟨x, hx, -⟩, ⟨y, hy, -⟩, ⟨width, hwidth, -⟩, ⟨height, hheight, -⟩⟩
    exact ⟨⟨x, hx⟩, ⟨y, hy⟩, ⟨width, hwidth⟩, ⟨height, hheight⟩⟩
  · rintro ⟨⟨x, hx⟩, ⟨y, hy⟩, ⟨width, hwidth⟩, ⟨height, hheight⟩⟩
    exact ⟨⟨x.toBinary64, y.toBinary64, width.toBinary64, height.toBinary64⟩,
      ⟨x, hx, rfl⟩, ⟨y, hy, rfl⟩, ⟨width, hwidth, rfl⟩, ⟨height, hheight, rfl⟩⟩

end BoundingBox

namespace Detection
variable {entry : Json} {entries : List Json} {d : Detection} {ds : List Detection}

/-- An entry that counts: an object whose box is an object with four numbers. -/
def WellFormed (entry : Json) : Prop :=
  ∃ box, entry.member? "bounding_box_px" = some (.object box) ∧
    ∀ name ∈ ["x", "y", "width", "height"], ∃ n, box.lookup name = some (.number n)

/-- What an entry says of a detection: where its box is, and its number, if that is an integer of a
signed word. -/
structure Describes (entry : Json) (d : Detection) : Prop where
  box : ∃ box, entry.member? "bounding_box_px" = some (.object box) ∧ d.box.Spans box
  id : ∀ n, d.id = some n ↔
    entry.member? "id" = some (.number (.integer n)) ∧ -2 ^ 63 ≤ n ∧ n < 2 ^ 63

theorem id_eq_some_iff {value : Option Json} {n : Int} :
    (value.bind Json.asNumber?).bind JsonNumber.toInt64? = some n ↔
      value = some (.number (.integer n)) ∧ -2 ^ 63 ≤ n ∧ n < 2 ^ 63 := by
  simp only [Option.bind_eq_some_iff, Json.asNumber?_eq_some_iff, JsonNumber.toInt64?_eq_some_iff]
  constructor
  · rintro ⟨_, ⟨_, hvalue, rfl⟩, rfl, hn⟩
    exact ⟨hvalue, hn⟩
  · rintro ⟨hvalue, hn⟩
    exact ⟨_, ⟨_, hvalue, rfl⟩, rfl, hn⟩

theorem ofJson?_eq_some_iff : ofJson? entry = some d ↔ Describes entry d := by
  cases entry with
  | object members =>
    simp only [ofJson?, Json.asObject?, Option.bind_eq_bind, Option.pure_def, Option.bind_some,
      Option.bind_eq_some_iff, BoundingBox.ofJson?_eq_some_iff, Option.some.injEq]
    constructor
    · rintro ⟨_, hbox, _, ⟨box, rfl, hspans⟩, rfl⟩
      exact ⟨⟨box, hbox, hspans⟩, fun n => id_eq_some_iff⟩
    · rintro ⟨⟨box, hbox, hspans⟩, hid⟩
      refine ⟨_, hbox, d.box, ⟨box, rfl, hspans⟩, ?_⟩
      -- The numbers that an optional number may be determine it.
      exact congrArg (Detection.mk · d.box)
        (Option.ext fun n => id_eq_some_iff.trans (hid n).symm)
  | _ =>
    refine iff_of_false (by simp [ofJson?, Json.asObject?]) ?_
    rintro ⟨⟨box, hbox, -⟩, -⟩
    cases hbox

/-- The well-formed entries are those that say something of a detection. -/
theorem isSome_ofJson?_iff : (ofJson? entry).isSome ↔ WellFormed entry := by
  simp only [Option.isSome_iff_exists, ofJson?_eq_some_iff, WellFormed,
    ← BoundingBox.exists_spans_iff]
  constructor
  · rintro ⟨d, ⟨box, hbox, hspans⟩, -⟩
    exact ⟨box, hbox, d.box, hspans⟩
  · rintro ⟨box, hbox, b, hspans⟩
    exact ⟨⟨((entry.member? "id").bind Json.asNumber?).bind JsonNumber.toInt64?, b⟩,
      ⟨box, hbox, hspans⟩, fun n => id_eq_some_iff⟩

instance : DecidablePred WellFormed := fun _ => decidable_of_iff _ isSome_ofJson?_iff

/-- What is read from a list of entries are the detections of the well-formed ones. -/
theorem filterMap_ofJson?_eq_iff : entries.filterMap ofJson? = ds ↔
    List.Forall₂ Describes (entries.filter WellFormed) ds := by
  -- A well-formed entry gives the first detection, any other one is passed over.
  induction entries generalizing ds with
  | nil => simp [eq_comm]
  | cons entry entries ih =>
    by_cases h : WellFormed entry
    · obtain ⟨d, hd⟩ := Option.isSome_iff_exists.mp (isSome_ofJson?_iff.mpr h)
      rw [List.filterMap_cons_some hd, List.filter_cons_of_pos (by simpa using h),
        List.forall₂_cons_left_iff]
      constructor
      · rintro rfl
        exact ⟨d, _, ofJson?_eq_some_iff.mp hd, ih.mp rfl, rfl⟩
      · rintro ⟨d', ds', hd', hds', rfl⟩
        rw [ih.mpr hds', Option.some.inj (hd.symm.trans (ofJson?_eq_some_iff.mpr hd'))]
    · have hnone : ofJson? entry = none := by simpa using mt isSome_ofJson?_iff.mp h
      rw [List.filterMap_cons_none hnone, List.filter_cons_of_neg (by simpa using h), ih]

theorem length_filterMap_ofJson? (entries : List Json) :
    (entries.filterMap ofJson?).length = entries.countP WellFormed := by
  rw [(filterMap_ofJson?_eq_iff.mp rfl).length_eq.symm, List.countP_eq_length_filter]

end Detection

namespace CameraMessage
variable {name : String} {ds : List Detection} {objects objects' : List (String × Json)}

theorem categories_cons (name : String) (v : Json) (objects : List (String × Json)) :
    categories ((name, v) :: objects) =
      if detections v = [] then categories objects
      else (name, detections v) :: categories objects := by
  by_cases h : detections v = [] <;> simp [categories, h]

theorem categories_append (objects objects' : List (String × Json)) :
    categories (objects ++ objects') = categories objects ++ categories objects' := by
  simp [categories]

theorem length_detections (v : Json) :
    (detections v).length = (v.asArray?.getD []).countP Detection.WellFormed :=
  Detection.length_filterMap_ofJson? _

theorem detections_of_ne_array {v : Json} (h : ∀ entries, v ≠ .array entries) :
    detections v = [] := by
  cases v with
  | array entries => exact absurd rfl (h entries)
  | _ => rfl

theorem detections_array_ne_nil_iff {entries : List Json} :
    detections (.array entries) ≠ [] ↔ ∃ e ∈ entries, Detection.WellFormed e := by
  rw [← List.length_pos_iff, length_detections, Json.asArray?, Option.getD_some,
    List.countP_pos_iff]
  simp only [decide_eq_true_eq]

/-- The categories are the arrays with a well-formed entry. -/
theorem mem_categories_iff : (name, ds) ∈ categories objects ↔
    ∃ entries, (name, .array entries) ∈ objects ∧ (∃ e ∈ entries, Detection.WellFormed e) ∧
      List.Forall₂ Detection.Describes (entries.filter Detection.WellFormed) ds := by
  have hread (entries : List Json) : detections (.array entries) = ds ↔
      List.Forall₂ Detection.Describes (entries.filter Detection.WellFormed) ds :=
    Detection.filterMap_ofJson?_eq_iff
  simp only [categories, List.mem_filter, List.mem_map, Prod.exists, Prod.mk.injEq,
    Bool.not_eq_true', List.isEmpty_eq_false_iff]
  constructor
  · rintro ⟨⟨_, v, hv, rfl, hds⟩, hne⟩
    obtain ⟨entries, rfl⟩ : ∃ entries, v = .array entries := by
      by_contra h
      exact hne (hds.symm.trans (detections_of_ne_array (not_exists.mp h)))
    exact ⟨entries, hv, detections_array_ne_nil_iff.mp (hds ▸ hne), (hread entries).mp hds⟩
  · rintro ⟨entries, hentries, hwf, hds⟩
    have hds := (hread entries).mpr hds
    exact ⟨⟨_, _, hentries, rfl, hds⟩, hds ▸ detections_array_ne_nil_iff.mpr hwf⟩

/-- The categories keep their order. -/
theorem categories_names_sublist (objects : List (String × Json)) :
    ((categories objects).map Prod.fst).Sublist (objects.map Prod.fst) := by
  have hnames : objects.map Prod.fst =
      (objects.map fun c => (c.1, detections c.2)).map Prod.fst := by simp
  rw [hnames]
  exact List.filter_sublist.map _

/-- The number of detections is that of the well-formed entries. -/
theorem sum_length_categories (objects : List (String × Json)) :
    ((categories objects).map fun c => c.2.length).sum =
      (objects.map fun c => (c.2.asArray?.getD []).countP Detection.WellFormed).sum := by
  induction objects with
  | nil => rfl
  | cons c objects ih =>
    rw [categories_cons, List.map_cons, List.sum_cons, ← ih, ← length_detections]
    split
    · rename_i h
      rw [h, List.length_nil, Nat.zero_add]
    · rfl

theorem detectionCount_eq_sum (m : CameraMessage) :
    m.detectionCount = (m.objects.map fun c => c.2.length).sum := by
  rw [detectionCount, List.sum_eq_foldl, List.foldl_map]

/-- The second objects are the first without one thing that does not count: an entry that is not
well formed, or a category that is no array. -/
inductive Omits : List (String × Json) → List (String × Json) → Prop where
  | entry (before after : List (String × Json)) (name : String) (front back : List Json) {e : Json}
    (h : ¬Detection.WellFormed e) :
    Omits (before ++ (name, .array (front ++ e :: back)) :: after)
      (before ++ (name, .array (front ++ back)) :: after)
  | category (before after : List (String × Json)) (name : String) {v : Json}
    (h : ∀ entries, v ≠ .array entries) :
    Omits (before ++ (name, v) :: after) (before ++ after)

theorem categories_eq_of_omits (h : Omits objects objects') :
    categories objects = categories objects' := by
  cases h with
  | @entry before after name front back e h =>
    have hnone : Detection.ofJson? e = none := by simpa using mt Detection.isSome_ofJson?_iff.mp h
    have hsame :
        detections (.array (front ++ e :: back)) = detections (.array (front ++ back)) := by
      simp [detections, Json.asArray?, hnone]
    simp only [categories_append, categories_cons, hsame]
  | category before after name h =>
    simp only [categories_append, categories_cons, detections_of_ne_array h, if_true]

/-- Such things may be left out and put in anywhere, any number of times. -/
theorem categories_eq_of_eqvGen (h : Relation.EqvGen Omits objects objects') :
    categories objects = categories objects' := by
  induction h with
  | rel _ _ h => exact categories_eq_of_omits h
  | refl => rfl
  | symm _ _ _ ih => exact ih.symm
  | trans _ _ _ _ _ ih₁ ih₂ => exact ih₁.trans ih₂

/-- A camera message is read from an object with its three fields. -/
theorem ofJson_eq_ok_iff {v : Json} {m : CameraMessage} : ofJson v = .ok m ↔
    v.member? "id" = some (.string m.id) ∧ v.member? "timestamp" = some (.string m.timestamp) ∧
      ∃ objects, v.member? "objects" = some (.object objects) ∧ m.objects = categories objects := by
  have htext {name s : String} : (v.member? name).bind Json.asString? = some s ↔
      v.member? name = some (.string s) := by
    simp [Option.bind_eq_some_iff, Json.asString?_eq_some_iff]
  constructor
  · intro h
    unfold ofJson at h
    split at h
    · nomatch h
    · split at h
      · nomatch h
      · split at h
        · nomatch h
        · rename_i hid _ _ htime _ objects hobjects
          cases h
          refine ⟨htext.mp hid, htext.mp htime, objects, ?_, rfl⟩
          simpa [Option.bind_eq_some_iff, Json.asObject?_eq_some_iff] using hobjects
  · rintro ⟨hid, htime, objects, hobjects, hm⟩
    simp [ofJson, hid, htime, hobjects, Json.asString?, Json.asObject?, ← hm]

/-- A camera message has the two texts of its document. Its categories are, in their order, those of
the document that are arrays with a well-formed entry, each with the detections that these entries
describe, one by one; an `id` written `-0` is a double and no number of a detection. Every well-formed
entry is counted once, and a document with other entries or categories besides that do not count, or
without some of them, is the same message. -/
theorem wellFormed_entries_detected {v : Json} {m : CameraMessage} (h : ofJson v = .ok m) :
    v.member? "id" = some (.string m.id) ∧ v.member? "timestamp" = some (.string m.timestamp) ∧
    ∃ objects, v.member? "objects" = some (.object objects) ∧
      (∀ name ds, (name, ds) ∈ m.objects ↔
        ∃ entries, (name, .array entries) ∈ objects ∧ (∃ e ∈ entries, Detection.WellFormed e) ∧
          List.Forall₂ Detection.Describes (entries.filter Detection.WellFormed) ds) ∧
      (m.objects.map Prod.fst).Sublist (objects.map Prod.fst) ∧
      Json.parse? "-0" = some (.number (.double ⟨true, 0⟩)) ∧
      m.detectionCount =
        (objects.map fun c => (c.2.asArray?.getD []).countP Detection.WellFormed).sum ∧
      ∀ (v' : Json) (objects' : List (String × Json)), v'.member? "id" = v.member? "id" →
        v'.member? "timestamp" = v.member? "timestamp" →
        v'.member? "objects" = some (.object objects') →
        Relation.EqvGen Omits objects objects' → ofJson v' = .ok m := by
  obtain ⟨hid, htime, objects, hobjects, hm⟩ := ofJson_eq_ok_iff.mp h
  refine ⟨hid, htime, objects, hobjects, fun name ds => ?_, ?_,
    Json.parse?_of_number Json.number?_minus_zero, ?_,
    fun v' objects' hid' htime' hobjects' hsame => ?_⟩
  · rw [hm, mem_categories_iff]
  · rw [hm]
    exact categories_names_sublist objects
  · rw [detectionCount_eq_sum, hm, sum_length_categories]
  · exact ofJson_eq_ok_iff.mpr ⟨hid'.trans hid, htime'.trans htime, objects', hobjects',
      hm.trans (categories_eq_of_eqvGen hsame)⟩

/-- Of three cars one has no box: the two others are counted, one of them without its number, and
would be without the third and the tree. -/
theorem wellFormed_entries_detected_of_cars :
    let whole (n : Int) : Json := .number (.integer n)
    let box : Json :=
      .object [("height", whole 40), ("width", whole 30), ("x", whole (-2)), ("y", whole 10)]
    let car (id : Json) : Json := .object [("bounding_box_px", box), ("id", id)]
    let zero : Json := .number (.double ⟨true, 0⟩)
    let doc (objects : List (String × Json)) : Json :=
      .object [("id", .string "gate"), ("objects", .object objects), ("timestamp", .string "noon")]
    let b : BoundingBox := ⟨.ofInt (-2), .ofInt 10, .ofInt 30, .ofInt 40⟩
    let m : CameraMessage := ⟨"gate", "noon", [("car", [⟨some 7, b⟩, ⟨none, b⟩])]⟩
    ofJson (doc [("car", .array [car (whole 7), .object [("id", whole 8)], car zero]),
      ("tree", .null)]) = .ok m ∧
    m.detectionCount = 2 ∧ ofJson (doc [("car", .array [car (whole 7), car zero])]) = .ok m := by
  intro whole box car zero doc b m
  have h : ofJson (doc [("car", .array [car (whole 7), .object [("id", whole 8)], car zero]),
      ("tree", .null)]) = .ok m := by decide +kernel
  obtain ⟨-, -, objects, hobjects, -, -, -, hcount, hsame⟩ := wellFormed_entries_detected h
  cases hobjects
  have hcar := Omits.entry [] [("tree", .null)] "car" [car (whole 7)] [car zero]
    (e := .object [("id", whole 8)]) (by decide +kernel)
  have htree := Omits.category [("car", .array [car (whole 7), car zero])] [] "tree" (v := .null)
    nofun
  exact ⟨h, hcount.trans (by decide +kernel),
    hsame _ _ rfl rfl rfl (.trans _ _ _ (.rel _ _ hcar) (.rel _ _ htree))⟩

end CameraMessage
end SceneRelay
