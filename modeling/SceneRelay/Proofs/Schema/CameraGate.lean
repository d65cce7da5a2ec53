import SceneRelay.Proofs.Router.Pipeline
import SceneRelay.Proofs.Schema.Keywords

/-! Exactly which documents the schema for camera input accepts. Each of them is a camera message, so
that no field is ever missing behind that schema. -/
namespace SceneRelay.Schema

/-- A value that a detection may have as its box: the four numbers may be missing, but nothing else
may stand in their place. -/
def IsBox (v : Json) : Prop :=
  ∃ members, v = .object members ∧
    ∀ name ∈ ["x", "y", "width", "height"], ∀ w, members.lookup name = some w →
      ∃ n, w = .number n

/-- An entry of a category: an object whose number and box may be missing. -/
def IsEntry (v : Json) : Prop :=
  ∃ members, v = .object members ∧
    (∀ w, members.lookup "id" = some w → ∃ n, w = .number n ∧ n.IsInteger) ∧
    ∀ w, members.lookup "bounding_box_px" = some w → IsBox w

/-- A document for the service: an object with texts for camera and time and an object of
categories, each of which is an array of entries. -/
def IsCameraInput (v : Json) : Prop :=
  ∃ members, v = .object members ∧
    (∃ id, members.lookup "id" = some (.string id)) ∧
    (∃ timestamp, members.lookup "timestamp" = some (.string timestamp)) ∧
    ∃ categories, members.lookup "objects" = some (.object categories) ∧
      ∀ c ∈ categories, ∃ entries, c.2 = .array entries ∧ ∀ e ∈ entries, IsEntry e

def boxSchema : Schema :=
  record [] [("height", typed .number), ("width", typed .number), ("x", typed .number),
    ("y", typed .number)]

def entrySchema : Schema :=
  record [] [("bounding_box_px", boxSchema), ("id", typed .integer)]

/-- What the document for camera input means. -/
def cameraSchema : Schema :=
  record ["id", "timestamp", "objects"]
    [("id", typed .string), ("objects", mapOf (listOf entrySchema)), ("timestamp", typed .string)]

theorem ofJson?_cameraDocument : ofJson? cameraDocument = some cameraSchema := rfl

variable {v : Json}

theorem accepts_boxSchema_iff : boxSchema.accepts v ↔ IsBox v := by
  simp only [boxSchema, accepts_record_iff, List.forall_mem_cons, accepts_typed_iff,
    JsonType.admits_number_iff, IsBox]
  refine exists_congr fun members => and_congr_right fun _ => ?_
  constructor
  · rintro ⟨-, hh, hw, hx, hy, -⟩
    exact ⟨hx, hy, hw, hh, by simp⟩
  · rintro ⟨hx, hy, hw, hh, -⟩
    exact ⟨by simp, hh, hw, hx, hy, by simp⟩

theorem accepts_entrySchema_iff : entrySchema.accepts v ↔ IsEntry v := by
  simp only [entrySchema, accepts_record_iff, List.forall_mem_cons, accepts_typed_iff,
    accepts_boxSchema_iff, JsonType.admits_integer_iff, IsEntry]
  refine exists_congr fun members => and_congr_right fun _ => ?_
  constructor
  · rintro ⟨-, hbox, hid, -⟩
    exact ⟨hid, hbox⟩
  · rintro ⟨hid, hbox⟩
    exact ⟨by simp, hbox, hid, by simp⟩

theorem accepts_cameraSchema_iff : cameraSchema.accepts v ↔ IsCameraInput v := by
  simp only [cameraSchema, accepts_record_iff, List.forall_mem_cons, accepts_typed_iff,
    accepts_mapOf_iff, accepts_listOf_iff, accepts_entrySchema_iff, JsonType.admits_string_iff,
    IsCameraInput]
  refine exists_congr fun members => and_congr_right fun _ => ?_
  constructor
  · rintro ⟨⟨⟨_, hi⟩, ⟨_, ht⟩, ⟨_, ho⟩, -⟩, hid, hobjects, htime, -⟩
    obtain ⟨id, rfl⟩ := hid _ hi
    obtain ⟨timestamp, rfl⟩ := htime _ ht
    obtain ⟨categories, rfl, hcategories⟩ := hobjects _ ho
    exact ⟨⟨id, hi⟩, ⟨timestamp, ht⟩, categories, ho, hcategories⟩
  · rintro ⟨⟨id, hi⟩, ⟨timestamp, ht⟩, categories, ho, hcategories⟩
    refine ⟨⟨⟨_, hi⟩, ⟨_, ht⟩, ⟨_, ho⟩, by simp⟩, ?_, ?_, ?_, by simp⟩
    · rintro w hw
      exact ⟨id, Option.some_inj.mp (hw.symm.trans hi)⟩
    · rintro w hw
      exact ⟨categories, Option.some_inj.mp (hw.symm.trans ho), hcategories⟩
    · rintro w hw
      exact ⟨timestamp, Option.some_inj.mp (hw.symm.trans ht)⟩

/-- What the schema accepts has all the fields of a camera message. -/
theorem IsCameraInput.present (h : IsCameraInput v) (f : CameraField) : f.Present v := by
  obtain ⟨members, rfl, ⟨id, hi⟩, ⟨timestamp, ht⟩, categories, ho, -⟩ := h
  cases f with
  | id => exact ⟨members, _, rfl, hi, id, rfl⟩
  | timestamp => exact ⟨members, _, rfl, ht, timestamp, rfl⟩
  | objects => exact ⟨members, _, rfl, ho, categories, rfl⟩

theorem IsCameraInput.exists_message (h : IsCameraInput v) :
    ∃ m, CameraMessage.ofJson v = .ok m := by
  cases hm : CameraMessage.ofJson v with
  | ok m => exact ⟨m, rfl⟩
  | error f =>
    obtain ⟨-, -, -, -, hf⟩ := CameraMessage.of_ofJson_eq_error hm
    exact absurd (h.present f) hf

/-- Behind the schema for camera input no field is missing. -/
theorem judge_ne_missingField (scene : Option Validator) (topic : String) (payload : ByteArray)
    (f : CameraField) :
    Validators.judge ⟨some cameraSchema, scene⟩ topic payload ≠ .error (.missingField f) := by
  intro hj
  obtain ⟨g, hg, hr⟩ := Validators.judge_eq_error_iff.mp hj
  cases g with
  | field f' =>
    obtain ⟨document, hd, haccepts⟩ := hg.schema_of_field
    have hinput := accepts_cameraSchema_iff.mp (haccepts _ rfl)
    exact hg.not_admits ⟨document, hd, hinput.present f'⟩
  | _ => nomatch hr

/-- The schema that comes with the service accepts exactly the camera inputs. Each of them is read
as a camera message, so a router with this schema never finds a field missing. -/
theorem shipped_camera_schema_exact : ∃ s, ofJson? cameraDocument = some s ∧
    Validators.shipped.camera = some s ∧
    (∀ v, s.accepts v ↔ IsCameraInput v) ∧
    (∀ v, s.accepts v → ∃ m, CameraMessage.ofJson v = .ok m) ∧
    ∀ scene topic payload field,
      (Validators.review ⟨some s, scene⟩ topic payload).rejection ≠ some (.missingField field) := by
  refine ⟨cameraSchema, ofJson?_cameraDocument,
    congrArg (Option.map validator) ofJson?_cameraDocument,
    fun v => accepts_cameraSchema_iff, fun v h => ?_, ?_⟩
  · exact (accepts_cameraSchema_iff.mp h).exists_message
  · intro scene topic payload field h
    exact judge_ne_missingField scene topic payload field
      (Validators.review_rejection_eq_some_iff.mp h)

/-- A detection may have the double one as its number. -/
theorem shipped_camera_schema_exact_double :
    let entry : Json := .object [("id", .number (.double (.ofInt 1)))]
    let v : Json := .object [("id", .string "camera1"),
      ("objects", .object [("person", .array [entry])]), ("timestamp", .string "now")]
    IsCameraInput v ∧ ∃ m, CameraMessage.ofJson v = .ok m := by
  intro entry v
  obtain ⟨s, hs, -, hexact, hread, -⟩ := shipped_camera_schema_exact
  obtain rfl : s = cameraSchema := Option.some_inj.mp (hs.symm.trans ofJson?_cameraDocument)
  have haccepts : cameraSchema.accepts v := rfl
  exact ⟨(hexact v).mp haccepts, hread v haccepts⟩

end SceneRelay.Schema
