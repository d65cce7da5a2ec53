import SceneRelay.Callback
import SceneRelay.Proofs.Json.RoundTrip
import SceneRelay.Proofs.Router.Pipeline
import SceneRelay.Proofs.Schema.Keywords
import SceneRelay.Scene.Reader

/-! The update that answers a camera message: its bytes stand for the scene of the message's time,
whatever characters that is made of, and the schema for output accepts it. -/
namespace SceneRelay

/-- So many numbers, each of which reads back. -/
structure VectorOf (n : Nat) (xs : List Binary64) : Prop where
  length : xs.length = n
  reads : ∀ x ∈ xs, (JsonNumber.double x).ReadsBack

/-- A track with three numbers for place, speed and extent, and four for the rotation. -/
structure Track.WellFormed (t : Track) : Prop where
  translation : VectorOf 3 t.translation
  velocity : VectorOf 3 t.velocity
  size : VectorOf 3 t.size
  rotation : VectorOf 4 t.rotation

/-- The array of some numbers. -/
def numbers (xs : List Binary64) : Json := .array (xs.map fun x => .number (.double x))

variable {n : Nat} {xs : List Binary64} {t : Track} {s : Scene}

/-! ### Reading a scene back -/

theorem VectorOf.readable (h : VectorOf n xs) (depth : Nat) :
    Json.Readable (depth + 1) (numbers xs) := by
  refine .array fun v hv => ?_
  obtain ⟨x, hx, rfl⟩ := List.mem_map.mp hv
  exact .number depth (h.reads x hx)

/-- Values that are each read from what is written for them are read together. -/
theorem mapM_map_eq_some {α β : Type} {read : β → Option α} {write : α → β} {xs : List α}
    (h : ∀ x ∈ xs, read (write x) = some x) : (xs.map write).mapM read = some xs := by
  induction xs with
  | nil => rfl
  | cons x xs ih =>
    obtain ⟨hx, hxs⟩ := List.forall_mem_cons.mp h
    rw [List.map_cons, List.mapM_cons, hx, ih hxs]
    rfl

theorem VectorOf.vector?_numbers (h : VectorOf n xs) : (numbers xs).vector? n = some xs := by
  have hall : (xs.map fun x => Json.number (.double x)).mapM
      (fun w => w.asNumber?.map JsonNumber.toBinary64) = some xs :=
    mapM_map_eq_some fun _ _ => rfl
  simp [Json.vector?, numbers, Json.asArray?, h.length, hall]

theorem Track.WellFormed.readable (h : t.WellFormed) (depth : Nat) :
    Json.Readable (depth + 2) t.toJson := by
  refine .object (Json.ascending_iff.mpr ?_) ?_
  · show ["category", "id", "rotation", "size", "translation", "velocity"].Pairwise (· < ·)
    decide
  · simp only [List.forall_mem_cons]
    exact ⟨.string _ _, .string _ _, h.rotation.readable depth, h.size.readable depth,
      h.translation.readable depth, h.velocity.readable depth, by simp⟩

theorem Track.WellFormed.ofJson?_toJson (h : t.WellFormed) : Track.ofJson? t.toJson = some t := by
  have hfields : t.toJson.fields?
      ["id", "category", "translation", "velocity", "size", "rotation"] =
        some [.string t.id, .string t.category, numbers t.translation, numbers t.velocity,
          numbers t.size, numbers t.rotation] := rfl
  simp [Track.ofJson?, hfields, Json.asString?, h.translation.vector?_numbers,
    h.velocity.vector?_numbers, h.size.vector?_numbers, h.rotation.vector?_numbers]

theorem readable_toJson (h : ∀ t ∈ s.objects, t.WellFormed) (depth : Nat) :
    Json.Readable (depth + 4) s.toJson := by
  refine .object (Json.ascending_iff.mpr ?_) ?_
  · show ["id", "name", "objects", "timestamp"].Pairwise (· < ·)
    decide
  · simp only [List.forall_mem_cons]
    refine ⟨.string _ _, .string _ _, .array fun v hv => ?_, .string _ _, by simp⟩
    obtain ⟨t, ht, rfl⟩ := List.mem_map.mp hv
    exact (h t ht).readable depth

/-- A scene is read from its document. -/
theorem Scene.ofJson?_toJson (h : ∀ t ∈ s.objects, t.WellFormed) :
    Scene.ofJson? s.toJson = some s := by
  have hfields : s.toJson.fields? ["id", "name", "timestamp", "objects"] =
      some [.string s.id, .string s.name, .string s.timestamp,
        .array (s.objects.map Track.toJson)] := rfl
  have htracks : (s.objects.map Track.toJson).mapM Track.ofJson? = some s.objects :=
    mapM_map_eq_some fun t ht => (h t ht).ofJson?_toJson
  simp [Scene.ofJson?, hfields, Json.asString?, Json.asArray?, htracks]

/-! ### The schema for output -/

namespace Schema

/-- The schema of arrays of so many numbers. -/
def vectorOf (n : Nat) : Schema :=
  rules (some [.array]) [] none none (some (typed .number)) (some n) (some n)

def trackSchema : Schema :=
  record ["id", "category", "translation", "velocity", "size", "rotation"]
    [("category", typed .string), ("id", typed .string), ("rotation", vectorOf 4),
      ("size", vectorOf 3), ("translation", vectorOf 3), ("velocity", vectorOf 3)]

/-- What the document for output means. -/
def sceneSchema : Schema :=
  record ["id", "name", "timestamp", "objects"]
    [("id", typed .string), ("name", typed .string), ("objects", listOf trackSchema),
      ("timestamp", typed .string)]

theorem ofJson?_sceneDocument : ofJson? sceneDocument = some sceneSchema := rfl

end Schema

theorem VectorOf.accepted (h : VectorOf n xs) : (Schema.vectorOf n).accepts (numbers xs) := by
  refine Schema.accepts_array_iff.mpr ⟨rfl, ?_, ?_, ?_⟩
  · simp [h.length]
  · simp [h.length]
  · simp [Schema.accepts_typed_iff, JsonType.admits_number_iff]

theorem Track.WellFormed.accepted (h : t.WellFormed) : Schema.trackSchema.accepts t.toJson := by
  refine Schema.accepts_record_iff.mpr ⟨_, rfl, ?_, ?_⟩
  · simp only [List.forall_mem_cons]
    exact ⟨⟨_, rfl⟩, ⟨_, rfl⟩, ⟨_, rfl⟩, ⟨_, rfl⟩, ⟨_, rfl⟩, ⟨_, rfl⟩, by simp⟩
  · simp only [List.forall_mem_cons]
    refine ⟨?_, ?_, ?_, ?_, ?_, ?_, by simp⟩ <;> rintro _ ⟨⟩
    · rfl
    · rfl
    · exact h.rotation.accepted
    · exact h.size.accepted
    · exact h.translation.accepted
    · exact h.velocity.accepted

theorem accepts_toJson (h : ∀ t ∈ s.objects, t.WellFormed) :
    Schema.sceneSchema.accepts s.toJson := by
  refine Schema.accepts_record_iff.mpr ⟨_, rfl, ?_, ?_⟩
  · simp only [List.forall_mem_cons]
    exact ⟨⟨_, rfl⟩, ⟨_, rfl⟩, ⟨_, rfl⟩, ⟨_, rfl⟩, by simp⟩
  · simp only [List.forall_mem_cons]
    refine ⟨?_, ?_, ?_, ?_, by simp⟩ <;> rintro _ ⟨⟩
    · rfl
    · rfl
    · refine Schema.accepts_listOf_iff.mpr ⟨_, rfl, fun w hw => ?_⟩
      obtain ⟨t, ht, rfl⟩ := List.mem_map.mp hw
      exact (h t ht).accepted
    · rfl

/-! ### The update of a camera message -/

namespace Scene

theorem wellFormed_soleTrack : soleTrack.WellFormed where
  translation := ⟨rfl, by decide +kernel⟩
  velocity := ⟨rfl, by decide +kernel⟩
  size := ⟨rfl, by decide +kernel⟩
  rotation := ⟨rfl, by decide +kernel⟩

theorem wellFormed_synthetic (timestamp : String) :
    ∀ t ∈ (synthetic timestamp).objects, t.WellFormed := by
  simpa [synthetic] using wellFormed_soleTrack

/-- The bytes of an update stand for the document of its scene. -/
theorem ofBytes?_publication (timestamp : String) :
    Json.ofBytes? (synthetic timestamp).publication.payload = some (synthetic timestamp).toJson := by
  have hreadable : Json.Readable Json.maxDepth (synthetic timestamp).toJson :=
    readable_toJson (wellFormed_synthetic timestamp) 123
  simp only [publication]
  exact Json.ofBytes?_toText hreadable

/-- Updates for different times have different bytes. -/
theorem publication_inj {t u : String} :
    (synthetic t).publication = (synthetic u).publication ↔ t = u := by
  constructor
  · intro h
    have hbytes := ofBytes?_publication t
    rw [h, ofBytes?_publication u, Option.some_inj] at hbytes
    have hscene := congrArg ofJson? hbytes
    rw [ofJson?_toJson (wellFormed_synthetic t), ofJson?_toJson (wellFormed_synthetic u),
      Option.some_inj] at hscene
    exact (congrArg timestamp hscene).symm
  · rintro rfl
    rfl

end Scene

/-- The router answers with the update of a time exactly if the message is accepted with it. -/
theorem Listener.publications_eq_iff {v : Validators} {topic timestamp : String}
    {payload : ByteArray} :
    ((Listener.router v).callback topic payload).publications =
      [(Scene.synthetic timestamp).publication] ↔ Accepted v.camera topic payload timestamp := by
  constructor
  · intro h
    cases hj : v.judge topic payload with
    | error r => simp [callback, hj] at h
    | ok s =>
      obtain ⟨t, ht, rfl⟩ := judge_eq_ok_iff_accepted.mp hj
      simp only [callback, hj, List.cons.injEq, and_true] at h
      exact Scene.publication_inj.mp h ▸ ht
  · intro h
    have hj := judge_eq_ok_iff_accepted.mpr ⟨timestamp, h, rfl⟩
    simp [callback, hj]

/-- Behind the schema for output no answer is ever refused. -/
theorem Validators.outputRefused_eq_false (camera : Option Validator) (topic : String)
    (payload : ByteArray) :
    (review ⟨camera, some Schema.sceneSchema⟩ topic payload).outputRefused = false := by
  unfold review
  split
  · rfl
  · rfl
  · rename_i hj
    obtain ⟨t, -, rfl⟩ := judge_eq_ok_iff_accepted.mp hj
    have haccepts := accepts_toJson (Scene.wellFormed_synthetic t)
    simp [haccepts]

/-- The answer to a message accepted with a time, whatever text that is, and to no other message:
its bytes are those of a document that reads as the scene of this time, and the schema that comes
with the service accepts it. So no answer of a router with that schema is ever refused. -/
theorem timestamp_survives_publication (timestamp : String) :
    (∀ v topic payload, ((Listener.router v).callback topic payload).publications =
        [(Scene.synthetic timestamp).publication] ↔ Accepted v.camera topic payload timestamp) ∧
    Json.ofBytes? (Scene.synthetic timestamp).publication.payload =
      some (Scene.synthetic timestamp).toJson ∧
    Scene.ofJson? (Scene.synthetic timestamp).toJson = some (Scene.synthetic timestamp) ∧
    (Scene.synthetic timestamp).toJson.member? "timestamp" = some (.string timestamp) ∧
    ∃ s, Schema.ofJson? Schema.sceneDocument = some s ∧ Validators.shipped.scene = some s ∧
      s.accepts (Scene.synthetic timestamp).toJson ∧
      ∀ camera topic payload,
        (Validators.review ⟨camera, some s⟩ topic payload).outputRefused = false := by
  have hwell := Scene.wellFormed_synthetic timestamp
  refine ⟨fun v topic payload => Listener.publications_eq_iff, Scene.ofBytes?_publication timestamp,
    Scene.ofJson?_toJson hwell, rfl, ?_⟩
  exact ⟨Schema.sceneSchema, Schema.ofJson?_sceneDocument,
    congrArg (Option.map Schema.validator) Schema.ofJson?_sceneDocument, accepts_toJson hwell,
    Validators.outputRefused_eq_false⟩

end SceneRelay
