import SceneRelay.Json

/-! Camera messages: the detections of one camera at one time, by category. -/
namespace SceneRelay

/-- A box in pixels. -/
structure BoundingBox where
  x : Binary64
  y : Binary64
  width : Binary64
  height : Binary64
  deriving DecidableEq, Repr

structure Detection where
  id : Option Int
  box : BoundingBox
  deriving DecidableEq, Repr

/-- The categories have distinct names and at least one detection each. -/
structure CameraMessage where
  id : String
  timestamp : String
  objects : List (String × List Detection)
  deriving DecidableEq, Repr

/-- The fields without which a document is no camera message. -/
inductive CameraField where
  | id
  | timestamp
  | objects
  deriving DecidableEq, Repr

def CameraField.name : CameraField → String
  | id => "id"
  | timestamp => "timestamp"
  | objects => "objects"

namespace BoundingBox

/-- A box from the four numbers of an object. -/
def ofJson? (v : Json) : Option BoundingBox := do
  let members ← v.asObject?
  let field (name : String) := ((members.lookup name).bind Json.asNumber?).map JsonNumber.toBinary64
  return ⟨← field "x", ← field "y", ← field "width", ← field "height"⟩

end BoundingBox

namespace Detection

/-- An object with a box is a detection; its number is kept if it is a whole one of 64 bits. -/
def ofJson? (v : Json) : Option Detection := do
  let members ← v.asObject?
  let box ← BoundingBox.ofJson? (← members.lookup "bounding_box_px")
  return ⟨((members.lookup "id").bind Json.asNumber?).bind JsonNumber.toInt64?, box⟩

end Detection

namespace CameraMessage

/-- The detections among the entries of a category; a category that is no array has none. -/
def detections (entries : Json) : List Detection :=
  (entries.asArray?.getD []).filterMap Detection.ofJson?

/-- The categories in which something was detected. -/
def categories (objects : List (String × Json)) : List (String × List Detection) :=
  (objects.map fun m => (m.1, detections m.2)).filter fun m => !m.2.isEmpty

/-- Reads a camera message; the error is the first field that is missing or of the wrong kind. -/
def ofJson (v : Json) : Except CameraField CameraMessage :=
  match (v.member? "id").bind Json.asString? with
  | none => .error .id
  | some id =>
    match (v.member? "timestamp").bind Json.asString? with
    | none => .error .timestamp
    | some timestamp =>
      match (v.member? "objects").bind Json.asObject? with
      | none => .error .objects
      | some objects => .ok ⟨id, timestamp, categories objects⟩

/-- The number of detections in all categories. -/
def detectionCount (m : CameraMessage) : Nat :=
  m.objects.foldl (fun n c => n + c.2.length) 0

end CameraMessage
end SceneRelay
