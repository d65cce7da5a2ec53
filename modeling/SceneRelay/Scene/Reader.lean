import SceneRelay.Scene

/-! Scenes from documents. A record is an object with its fields, among others, or an array of
exactly its fields in their order. -/
namespace SceneRelay

/-- The values of the named fields of a record. -/
def Json.fields? (names : List String) : Json → Option (List Json)
  | .object members => names.mapM fun name => members.lookup name
  | .array items => if items.length = names.length then some items else none
  | _ => none

/-- Exactly `n` numbers. -/
def Json.vector? (n : Nat) (v : Json) : Option (List Binary64) := do
  let items ← v.asArray?
  if items.length = n then items.mapM fun w => w.asNumber?.map JsonNumber.toBinary64 else none

def Track.ofJson? (v : Json) : Option Track := do
  match ← v.fields? ["id", "category", "translation", "velocity", "size", "rotation"] with
  | [id, category, translation, velocity, size, rotation] =>
    return { id := ← id.asString?
             category := ← category.asString?
             translation := ← translation.vector? 3
             velocity := ← velocity.vector? 3
             size := ← size.vector? 3
             rotation := ← rotation.vector? 4 }
  | _ => none

def Scene.ofJson? (v : Json) : Option Scene := do
  match ← v.fields? ["id", "name", "timestamp", "objects"] with
  | [id, name, timestamp, objects] =>
    return { id := ← id.asString?
             name := ← name.asString?
             timestamp := ← timestamp.asString?
             objects := ← (← objects.asArray?).mapM Track.ofJson? }
  | _ => none

end SceneRelay
