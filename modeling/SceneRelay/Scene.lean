import SceneRelay.Json
import SceneRelay.Json.Printer
import SceneRelay.Topic

/-! Scene updates: one made-up track that carries the time of a camera message. -/
namespace SceneRelay

/-- One tracked object; the rotation is a quaternion. -/
structure Track where
  id : String
  category : String
  translation : List Binary64
  velocity : List Binary64
  size : List Binary64
  rotation : List Binary64
  deriving DecidableEq, Repr

structure Scene where
  id : String
  name : String
  timestamp : String
  objects : List Track
  deriving DecidableEq, Repr

namespace Scene

/-- The double nearest to a number of tenths. -/
def tenths (n : Nat) : Binary64 := .ofDecimal false n (-1)

/-- The only scene there is. -/
def soleId : String := "dummy-scene"

/-- The only category of its objects. -/
def soleCategory : String := "thing"

def soleTrack : Track where
  id := "dummy-track-001"
  category := soleCategory
  translation := [tenths 10, tenths 20, tenths 0]
  velocity := [tenths 1, tenths 2, tenths 0]
  size := [tenths 5, tenths 5, tenths 18]
  rotation := [tenths 0, tenths 0, tenths 0, tenths 10]

/-- The scene that answers a camera message of the given time. -/
def synthetic (timestamp : String) : Scene :=
  ⟨soleId, "Test Scene", timestamp, [soleTrack]⟩

/-- The topic of the scene's updates. -/
def soleTopic : String := Topic.scene soleId soleCategory

end Scene

def Track.toJson (t : Track) : Json :=
  let numbers (xs : List Binary64) : Json := .array (xs.map fun x => .number (.double x))
  .object
    [("category", .string t.category), ("id", .string t.id), ("rotation", numbers t.rotation),
     ("size", numbers t.size), ("translation", numbers t.translation),
     ("velocity", numbers t.velocity)]

/-- The document of a scene, its members in order of their names. -/
def Scene.toJson (s : Scene) : Json :=
  .object
    [("id", .string s.id), ("name", .string s.name),
     ("objects", .array (s.objects.map Track.toJson)), ("timestamp", .string s.timestamp)]

end SceneRelay
