import SceneRelay.Schema.Document

/-! The schema documents that come with the service, one for each direction. -/
namespace SceneRelay.Schema

def cameraFile : String := "camera-data.schema.json"

def sceneFile : String := "scene-data.schema.json"

/-- A schema document that asks for a type and nothing else. -/
def ofType (name : String) : Json := .object [("type", .string name)]

/-- The same with a description. -/
def describedType (description name : String) : Json :=
  .object [("description", .string description), ("type", .string name)]

def texts (names : List String) : Json := .array (names.map .string)

def whole (n : Nat) : Json := .number (.integer n)

def boxDocument : Json :=
  .object
    [("properties", .object
      [("height", ofType "number"), ("width", ofType "number"), ("x", ofType "number"),
       ("y", ofType "number")]),
     ("type", .string "object")]

def detectionDocument : Json :=
  .object
    [("properties", .object [("bounding_box_px", boxDocument), ("id", ofType "integer")]),
     ("type", .string "object")]

/-- What a camera message must be. -/
def cameraDocument : Json :=
  .object
    [("$id", .string cameraFile),
     ("$schema", .string "http://json-schema.org/draft-07/schema#"),
     ("properties", .object
      [("id", describedType "Camera identifier" "string"),
       ("objects", .object
        [("additionalProperties", .object [("items", detectionDocument), ("type", .string "array")]),
         ("description", .string "Detections grouped by category"),
         ("type", .string "object")]),
       ("timestamp", describedType "ISO 8601 capture time" "string")]),
     ("required", texts ["id", "timestamp", "objects"]),
     ("title", .string "Camera detection message"),
     ("type", .string "object")]

/-- So many numbers. -/
def vectorDocument (n : Nat) : Json :=
  .object
    [("items", ofType "number"), ("maxItems", whole n), ("minItems", whole n),
     ("type", .string "array")]

def trackDocument : Json :=
  .object
    [("properties", .object
      [("category", ofType "string"), ("id", ofType "string"), ("rotation", vectorDocument 4),
       ("size", vectorDocument 3), ("translation", vectorDocument 3),
       ("velocity", vectorDocument 3)]),
     ("required", texts ["id", "category", "translation", "velocity", "size", "rotation"]),
     ("type", .string "object")]

/-- What a scene update must be. -/
def sceneDocument : Json :=
  .object
    [("$id", .string sceneFile),
     ("$schema", .string "http://json-schema.org/draft-07/schema#"),
     ("properties", .object
      [("id", ofType "string"), ("name", ofType "string"),
       ("objects", .object [("items", trackDocument), ("type", .string "array")]),
       ("timestamp", ofType "string")]),
     ("required", texts ["id", "name", "timestamp", "objects"]),
     ("title", .string "Scene update message"),
     ("type", .string "object")]

end SceneRelay.Schema
