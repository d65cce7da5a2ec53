import SceneRelay.Camera
import SceneRelay.Counters
import SceneRelay.Json.Parser
import SceneRelay.Scene
import SceneRelay.Schema.Load
import SceneRelay.Schema.Shipped

/-! The router: which camera messages are accepted, and the scene update that answers each. -/
namespace SceneRelay

/-- A message for the broker: its topic and its payload. -/
structure Publication where
  topic : String
  payload : ByteArray

/-- Why a message is not answered. -/
inductive Rejection where
  | foreignTopic (topic : String)
  | malformed
  | refused (violations : List Schema.Violation)
  | missingField (field : CameraField)

def CameraField.message (f : CameraField) : String :=
  s!"Missing or invalid '/{f.name}' field in camera message"

def Rejection.message : Rejection → String
  | foreignTopic topic => s!"Failed to extract camera id from topic: {topic}"
  | malformed => "Malformed JSON payload"
  | refused _ => "Camera message failed schema validation"
  | missingField f => f.message

/-- The update of a scene as it is sent. -/
def Scene.publication (s : Scene) : Publication := ⟨Scene.soleTopic, s.toJson.toText.toUTF8⟩

/-- What messages are held against, one validator for each direction. -/
structure Validators where
  camera : Option Validator := none
  scene : Option Validator := none

namespace Validators

/-- A file in a directory. -/
def inDirectory (directory name : String) : String :=
  if directory = "" then name
  else if directory.endsWith "/" then directory ++ name
  else directory ++ "/" ++ name

/-- The validators in a directory; one that cannot be loaded leaves its direction unchecked. -/
def loadWith (compile? : Json → Option Validator) (files : Files) (validation : Bool)
    (directory : String) : Validators :=
  let validator? (name : String) : Option Validator :=
    if validation then (Validator.load compile? files (inDirectory directory name)).toOption
    else none
  ⟨validator? Schema.cameraFile, validator? Schema.sceneFile⟩

def load (files : Files) (validation : Bool) (directory : String) : Validators :=
  loadWith Schema.compile? files validation directory

/-- The schemas that come with the service. -/
def shipped : Validators :=
  ⟨Schema.compile? Schema.cameraDocument, Schema.compile? Schema.sceneDocument⟩

/-- Holds a document against the validator for input. -/
def checkInput (v : Validators) (document : Json) : Except Rejection Unit :=
  match v.camera with
  | none => .ok ()
  | some x => if x.accepts document then .ok () else .error (.refused (x.report document))

/-- The scene that answers a message, or the first reason against one. -/
def judge (v : Validators) (topic : String) (payload : ByteArray) : Except Rejection Scene :=
  match Topic.camera? topic with
  | none => .error (.foreignTopic topic)
  | some _ =>
    match Json.ofBytes? payload with
    | none => .error .malformed
    | some document => do
      v.checkInput document
      let message ← (CameraMessage.ofJson document).mapError .missingField
      return .synthetic message.timestamp

/-- What the validator for output has against a scene; it is sent all the same. -/
def outputViolations (v : Validators) (s : Scene) : List Schema.Violation :=
  match v.scene with
  | none => []
  | some x => x.complaints s.toJson

/-- What is reported about one message. -/
structure Review where
  rejection : Option Rejection := none
  violations : List Schema.Violation := []
  outputRefused : Bool := false

/-- What is reported about a message: why it is rejected, or what is wrong with the answer. -/
def review (v : Validators) (topic : String) (payload : ByteArray) : Review :=
  match v.judge topic payload with
  | .error (.refused violations) => { rejection := some (.refused violations), violations }
  | .error rejection => { rejection := some rejection }
  | .ok scene =>
    { violations := v.outputViolations scene
      outputRefused := v.scene.any fun x => !x.accepts scene.toJson }

end Validators

/-- The router's validators, what it has counted, and whether it takes in messages. -/
structure Router where
  validators : Validators
  counters : Counters := {}
  running : Bool := false

namespace Router

/-- Counts a message by what becomes of it. -/
def record (r : Router) (topic : String) (payload : ByteArray) : Router :=
  let received := r.counters.record .received
  let outcome := match r.validators.judge topic payload with
    | .ok _ => .published
    | .error _ => .rejected
  { r with counters := received.record outcome }

end Router
end SceneRelay
