/-! The topics of camera input and scene output. -/
namespace SceneRelay.Topic

/-- What every camera topic begins with; the camera's name follows. -/
def cameraRoot : String := "scenescape/data/camera/"

/-- The filter that covers every camera. -/
def cameraFilter : String := "scenescape/data/camera/+"

def sceneRoot : String := "scenescape/data/scene/"

/-- What follows `root`, if that is where a text begins. -/
def after? : List Char → List Char → Option (List Char)
  | [], cs => some cs
  | r :: root, c :: cs => if r = c then after? root cs else none
  | _ :: _, [] => none

/-- The camera that a topic belongs to; its name is not empty. -/
def camera? (topic : String) : Option String :=
  match after? cameraRoot.toList topic.toList with
  | some (c :: cs) => some (String.ofList (c :: cs))
  | _ => none

def scene (sceneId thingType : String) : String :=
  sceneRoot ++ sceneId ++ "/" ++ thingType

end SceneRelay.Topic
