import SceneRelay.Router

/-! Who listens to incoming messages, and what a listener does at once with each of them. -/
namespace SceneRelay

/-- What a listener does with one message: the messages that it sends, and whether it breaks down. -/
structure Reaction where
  publications : List Publication := []
  panicked : Bool := false

/-- The reaction to each message, by topic and payload. -/
abbrev Callback := String → ByteArray → Reaction

/-- The listeners there are. -/
inductive Listener where
  | recorder
  | faulty
  | router (validators : Validators)

namespace Listener

def callback : Listener → Callback
  | recorder, _, _ => {}
  | faulty, _, _ => { panicked := true }
  | router v, topic, payload =>
    match v.judge topic payload with
    | .ok scene => { publications := [scene.publication] }
    | .error _ => {}

end Listener

/-- What the router needs of the connection to the broker. -/
class Messaging (σ : Type) where
  subscribe : String → σ → σ
  unsubscribe : String → σ → σ
  publish : Publication → σ → σ
  setCallback : Option Callback → σ → σ

end SceneRelay
