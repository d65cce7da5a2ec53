import SceneRelay.Callback

/-! A link with a router on it: the router starts and stops, and messages reach whoever listens. -/
namespace SceneRelay

/-- A link, the router that uses it, and who listens to the link's messages. -/
structure Relay (σ : Type) where
  link : σ
  router : Option Router := none
  listener : Option Listener := none

namespace Relay

variable {σ : Type} [Messaging σ]

/-- Puts a listener in place of the one there is. -/
def listen (listener : Option Listener) (r : Relay σ) : Relay σ :=
  { r with link := Messaging.setCallback (listener.map Listener.callback) r.link, listener }

/-- The router listens and asks for the messages of all cameras; nothing if it runs already. -/
def start (r : Relay σ) : Relay σ :=
  match r.router with
  | some x =>
    if x.running then r
    else
      let r := r.listen (some (.router x.validators))
      { r with
        link := Messaging.subscribe Topic.cameraFilter r.link
        router := some { x with running := true } }
  | none => r

/-- Undoes `start`; nothing if the router does not run. -/
def stop (r : Relay σ) : Relay σ :=
  match r.router with
  | some x =>
    if x.running then
      { r with
        link := Messaging.unsubscribe Topic.cameraFilter r.link
        router := some { x with running := false } }.listen none
    else r
  | none => r

/-- Puts a new router, which does not run yet, in place of the one there is. -/
def install (validators : Validators) (r : Relay σ) : Relay σ :=
  { r.stop with router := some { validators } }

/-- Takes the router away, which stops it first. -/
def dropRouter (r : Relay σ) : Relay σ := { r.stop with router := none }

/-- Sends what a listener answered. -/
def answer (reaction : Reaction) (r : Relay σ) : Relay σ :=
  { r with link := reaction.publications.foldl (fun l p => Messaging.publish p l) r.link }

/-- Counts a message that the router has handled. -/
def record (topic : String) (payload : ByteArray) (r : Relay σ) : Relay σ :=
  { r with router := r.router.map fun x => x.record topic payload }

/-- Hands a message to the router itself, past the link. -/
def handle (topic : String) (payload : ByteArray) (r : Relay σ) : Relay σ :=
  match r.router with
  | some x =>
    (r.answer ((Listener.router x.validators).callback topic payload)).record topic payload
  | none => r

/-- The messages that the listener passes to the router. -/
def routed (calls : List (String × ByteArray)) (r : Relay σ) : List (String × ByteArray) :=
  match r.listener with
  | some (.router _) => calls
  | _ => []

/-- Counts messages that reached the listener, if that is the router. -/
def noteCalls (calls : List (String × ByteArray)) (r : Relay σ) : Relay σ :=
  (r.routed calls).foldl (fun r c => r.record c.1 c.2) r

/-- The messages that the listener keeps. -/
def kept (calls : List (String × ByteArray)) (r : Relay σ) : List (String × ByteArray) :=
  match r.listener with
  | some .recorder => calls
  | _ => []

end Relay
end SceneRelay
