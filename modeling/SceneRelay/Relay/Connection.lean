import SceneRelay.Link.Tasks
import SceneRelay.Relay

/-! A relay over a link to a broker, as it runs between two looks at it. -/
namespace SceneRelay.Relay

/-- The messages that reached a listener, in order. -/
def callsOf (trace : List Action) : List (String × ByteArray) :=
  trace.filterMap fun
    | .called topic payload => some (topic, payload)
    | _ => none

/-- Changes the link, and counts the messages that reached the router meanwhile. -/
def onLink (f : Link → Link) (r : Relay Link) : Relay Link :=
  let link := f r.link
  { r with link }.noteCalls (callsOf (link.trace.drop r.link.trace.length))

/-- The relay once all tasks wait; none if that takes more than `fuel` steps. -/
def rest? (network : Link.Network) (fuel : Nat) (r : Relay Link) : Option (Relay Link) :=
  (r.link.rest? network fuel).map fun link => r.onLink fun _ => link

/-- Forgets what was done so far; the session has sent what was waiting. -/
def cleared (r : Relay Link) : Relay Link :=
  { r with link := { r.link.flush with trace := [] } }

/-- Lets go of router and link. -/
def release (r : Relay Link) : Relay Link :=
  let r := r.dropRouter
  { r with link := r.link.release }

end SceneRelay.Relay
