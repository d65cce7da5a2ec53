import SceneRelay.MemoryLink
import SceneRelay.Relay

/-! A relay over a link in memory, to which messages are brought by hand. -/
namespace SceneRelay.Relay

/-- Brings a message to the listener; the second part is whether there was one. -/
def simulate (topic : String) (payload : ByteArray) (r : Relay MemoryLink) :
    Relay MemoryLink × Bool :=
  match r.link.callback with
  | none => (r, false)
  | some f => ((r.answer (f topic payload)).noteCalls [(topic, payload)], true)

end SceneRelay.Relay
