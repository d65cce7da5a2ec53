import SceneRelay.Connection.State
import SceneRelay.Log

/-! The log record of each change of a connection's state. -/
namespace SceneRelay.ConnectionState

/-- The record of a change from `s` to `t` by an event; none if nothing changed. -/
def transitionRecord? (s t : ConnectionState) (e : ConnectionEvent) : Option LogRecord :=
  if s = t then none
  else some <|
    match s, t, e with
    | connecting, connected, _ => ⟨.info, "MQTT connection established", []⟩
    | reconnecting, connected, _ => ⟨.info, "MQTT reconnection successful", []⟩
    | connected, disconnected, e => ⟨.warn, "MQTT connection lost", [("reason", .text e.text)]⟩
    | _, disconnected, .refused code =>
      ⟨.warn, "MQTT broker refused connection", [("code", .text code)]⟩
    | _, disconnected, .networkError text =>
      ⟨.warn, "MQTT connection attempt failed", [("error", .text text)]⟩
    | _, reconnecting, .retryStarted n =>
      ⟨.info, "Starting MQTT reconnection attempt", [("attempt", .number n.toNat)]⟩
    | s, t, _ => ⟨.debug, s!"MQTT connection state: {s.name} -> {t.name}", []⟩

end SceneRelay.ConnectionState
