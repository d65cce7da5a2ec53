import SceneRelay.Config
import SceneRelay.Text.Blank

/-! The checks that a configuration must pass, in their order. -/
namespace SceneRelay.Config

/-- The first fault of a configuration, if it has one. -/
def fault? (c : Config) : Option Fault :=
  if Text.isAllBlank c.broker.host then some .blankHost
  else if c.broker.port = 0 then some .zeroPort
  else if c.tracker.healthPort < minHealthPort then some (.lowHealthPort c.tracker.healthPort)
  else if c.logging.level ∉ logLevels then some (.unknownLevel c.logging.level)
  else none

def validate (c : Config) : Except Error Unit :=
  match c.fault? with
  | some f => .error (.invalid f)
  | none => .ok ()

end SceneRelay.Config
