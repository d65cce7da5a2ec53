import SceneRelay.Config.Document
import SceneRelay.Files
import SceneRelay.Log

/-! Configurations from files, with the settings of the command line over file and environment. -/
namespace SceneRelay.Config

/-- The configuration in a file of UTF-8 text, with the variables of `env` over it, checked. -/
def ofFile (files : Files) (path : String) (env : Environment) : Except Error Config :=
  match files path with
  | .error e => .error (.unreadable e.message)
  | .ok bytes =>
    match String.fromUTF8? bytes with
    | none => .error (.unreadable "stream did not contain valid UTF-8")
    | some text => ofText text env

/-- Settings of the command line. -/
structure Flags where
  level : Option LogLevel := none
  healthPort : Option { port : UInt16 // minHealthPort ≤ port } := none

/-- The configuration with the given settings in place of its own. -/
def withFlags (flags : Flags) (c : Config) : Config where
  broker := c.broker
  tracker :=
    { c.tracker with healthPort := (flags.healthPort.map (·.1)).getD c.tracker.healthPort }
  logging := { c.logging with level := (flags.level.map LogLevel.setting).getD c.logging.level }

/-- What the service runs with. The file has to pass its checks before the flags replace anything,
and the result is checked again. -/
def load (files : Files) (path : String) (env : Environment) (flags : Flags) :
    Except Error Config := do
  let c ← ofFile files path env
  let c := c.withFlags flags
  c.validate
  return c

end SceneRelay.Config
