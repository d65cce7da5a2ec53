/-! The settings of the service, their defaults, and what the types alone cannot rule out. -/
namespace SceneRelay

/-- Files and checks of an encrypted connection. -/
structure TlsSettings where
  caCert : Option String := none
  clientCert : Option String := none
  clientKey : Option String := none
  verifyServer : Bool := true
  deriving DecidableEq, Repr

structure BrokerSettings where
  host : String
  port : UInt16
  insecure : Bool := false
  tls : Option TlsSettings := none
  deriving DecidableEq, Repr

structure TrackerSettings where
  schemaValidation : Bool := true
  schemaDir : String := "/scenescape/schema"
  healthPort : UInt16 := 8080
  deriving DecidableEq, Repr

structure LoggingSettings where
  level : String := "info"
  format : String := "json"
  deriving DecidableEq, Repr

structure Config where
  broker : BrokerSettings
  tracker : TrackerSettings := {}
  logging : LoggingSettings := {}
  deriving DecidableEq, Repr

namespace Config

def logLevels : List String := ["trace", "debug", "info", "warn", "error"]

/-- Ports below this one are for privileged services. -/
def minHealthPort : UInt16 := 1024

/-- A setting that its type allows and the service does not. -/
inductive Fault where
  | blankHost
  | zeroPort
  | lowHealthPort (port : UInt16)
  | unknownLevel (level : String)
  deriving DecidableEq, Repr

namespace Fault

def message : Fault → String
  | blankHost => "mqtt.host must not be empty"
  | zeroPort => "mqtt.port must be in range 1-65535"
  | lowHealthPort p => s!"tracker.healthcheck.port {p} must be in range {minHealthPort}-65535"
  | unknownLevel l => s!"logging.level '{l}' must be one of " ++ "|".intercalate logLevels

end Fault

/-- Why there is no configuration. -/
inductive Error where
  | unreadable (reason : String)
  | malformed
  | invalid (fault : Fault)
  | badVariable (name value reason : String)
  deriving DecidableEq, Repr

namespace Error

def message : Error → String
  | unreadable reason => s!"Failed to read config file: {reason}"
  | malformed => "Failed to parse TOML"
  | invalid fault => s!"Invalid configuration: {fault.message}"
  | badVariable name value reason => s!"Invalid {name}: {value} ({reason})"

end Error
end Config
end SceneRelay
