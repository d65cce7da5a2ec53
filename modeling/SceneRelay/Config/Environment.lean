import SceneRelay.Config
import SceneRelay.Text.Blank
import SceneRelay.Text.Digits

/-! Settings from environment variables, laid over those of the file one after the other. -/
namespace SceneRelay

/-- The value of each variable that is set. -/
abbrev Environment := String → Option String

namespace Environment

/-- The value of a variable; an empty one counts as none. -/
def get? (env : Environment) (name : String) : Option String :=
  (env name).filter (· ≠ "")

end Environment

namespace Config

/-- `true`, `1` or `yes`, and `false`, `0` or `no`. -/
def readBool (value : String) : Except String Bool :=
  if value ∈ ["true", "1", "yes"] then .ok true
  else if value ∈ ["false", "0", "no"] then .ok false
  else .error "must be true/false, 1/0, or yes/no"

/-- A word with one more decimal digit at its end, if the word is wide enough for it. -/
def pushDigit? (w : UInt32) (c : Char) : Option UInt32 :=
  let n := 10 * w.toNat + Text.digitValue c
  if c.isDigit ∧ n < UInt32.size then some n.toUInt32 else none

/-- The word of decimal digits with an optional plus sign, read one digit after the other. -/
def word32? (cs : List Char) : Option UInt32 :=
  let digits := match cs with
    | '+' :: cs => cs
    | cs => cs
  if digits = [] then none else digits.foldlM pushDigit? 0

/-- A port not below `low`, with white space around it. -/
def readPort (low : UInt16) (value : String) : Except String UInt16 :=
  match word32? (Text.trim value.toList) with
  | none => .error "not a number"
  | some n =>
    if low.toUInt32 ≤ n ∧ n ≤ 65535 then .ok n.toUInt16 else .error s!"must be {low}-65535"

/-- A level in letters of either case. -/
def readLevel (value : String) : Except String String :=
  let level := value.map Char.toLower
  if level ∈ logLevels then .ok level
  else .error ("must be one of " ++ "|".intercalate logLevels)

/-- A value read from a variable, the variable named in the error. -/
def fromVariable (name : String) (read : String → Except String α) (value : String) :
    Except Error α :=
  (read value).mapError (.badVariable name value)

/-- A variable and the setting that it replaces. -/
structure Override where
  name : String
  put : String → Config → Except String Config

/-- The variables that replace a setting each, in the order of their reading. -/
def overrides : List Override :=
  [⟨"TRACKER_LOG_LEVEL", fun v c => do
      let level ← readLevel v
      return { c with logging.level := level }⟩,
   ⟨"TRACKER_HEALTHCHECK_PORT", fun v c => do
      let port ← readPort minHealthPort v
      return { c with tracker.healthPort := port }⟩,
   ⟨"TRACKER_MQTT_HOST", fun v c => .ok { c with broker.host := v }⟩,
   ⟨"TRACKER_MQTT_PORT", fun v c => do
      let port ← readPort 1 v
      return { c with broker.port := port }⟩,
   ⟨"TRACKER_MQTT_INSECURE", fun v c => do
      let b ← readBool v
      return { c with broker.insecure := b }⟩,
   ⟨"TRACKER_MQTT_SCHEMA_VALIDATION", fun v c => do
      let b ← readBool v
      return { c with tracker.schemaValidation := b }⟩]

/-- Applies overrides up to the first malformed one; what was replaced before it stays. -/
def applyOverrides (env : Environment) : List Override → Config → Config × Option Error
  | [], c => (c, none)
  | o :: rest, c =>
    match env.get? o.name with
    | none => applyOverrides env rest c
    | some v =>
      match fromVariable o.name (o.put · c) v with
      | .ok c => applyOverrides env rest c
      | .error e => (c, some e)

def verifyVariable : String := "TRACKER_MQTT_TLS_VERIFY_SERVER"

/-- The variables for encryption, put over given settings; those that are not set change nothing. -/
def tlsOver (env : Environment) (verify : Option Bool) (tls : TlsSettings) : TlsSettings where
  caCert := (env.get? "TRACKER_MQTT_TLS_CA_CERT").or tls.caCert
  clientCert := (env.get? "TRACKER_MQTT_TLS_CLIENT_CERT").or tls.clientCert
  clientKey := (env.get? "TRACKER_MQTT_TLS_CLIENT_KEY").or tls.clientKey
  verifyServer := verify.getD tls.verifyServer

def tlsVariables : List String :=
  ["TRACKER_MQTT_TLS_CA_CERT", "TRACKER_MQTT_TLS_CLIENT_CERT", "TRACKER_MQTT_TLS_CLIENT_KEY",
   verifyVariable]

/-- The encryption settings change together, once the only one that can be malformed was read. -/
def applyTls (env : Environment) (c : Config) : Config × Option Error :=
  match (env.get? verifyVariable).mapM (fromVariable verifyVariable readBool) with
  | .error e => (c, some e)
  | .ok verify =>
    if tlsVariables.any fun name => (env.get? name).isSome then
      ({ c with broker.tls := some (tlsOver env verify (c.broker.tls.getD {})) }, none)
    else (c, none)

/-- The configuration after the variables of `env`, and the first malformed variable, if any. -/
def applyEnvironment (env : Environment) (c : Config) : Config × Option Error :=
  match applyOverrides env overrides c with
  | (c, none) => applyTls env c
  | (c, some e) => (c, some e)

end Config
end SceneRelay
