import SceneRelay.Config
import SceneRelay.Config.Environment
import SceneRelay.Config.Validation
import SceneRelay.Toml.Parser

/-! Settings from the tables of a configuration document. A section may also be an array of its
settings in their order. -/
namespace SceneRelay.Config

/-- The settings of a section, by name and position. -/
abbrev Section := String → Nat → Option Toml

/-- A section is a table or an array; a point in time counts as a table without settings. -/
def section? : Toml → Option Section
  | .table _ entries => some fun name _ => entries.lookup name
  | .array items => some fun _ i => items[i]?
  | .tables elements => some fun _ i => elements[i]?.map (.table .headed)
  | .time => some fun _ _ => none
  | _ => none

def string? : Toml → Option String
  | .string s => some s
  | _ => none

def bool? : Toml → Option Bool
  | .boolean b => some b
  | _ => none

def port? : Toml → Option UInt16
  | .integer n => if 0 ≤ n ∧ n < 65536 then some n.toNat.toUInt16 else none
  | _ => none

/-- A setting that may be left out; none if it is there and cannot be read. -/
def optional (value : Option Toml) (read : Toml → Option α) (default : α) : Option α :=
  match value with
  | none => some default
  | some v => read v

def tls? (v : Toml) : Option TlsSettings := do
  let s ← section? v
  return { caCert := ← optional (s "ca_cert_path" 0) (fun v => (string? v).map some) none
           clientCert := ← optional (s "client_cert_path" 1) (fun v => (string? v).map some) none
           clientKey := ← optional (s "client_key_path" 2) (fun v => (string? v).map some) none
           verifyServer := ← optional (s "verify_server" 3) bool? true }

def broker? (v : Toml) : Option BrokerSettings := do
  let s ← section? v
  return { host := ← string? (← s "host" 0)
           port := ← port? (← s "port" 1)
           insecure := ← optional (s "insecure" 2) bool? false
           tls := ← optional (s "tls" 3) (fun v => (tls? v).map some) none }

def healthPort? (v : Toml) : Option UInt16 := do
  let s ← section? v
  optional (s "port" 0) port? 8080

def tracker? (v : Toml) : Option TrackerSettings := do
  let s ← section? v
  return { schemaValidation := ← optional (s "schema_validation" 0) bool? true
           schemaDir := ← optional (s "schema_dir" 1) string? "/scenescape/schema"
           healthPort := ← optional (s "healthcheck" 2) healthPort? 8080 }

def logging? (v : Toml) : Option LoggingSettings := do
  let s ← section? v
  return { level := ← optional (s "level" 0) string? "info"
           format := ← optional (s "format" 1) string? "json" }

/-- The configuration that the top table of a document describes. -/
def ofEntries? (entries : Toml.Entries) : Option Config := do
  return { broker := ← broker? (← entries.lookup "mqtt")
           tracker := ← optional (entries.lookup "tracker") tracker? {}
           logging := ← optional (entries.lookup "logging") logging? {} }

/-- The configuration of a document, without environment and checks. -/
def parse? (text : String) : Option Config := do
  ofEntries? (← Toml.parse? text)

/-- The configuration of a document with the variables of `env` over it, checked. -/
def ofText (text : String) (env : Environment) : Except Error Config := do
  let c ← (parse? text).elim (.error .malformed) .ok
  match c.applyEnvironment env with
  | (_, some e) => .error e
  | (c, none) =>
    c.validate
    return c

end SceneRelay.Config
