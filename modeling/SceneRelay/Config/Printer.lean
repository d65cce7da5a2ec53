import SceneRelay.Config
import SceneRelay.Toml.Printer

/-! The document that shows a configuration in full; only absent settings are left out. -/
namespace SceneRelay.Config

/-- A header and the settings below it. -/
abbrev Part := List String × List (String × Toml)

/-- A setting that is written only if it is there. -/
def pathLine (name : String) (path : Option String) : List (String × Toml) :=
  path.toList.map fun p => (name, .string p)

def tlsPart (tls : TlsSettings) : Part :=
  (["mqtt", "tls"],
   pathLine "ca_cert_path" tls.caCert ++ pathLine "client_cert_path" tls.clientCert ++
     pathLine "client_key_path" tls.clientKey ++ [("verify_server", .boolean tls.verifyServer)])

def parts (c : Config) : List Part :=
  [(["mqtt"],
    [("host", .string c.broker.host), ("port", .integer c.broker.port.toNat),
     ("insecure", .boolean c.broker.insecure)])] ++
  c.broker.tls.toList.map tlsPart ++
  [(["tracker"],
    [("schema_validation", .boolean c.tracker.schemaValidation),
     ("schema_dir", .string c.tracker.schemaDir)]),
   (["tracker", "healthcheck"], [("port", .integer c.tracker.healthPort.toNat)]),
   (["logging"], [("level", .string c.logging.level), ("format", .string c.logging.format)])]

/-- The parts of a document with a blank line between them. -/
def renderParts : List Part → List Char
  | [] => []
  | [p] => Toml.renderSection p.1 p.2
  | p :: ps => Toml.renderSection p.1 p.2 ++ '\n' :: renderParts ps

/-- The document of a configuration. -/
def toText (c : Config) : String := String.ofList (renderParts c.parts)

end SceneRelay.Config
