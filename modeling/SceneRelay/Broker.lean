import SceneRelay.Config
import SceneRelay.Files
import SceneRelay.Text.Blank
import SceneRelay.Tls.Identity

/-! How to reach the broker: the options of a session, made from the settings and the files that
they name. -/
namespace SceneRelay

/-- The files of an encrypted connection. -/
inductive TlsFile where
  | ca
  | clientCert
  | clientKey
  deriving DecidableEq, Repr

def TlsFile.name : TlsFile → String
  | ca => "CA certificate"
  | clientCert => "client certificate"
  | clientKey => "client key"

/-- How a connection is protected. -/
inductive Encryption where
  /-- No protection at all. -/
  | plain
  /-- The server is checked against the usual authorities. -/
  | standard
  /-- The server is checked against an authority of its own; the client may show two files. -/
  | anchored (ca : ByteArray) (client : Option (ByteArray × ByteArray))
  /-- The server is not checked. -/
  | unverified (client : Option Tls.Identity)

def Encryption.isPlain : Encryption → Bool
  | plain => true
  | _ => false

/-- What a session is opened with. -/
structure BrokerOptions where
  clientId : String
  host : String
  port : UInt16
  keepAliveSeconds : Nat
  cleanSession : Bool
  encryption : Encryption

/-- Why there are no options. -/
inductive BrokerError where
  | blankHost
  | zeroPort
  | clientWithoutCa
  | fileMissing (file : TlsFile) (path : String)
  | fileUnreadable (file : TlsFile) (path : String)
  | badIdentity (fault : Tls.IdentityFault)
  deriving DecidableEq, Repr

namespace Tls.IdentityFault

/-- The file that is at fault; a key that cannot be used counts against the certificate. -/
def file : IdentityFault → TlsFile
  | unreadableCertificate | noCertificate | unusableKey => .clientCert
  | unreadableKey | noKey => .clientKey

def reason? : IdentityFault → Option String
  | noCertificate => some "no certificate in PEM"
  | noKey => some "no private key in PEM"
  | unreadableCertificate | unreadableKey | unusableKey => none

end Tls.IdentityFault

def BrokerError.message : BrokerError → String
  | blankHost => "Invalid broker configuration: broker host must not be empty"
  | zeroPort => "Invalid broker configuration: broker port must be in 1-65535"
  | clientWithoutCa =>
    "Invalid broker configuration: client certificate authentication requires ca_cert_path"
  | fileMissing file path => s!"TLS {file.name} file not found: {path}"
  | fileUnreadable file path => s!"Failed to read TLS {file.name} file {path}"
  | badIdentity fault =>
    s!"Invalid TLS {fault.file.name}" ++ (fault.reason?.elim "" fun r => s!": {r}")

/-- Reads an identity from a certificate file and a key file. -/
abbrev IdentityReader := ByteArray → ByteArray → Except Tls.IdentityFault Tls.Identity

namespace Encryption

def readFile (files : Files) (file : TlsFile) (path : String) : Except BrokerError ByteArray :=
  (files path).mapError fun e =>
    if e.isAbsence then .fileMissing file path else .fileUnreadable file path

/-- A path that is there and not empty. -/
def given (path : Option String) : Option String := path.filter (· ≠ "")

/-- The two files of a client, the certificate first; none unless both are given. -/
def clientFiles (files : Files) (tls : TlsSettings) :
    Except BrokerError (Option (ByteArray × ByteArray)) :=
  match given tls.clientCert, given tls.clientKey with
  | some cert, some key => do
    let cert ← readFile files .clientCert cert
    let key ← readFile files .clientKey key
    return some (cert, key)
  | _, _ => .ok none

/-- The protection that the settings of an encrypted connection ask for. -/
def ofTls (identify : IdentityReader) (files : Files) (tls : TlsSettings) :
    Except BrokerError Encryption := do
  let client ← clientFiles files tls
  if !tls.verifyServer then
    match client with
    | none => return .unverified none
    | some (cert, key) =>
      let identity ← (identify cert key).mapError .badIdentity
      return .unverified (some identity)
  else
    match given tls.caCert with
    | some ca => return .anchored (← readFile files .ca ca) client
    | none => if client.isSome then .error .clientWithoutCa else .ok .standard

/-- The protection that the settings of a broker ask for. -/
def ofBroker (identify : IdentityReader) (files : Files) (b : BrokerSettings) :
    Except BrokerError Encryption :=
  if b.insecure then .ok .plain
  else b.tls.elim (.ok .standard) (ofTls identify files)

end Encryption

namespace BrokerOptions

def keepAlive : Nat := 60

/-- The options for a client of the given name. -/
def ofSettings (identify : IdentityReader) (files : Files) (clientId : String)
    (b : BrokerSettings) : Except BrokerError BrokerOptions := do
  if Text.isAllBlank b.host then .error .blankHost
  else if b.port = 0 then .error .zeroPort
  else
    let encryption ← Encryption.ofBroker identify files b
    return ⟨clientId, b.host, b.port, keepAlive, true, encryption⟩

end BrokerOptions
end SceneRelay
