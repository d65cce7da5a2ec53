import SceneRelay.Broker
import SceneRelay.Text.Digits

/-! The handshake of a client that does not check the server. -/
namespace SceneRelay.Tls

inductive Version where
  | tls12
  | tls13
  deriving DecidableEq, Repr

def Version.name : Version → String
  | tls12 => "TLSv1_2"
  | tls13 => "TLSv1_3"

/-- What the server brings to a handshake: the one version it speaks, and whether it asks for the
client's certificates. -/
structure Server where
  version : Version
  asksClient : Bool
  deriving DecidableEq, Repr

/-- What passes in a handshake that succeeds. -/
structure Handshake where
  schemes : List String
  serverName : Option String
  offersProtocols : Bool
  version : Version
  serverCertificates : Nat
  clientCertificates : Option Nat
  deriving DecidableEq, Repr

/-- The signature schemes that a client offers, the preferred ones first. -/
def offeredSchemes : List String :=
  ["ECDSA_NISTP256_SHA256", "ECDSA_NISTP384_SHA384", "ED25519", "RSA_PSS_SHA256", "RSA_PSS_SHA384",
   "RSA_PSS_SHA512", "RSA_PKCS1_SHA256", "RSA_PKCS1_SHA384", "RSA_PKCS1_SHA512"]

/-- A number from 0 to 255 without leading zeros. -/
def isOctet (s : List Char) : Bool :=
  !s.isEmpty && s.length ≤ 3 && s.all Char.isDigit && (s.length = 1 || s.head? ≠ some '0') &&
    Text.decimalValue s ≤ 255

/-- Four octets with points between them, or anything with a colon. -/
def isAddress (host : String) : Bool :=
  let parts := host.toList.splitOn '.'
  host.toList.contains ':' || parts.length = 4 && parts.all isOctet

/-- The name that is sent ahead, in lower case and without a point at its end; no address is. -/
def sentName? (host : String) : Option String :=
  if isAddress host then none
  else
    let name := host.toList.map Char.toLower
    some (String.ofList (if name.getLast? = some '.' then name.dropLast else name))

/-- The handshake of a client with the given options, none if it checks the server or does not
encrypt. -/
def handshake? (options : BrokerOptions) (server : Server) : Option Handshake :=
  match options.encryption with
  | .unverified client =>
    some
      { schemes := offeredSchemes
        serverName := sentName? options.host
        offersProtocols := false
        version := server.version
        serverCertificates := 1
        clientCertificates :=
          if server.asksClient then client.map (·.certificates.length) else none }
  | _ => none

end SceneRelay.Tls
