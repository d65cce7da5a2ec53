import SceneRelay.Tls.Der
import SceneRelay.Tls.Pem

/-! The identity that a client shows to a broker: its certificates and the private key to them. -/
namespace SceneRelay.Tls

/-- The kinds of keys that can sign a handshake. -/
inductive KeyKind where
  | ed25519
  | p256
  | p384
  | rsa
  deriving DecidableEq, Repr

structure Identity where
  certificates : List (List UInt8)
  key : KeyKind
  deriving DecidableEq, Repr

/-- Why two files give no identity. -/
inductive IdentityFault where
  | unreadableCertificate
  | noCertificate
  | unreadableKey
  | noKey
  | unusableKey
  deriving DecidableEq, Repr

namespace KeyKind

open Der

/-- A sequence of nine numbers, the modulus of 2047 to 4096 bits. -/
def ofRsa? (der : List UInt8) : Option KeyKind := do
  let members ← sequence? der
  let modulus := ((members[1]?.map Element.content).getD []).dropWhile (· = 0)
  if 9 ≤ members.length ∧ members.all (·.tag = integerTag) ∧ 256 ≤ modulus.length ∧
      modulus.length ≤ 512 then some .rsa
  else none

/-- The curve of an identifier, if the secret number has its size. -/
def ofCurve? (identifier : List UInt8) (size : Nat) : Option KeyKind :=
  if identifier = [42, 134, 72, 206, 61, 3, 1, 7] ∧ size = 32 then some .p256
  else if identifier = [43, 129, 4, 0, 34] ∧ size = 48 then some .p384
  else none

/-- The secret number of a key on a curve. -/
def curveSecret? (der : List UInt8) : Option (List UInt8) := do
  match ← sequence? der with
  | version :: secret :: _ =>
    if version = ⟨integerTag, [1]⟩ ∧ secret.tag = octetsTag then some secret.content else none
  | _ => none

/-- A curve key that names its curve itself. -/
def ofCurveKey? (der : List UInt8) : Option KeyKind := do
  let secret ← curveSecret? der
  let curve ← (← sequence? der)[2]?
  match ← elements? curve.content with
  | [e] => ofCurve? e.content secret.length
  | _ => none

/-- A key behind the identifier of its kind. -/
def ofWrapped? (der : List UInt8) : Option KeyKind := do
  match ← sequence? der with
  | version :: algorithm :: secret :: _ =>
    if version.tag ≠ integerTag ∨ algorithm.tag ≠ sequenceTag ∨ secret.tag ≠ octetsTag then none
    else
      match ← elements? algorithm.content with
      | [⟨_, [43, 101, 112]⟩] =>
        match ← elements? secret.content with
        | [⟨tag, seed⟩] => if tag = octetsTag ∧ seed.length = 32 then some .ed25519 else none
        | _ => none
      | [⟨_, [42, 134, 72, 206, 61, 2, 1]⟩, curve] =>
        ofCurve? curve.content (← curveSecret? secret.content).length
      | ⟨_, [42, 134, 72, 134, 247, 13, 1, 1, 1]⟩ :: _ => ofRsa? secret.content
      | _ => none
  | _ => none

/-- The kind of the key in a block. -/
def ofBlock? (b : Pem.Block) : Option KeyKind :=
  match b.label with
  | .certificate => none
  | .privateKey => ofWrapped? b.content
  | .rsaPrivateKey => ofRsa? b.content
  | .ecPrivateKey => ofCurveKey? b.content

end KeyKind

namespace Identity

/-- The certificates of one file with the first key of another. -/
def ofPem (certificates key : ByteArray) : Except IdentityFault Identity :=
  let certified := Pem.read certificates
  if certified.faulty then .error .unreadableCertificate
  else
    match (certified.blocks.filter (·.label = .certificate)).map Pem.Block.content with
    | [] => .error .noCertificate
    | chain =>
      let keys := Pem.read key
      match keys.blocks.find? (·.label ≠ .certificate) with
      | some block => ((KeyKind.ofBlock? block).map (⟨chain, ·⟩)).elim (.error .unusableKey) .ok
      | none => .error (if keys.faulty then .unreadableKey else .noKey)

end Identity
end SceneRelay.Tls
