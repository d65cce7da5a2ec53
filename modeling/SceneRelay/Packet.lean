/-! What the MQTT library reports from a session, and what each report means to the service. -/
namespace SceneRelay

/-- The broker's answers to a connection request. -/
inductive ConnectCode where
  | success
  | refusedProtocolVersion
  | badClientId
  | serviceUnavailable
  | badUserNamePassword
  | notAuthorized
  deriving DecidableEq, Repr

namespace ConnectCode

def name : ConnectCode → String
  | success => "Success"
  | refusedProtocolVersion => "RefusedProtocolVersion"
  | badClientId => "BadClientId"
  | serviceUnavailable => "ServiceUnavailable"
  | badUserNamePassword => "BadUserNamePassword"
  | notAuthorized => "NotAuthorized"

def all : List ConnectCode :=
  [success, refusedProtocolVersion, badClientId, serviceUnavailable, badUserNamePassword,
   notAuthorized]

def ofName? (s : String) : Option ConnectCode := all.find? (·.name = s)

end ConnectCode

/-- Packets that only carry a number. -/
inductive Receipt where
  | pubAck
  | pubRec
  | pubRel
  | pubComp
  | unsubAck
  deriving DecidableEq, Repr

namespace Receipt

def name : Receipt → String
  | pubAck => "PubAck"
  | pubRec => "PubRec"
  | pubRel => "PubRel"
  | pubComp => "PubComp"
  | unsubAck => "UnsubAck"

def all : List Receipt := [pubAck, pubRec, pubRel, pubComp, unsubAck]

def ofName? (s : String) : Option Receipt := all.find? (·.name = s)

end Receipt

/-- How hard the broker tries to deliver what matches a filter. -/
inductive Quality where
  | atMostOnce
  | atLeastOnce
  | exactlyOnce
  deriving DecidableEq, Repr

def Quality.byte : Quality → Nat
  | atMostOnce => 0
  | atLeastOnce => 1
  | exactlyOnce => 2

/-- The return codes of a subscription: from this one on a filter was refused. -/
def refusalCode : Nat := 128

/-- The broker's answer for one filter of a subscription. -/
inductive SubscribeCode where
  | success (granted : Quality)
  | failure
  deriving DecidableEq, Repr

namespace SubscribeCode

def byte : SubscribeCode → Nat
  | success granted => granted.byte
  | failure => refusalCode

def ofByte : Nat → SubscribeCode
  | 0 => success .atMostOnce
  | 1 => success .atLeastOnce
  | 2 => success .exactlyOnce
  | _ => failure

end SubscribeCode

/-- A packet that came in, or word of one that went out. -/
inductive Packet where
  | connAck (code : ConnectCode) (sessionPresent : Bool)
  | publish (topic : String) (payload : ByteArray) (retain : Bool)
  | subscribeAck (packetId : Nat) (codes : List SubscribeCode)
  | disconnect
  | pingReq
  | pingResp
  | receipt (kind : Receipt) (packetId : Nat)
  | sentDisconnect
  | sentOther

/-- What a report means. -/
inductive Route where
  | acknowledged (sessionPresent : Bool)
  | refused (code : String)
  | message (topic : String) (payload : ByteArray) (retain : Bool)
  | subscribed (packetId : Nat) (codes : List Nat)
  | disconnected
  | disconnectSent
  | infrastructure (text : String)
  | outgoing

namespace Packet

/-- The answer to a subscription, by the bytes that it carries. -/
def subAck (packetId : Nat) (bytes : List Nat) : Packet :=
  subscribeAck packetId (bytes.map SubscribeCode.ofByte)

def route : Packet → Route
  | connAck .success sessionPresent => .acknowledged sessionPresent
  | connAck code _ => .refused code.name
  | publish topic payload retain => .message topic payload retain
  | subscribeAck packetId codes => .subscribed packetId (codes.map SubscribeCode.byte)
  | disconnect => .disconnected
  | pingReq => .infrastructure "PingReq"
  | pingResp => .infrastructure "PingResp"
  | receipt kind packetId =>
    .infrastructure s!"{kind.name}({kind.name} \x7b pkid: {packetId} \x7d)"
  | sentDisconnect => .disconnectSent
  | sentOther => .outgoing

end Packet

namespace SubAck

/-- The broker granted at least one filter. -/
def anyGranted (codes : List Nat) : Bool := codes.any (· < refusalCode)

/-- The report of refused filters, if there are any. -/
def failure? (codes : List Nat) : Option String :=
  if codes.any (refusalCode ≤ ·) then
    some ("Subscription failed with return codes: [" ++
      ", ".intercalate (codes.map fun c => s!"{c}") ++ "]")
  else none

end SubAck
end SceneRelay
