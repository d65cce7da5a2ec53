import SceneRelay.Callback
import SceneRelay.Subscriptions
import SceneRelay.Text.Quoted

/-! A link without a broker, which keeps what is published and takes messages by hand. -/
namespace SceneRelay

/-- `published` holds what was sent while connected, in order; a `failing` link never connects, and
a `closed` one never again. -/
structure MemoryLink where
  published : List Publication := []
  filters : Subscriptions := {}
  callback : Option Callback := none
  connected : Bool := false
  closed : Bool := false
  failing : Bool := false
  dropped : Nat := 0
  connects : Nat := 0
  disconnects : Nat := 0

namespace MemoryLink

def connect (l : MemoryLink) : MemoryLink :=
  { l with connects := l.connects + 1, connected := l.connected || !l.failing && !l.closed }

def disconnect (l : MemoryLink) : MemoryLink :=
  { l with disconnects := l.disconnects + 1, closed := true, connected := false }

def subscribe (filter : String) (l : MemoryLink) : MemoryLink :=
  { l with filters := (l.filters.insert filter).1 }

def unsubscribe (filter : String) (l : MemoryLink) : MemoryLink :=
  { l with filters := (l.filters.erase filter).1 }

def publish (p : Publication) (l : MemoryLink) : MemoryLink :=
  if l.connected then { l with published := l.published ++ [p] }
  else { l with dropped := l.dropped + 1 }

def setCallback (callback : Option Callback) (l : MemoryLink) : MemoryLink := { l with callback }

def isSubscribed (l : MemoryLink) : Bool := l.connected && !l.filters.isEmpty

instance : Messaging MemoryLink := ⟨subscribe, unsubscribe, publish, setCallback⟩

/-- A line that describes the link. -/
def text (l : MemoryLink) : String :=
  let filters := ", ".intercalate (l.filters.topics.map Text.quoted)
  s!"MockTransport \x7b published: {l.published.length}, subscriptions: \x7b{filters}\x7d, " ++
    s!"connected: {l.connected} \x7d"

end MemoryLink
end SceneRelay
