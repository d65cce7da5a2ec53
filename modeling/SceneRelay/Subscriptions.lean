/-! The set of topic filters that the service wants, in ascending order. -/
namespace SceneRelay

/-- Distinct filters in ascending order of code points, which is that of their UTF-8 bytes. -/
structure Subscriptions where
  topics : List String := []
  deriving DecidableEq, Repr

namespace Subscriptions

def insertSorted (topic : String) : List String → List String
  | [] => [topic]
  | t :: rest =>
    if t = topic then t :: rest
    else if topic < t then topic :: t :: rest
    else t :: insertSorted topic rest

def contains (s : Subscriptions) (topic : String) : Bool := s.topics.contains topic

/-- The set with `topic`, and whether that was new. -/
def insert (s : Subscriptions) (topic : String) : Subscriptions × Bool :=
  (⟨insertSorted topic s.topics⟩, !s.contains topic)

/-- The set without `topic`, and whether it was there. -/
def erase (s : Subscriptions) (topic : String) : Subscriptions × Bool :=
  (⟨s.topics.filter (· ≠ topic)⟩, s.contains topic)

def size (s : Subscriptions) : Nat := s.topics.length

def isEmpty (s : Subscriptions) : Bool := s.topics.isEmpty

end Subscriptions
end SceneRelay
