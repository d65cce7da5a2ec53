/-! What became of the messages that the router has handled. -/
namespace SceneRelay

structure Counters where
  received : Nat := 0
  published : Nat := 0
  rejected : Nat := 0
  deriving DecidableEq, Repr

namespace Counters

inductive Kind where
  | received
  | published
  | rejected
  deriving DecidableEq, Repr

/-- Counts one more of a kind. -/
def record (c : Counters) : Kind → Counters
  | .received => { c with received := c.received + 1 }
  | .published => { c with published := c.published + 1 }
  | .rejected => { c with rejected := c.rejected + 1 }

end Counters
end SceneRelay
