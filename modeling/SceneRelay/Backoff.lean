/-! Waiting times between attempts: each twice the one before, up to a cap. -/
namespace SceneRelay

/-- A length of time in nanoseconds. -/
abbrev Nanoseconds := Nat

def second : Nanoseconds := 1000000000

def millisecond : Nanoseconds := 1000000

/-- The longest time that seconds of 64 bits and nanoseconds can express. -/
def longestTime : Nanoseconds := UInt64.size * second - 1

/-- Twice a time, cut at the longest one. -/
def doubled (t : Nanoseconds) : Nanoseconds := min (2 * t) longestTime

/-- The first waiting time and the longest one. -/
structure Backoff where
  initial : Nanoseconds := second
  cap : Nanoseconds := 30 * second
  deriving DecidableEq, Repr

namespace Backoff

/-- Doubles `now` up to `attempts` times, ending early once the cap is reached or nothing grows. -/
def grow (cap : Nanoseconds) : Nat → Nanoseconds → Nanoseconds
  | 0, now => now
  | attempts + 1, now =>
    if cap ≤ now ∨ now = 0 then now else grow cap attempts (min (doubled now) cap)

/-- The wait before an attempt, the first of which is number zero. -/
def delay (b : Backoff) (attempt : Nat) : Nanoseconds :=
  grow b.cap attempt (min b.initial b.cap)

end Backoff
end SceneRelay
