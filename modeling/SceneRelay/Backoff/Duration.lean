import SceneRelay.Backoff

/-! Times counted in two machine words, and the waiting times between attempts computed in them. -/
namespace SceneRelay

/-- A time as whole seconds and the nanoseconds beyond them. -/
structure Duration where
  seconds : UInt64
  nanos : UInt32
  nanos_lt : nanos.toNat < second

namespace Duration

def toNanoseconds (d : Duration) : Nanoseconds := d.seconds.toNat * second + d.nanos.toNat

def longest : Duration := ⟨UInt64.ofNat (UInt64.size - 1), UInt32.ofNat (second - 1), by decide⟩

/-- Seconds count first. -/
instance : LE Duration :=
  ⟨fun d e => d.seconds < e.seconds ∨ d.seconds = e.seconds ∧ d.nanos ≤ e.nanos⟩

instance : DecidableLE Duration := fun d e =>
  inferInstanceAs (Decidable (d.seconds < e.seconds ∨ d.seconds = e.seconds ∧ d.nanos ≤ e.nanos))

instance : Min Duration := minOfLe

def isZero (d : Duration) : Bool := d.seconds == 0 && d.nanos == 0

/-- Twice the nanoseconds, as a word of 64 bits. -/
def twiceNanos (d : Duration) : UInt64 := d.nanos.toUInt64 * 2

/-- The seconds that come up when the nanoseconds are doubled. -/
def carry (d : Duration) : UInt64 := d.twiceNanos / UInt64.ofNat second

/-- The nanoseconds that are left of twice as many. -/
def rest (d : Duration) : UInt32 := (d.twiceNanos % UInt64.ofNat second).toUInt32

theorem toNat_twiceNanos (d : Duration) : d.twiceNanos.toNat = 2 * d.nanos.toNat := by
  have hlt := d.nanos_lt
  simp only [second] at hlt
  simp only [twiceNanos, UInt64.toNat_mul, UInt32.toNat_toUInt64, UInt64.reduceToNat]
  omega

theorem toNat_carry (d : Duration) : d.carry.toNat = 2 * d.nanos.toNat / second := by
  rw [carry, UInt64.toNat_div, toNat_twiceNanos]
  rfl

theorem toNat_rest (d : Duration) : d.rest.toNat = 2 * d.nanos.toNat % second := by
  have hlt : 2 * d.nanos.toNat % second < second := Nat.mod_lt _ (by decide)
  have hmod : (d.twiceNanos % UInt64.ofNat second).toNat = 2 * d.nanos.toNat % second := by
    rw [UInt64.toNat_mod, toNat_twiceNanos]
    rfl
  rw [rest, UInt64.toNat_toUInt32, hmod]
  simp only [second] at hlt ⊢
  omega

/-- Twice a time, the longest one if the seconds do not fit their word. -/
def double (d : Duration) : Duration :=
  if d.seconds.toNat * 2 + d.carry.toNat < UInt64.size then
    ⟨d.seconds * 2 + d.carry, d.rest, d.toNat_rest ▸ Nat.mod_lt _ (by decide)⟩
  else longest

/-- Doubles `now` up to `attempts` times, ending early once the cap is reached or nothing grows. -/
def grow (cap : Duration) : Nat → Duration → Duration
  | 0, now => now
  | attempts + 1, now =>
    if cap ≤ now ∨ now.isZero then now else grow cap attempts (min now.double cap)

/-- The wait before an attempt. -/
def delay (initial cap : Duration) (attempt : Nat) : Duration := grow cap attempt (min initial cap)

end Duration
end SceneRelay
