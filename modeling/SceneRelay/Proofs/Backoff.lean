import Mathlib.Algebra.Group.Nat.Defs
import Mathlib.Order.Iterate
import SceneRelay.Backoff.Duration

/-! The waits between attempts in closed form: the first one, doubled with every attempt, and never
more than the cap. Neither the longest time that can be expressed nor an early end of the doubling
shows in them, and they are the same when each time is counted in two machine words. -/
namespace SceneRelay
namespace Backoff
variable {cap now : Nanoseconds}

/-- One doubling as it is done at every attempt, without a look at what it brings. -/
def next (cap now : Nanoseconds) : Nanoseconds := min (doubled now) cap

/-- Where a time is cut as too long, the cap cuts it further. -/
theorem next_eq_min (hcap : cap ≤ longestTime) (now : Nanoseconds) :
    next cap now = min (2 * now) cap := by
  rw [next, doubled, min_assoc, min_eq_right hcap]

/-- At the cap and at nothing a doubling changes nothing, so ending early leaves nothing out. -/
theorem next_eq_self (hcap : cap ≤ longestTime) (hnow : now ≤ cap) (hend : cap ≤ now ∨ now = 0) :
    next cap now = now := by
  rw [next_eq_min hcap]
  obtain h | rfl := hend
  · rw [min_eq_right (h.trans (Nat.le_mul_of_pos_left now Nat.two_pos)), Nat.le_antisymm h hnow]
  · exact min_eq_left (Nat.zero_le cap)

theorem next_le (cap now : Nanoseconds) : next cap now ≤ cap := min_le_right _ _

/-- The doubling that may end early comes to the same as doubling to the end. -/
theorem grow_eq_iterate (hcap : cap ≤ longestTime) (hnow : now ≤ cap) (attempts : Nat) :
    grow cap attempts now = (next cap)^[attempts] now := by
  induction attempts generalizing now with
  | zero => rfl
  | succ attempts ih =>
    rw [grow, Function.iterate_succ_apply]
    split
    · rename_i hend
      have hself := next_eq_self hcap hnow hend
      rw [hself, Function.iterate_fixed hself]
    · exact ih (next_le cap now)

/-- Cutting at the cap before a multiplication shows no more than cutting after it. -/
theorem min_mul_min (initial cap : Nat) {k : Nat} (hk : 0 < k) :
    min cap (min initial cap * k) = min cap (initial * k) := by
  obtain h | h := le_total initial cap
  · rw [min_eq_left h]
  · have hcap : cap ≤ cap * k := Nat.le_mul_of_pos_right cap hk
    rw [min_eq_right h, min_eq_left hcap, min_eq_left (hcap.trans (Nat.mul_le_mul_right k h))]

/-- Doubling to the end, in closed form. -/
theorem iterate_next (hcap : cap ≤ longestTime) (hnow : now ≤ cap) (attempts : Nat) :
    (next cap)^[attempts] now = min cap (now * 2 ^ attempts) := by
  induction attempts generalizing now with
  | zero => rw [Function.iterate_zero_apply, Nat.pow_zero, Nat.mul_one, min_eq_right hnow]
  | succ attempts ih =>
    rw [Function.iterate_succ_apply, ih (next_le cap now), next_eq_min hcap,
      min_mul_min _ _ (Nat.two_pow_pos attempts), Nat.pow_succ', ← Nat.mul_assoc, Nat.mul_comm 2]

variable {b : Backoff} {attempt later : Nat}

theorem delay_eq_iterate (hcap : b.cap ≤ longestTime) (attempt : Nat) :
    b.delay attempt = (next b.cap)^[attempt] (min b.initial b.cap) :=
  grow_eq_iterate hcap (min_le_right _ _) attempt

theorem delay_eq_min (hcap : b.cap ≤ longestTime) (attempt : Nat) :
    b.delay attempt = min b.cap (b.initial * 2 ^ attempt) := by
  rw [delay_eq_iterate hcap, iterate_next hcap (min_le_right _ _),
    min_mul_min _ _ (Nat.two_pow_pos attempt)]

example : ({} : Backoff).delay 4 = 16 * second := rfl

theorem delay_le_cap (hcap : b.cap ≤ longestTime) (attempt : Nat) : b.delay attempt ≤ b.cap := by
  rw [delay_eq_min hcap]
  exact min_le_left _ _

theorem delay_mono (hcap : b.cap ≤ longestTime) (h : attempt ≤ later) :
    b.delay attempt ≤ b.delay later := by
  rw [delay_eq_min hcap, delay_eq_min hcap]
  have hpow : 2 ^ attempt ≤ 2 ^ later := Nat.pow_le_pow_right Nat.two_pos h
  exact le_min (min_le_left _ _) ((min_le_right _ _).trans (Nat.mul_le_mul_left _ hpow))

end Backoff

/-! ### Times in two words -/

namespace Duration

theorem toNanoseconds_longest : longest.toNanoseconds = longestTime := by
  simp [longest, toNanoseconds, longestTime, second, UInt64.size]

theorem toNanoseconds_le_longestTime (d : Duration) : d.toNanoseconds ≤ longestTime := by
  have hseconds := d.seconds.toNat_lt
  have hnanos := d.nanos_lt
  simp only [toNanoseconds, longestTime, second, UInt64.size, Nanoseconds] at *
  omega

theorem le_iff {d e : Duration} : d ≤ e ↔ d.toNanoseconds ≤ e.toNanoseconds := by
  have hd := d.nanos_lt
  have he := e.nanos_lt
  change d.seconds < e.seconds ∨ d.seconds = e.seconds ∧ d.nanos ≤ e.nanos ↔ _
  rw [UInt64.lt_iff_toNat_lt, ← UInt64.toNat_inj, UInt32.le_iff_toNat_le]
  simp only [toNanoseconds, second, Nanoseconds] at *
  omega

theorem toNanoseconds_min (d e : Duration) :
    (min d e).toNanoseconds = min d.toNanoseconds e.toNanoseconds := by
  change (if d ≤ e then d else e).toNanoseconds = _
  split
  · rename_i h
    rw [min_eq_left (le_iff.mp h)]
  · rename_i h
    rw [min_eq_right (Nat.le_of_not_le (mt le_iff.mpr h))]

theorem isZero_iff {d : Duration} : d.isZero ↔ d.toNanoseconds = 0 := by
  rw [isZero, Bool.and_eq_true, beq_iff_eq, beq_iff_eq, ← UInt64.toNat_inj, ← UInt32.toNat_inj]
  simp only [toNanoseconds, second, UInt64.reduceToNat, UInt32.reduceToNat, Nanoseconds]
  omega

/-- Neither word of twice a time runs over: the carry makes up for the nanoseconds, and seconds that
do not fit are cut. -/
theorem toNanoseconds_double (d : Duration) : d.double.toNanoseconds = doubled d.toNanoseconds := by
  have hnanos := d.nanos_lt
  have hcarry := d.toNat_carry
  have hrest := d.toNat_rest
  unfold double
  split
  · rename_i hfits
    have hseconds : (d.seconds * 2 + d.carry).toNat = d.seconds.toNat * 2 + d.carry.toNat := by
      simp only [UInt64.toNat_add, UInt64.toNat_mul, UInt64.reduceToNat, UInt64.size] at hfits ⊢
      omega
    simp only [toNanoseconds, doubled, longestTime, hseconds, hrest, hcarry, second, UInt64.size,
      Nanoseconds] at *
    omega
  · rename_i hfits
    refine toNanoseconds_longest.trans ?_
    simp only [toNanoseconds, doubled, longestTime, hcarry, second, UInt64.size, Nanoseconds] at *
    omega

theorem toNanoseconds_grow (cap now : Duration) (attempts : Nat) :
    (grow cap attempts now).toNanoseconds =
      Backoff.grow cap.toNanoseconds attempts now.toNanoseconds := by
  induction attempts generalizing now with
  | zero => rfl
  | succ attempts ih =>
    simp only [grow, Backoff.grow, le_iff, isZero_iff]
    split
    · rfl
    · rw [ih, toNanoseconds_min, toNanoseconds_double]

theorem toNanoseconds_delay (initial cap : Duration) (attempt : Nat) :
    (delay initial cap attempt).toNanoseconds =
      Backoff.delay ⟨initial.toNanoseconds, cap.toNanoseconds⟩ attempt := by
  rw [delay, toNanoseconds_grow, toNanoseconds_min]
  rfl

/-- The wait before an attempt is the first wait times a power of two, cut at the cap. So it never
exceeds the cap, never becomes shorter, and stays at the cap; it is what doubling to the end over
unbounded numbers comes to; and counted in two words it is the same, since a doubling cut at the cap
is exact in them. -/
theorem delay_closed_form (initial cap : Duration) :
    let b : Backoff := ⟨initial.toNanoseconds, cap.toNanoseconds⟩
    (∀ attempt, b.delay attempt = min b.cap (b.initial * 2 ^ attempt)) ∧
    (∀ attempt, b.delay attempt ≤ b.cap) ∧
    (∀ attempt later, attempt ≤ later → b.delay attempt ≤ b.delay later) ∧
    (∀ attempt later, attempt ≤ later → b.delay attempt = b.cap → b.delay later = b.cap) ∧
    (∀ attempt, b.delay attempt =
      (fun now => min (2 * now) b.cap)^[attempt] (min b.initial b.cap)) ∧
    (∀ attempt, (delay initial cap attempt).toNanoseconds = b.delay attempt) ∧
    ∀ d : Duration, (min d.double cap).toNanoseconds = min (2 * d.toNanoseconds) b.cap := by
  intro b
  have hcap : b.cap ≤ longestTime := cap.toNanoseconds_le_longestTime
  have hnext : Backoff.next b.cap = fun now => min (2 * now) b.cap :=
    funext (Backoff.next_eq_min hcap)
  refine ⟨Backoff.delay_eq_min hcap, Backoff.delay_le_cap hcap,
    fun _ _ => Backoff.delay_mono hcap, fun attempt later h hreached => ?_, fun attempt => ?_,
    toNanoseconds_delay initial cap, fun d => ?_⟩
  · exact Nat.le_antisymm (Backoff.delay_le_cap hcap later)
      (hreached ▸ Backoff.delay_mono hcap h)
  · rw [Backoff.delay_eq_iterate hcap, hnext]
  · rw [toNanoseconds_min, toNanoseconds_double]
    exact Backoff.next_eq_min hcap d.toNanoseconds

/-- From one nanosecond to the longest time there is: the last doubling that fits, and the first one
that is cut. -/
theorem delay_closed_form_of_longest :
    (delay ⟨0, 1, by decide⟩ longest 93).toNanoseconds = 2 ^ 93 ∧
      ∀ later, 94 ≤ later →
        (delay ⟨0, 1, by decide⟩ longest later).toNanoseconds = longestTime := by
  obtain ⟨hclosed, -, -, hstays, -, hwords, -⟩ := delay_closed_form ⟨0, 1, by decide⟩ longest
  simp only [toNanoseconds_longest] at hclosed hstays hwords
  refine ⟨?_, fun later h => ?_⟩
  · rw [hwords, hclosed]
    simp [toNanoseconds, longestTime, second, UInt64.size]
  · rw [hwords]
    refine hstays 94 later h ?_
    rw [hclosed]
    simp [toNanoseconds, longestTime, second, UInt64.size]

end Duration
end SceneRelay
