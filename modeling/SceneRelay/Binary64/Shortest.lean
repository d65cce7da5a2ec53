import SceneRelay.Binary64

/-! The shortest decimal that reads back as a given double, nearest to it among those of its length. -/
namespace SceneRelay.Binary64

/-- A grid point `point * 10 ^ exponent` and whether it reads back as the double in question. -/
structure GridPoint where
  point : Nat
  exponent : Int
  readsBack : Bool

/-- Numerator and denominator of `x` in quarters of its last place, scaled by a power of ten. -/
def onGrid (x : Binary64) (quarters : Nat) (exponent : Int) : Nat × Nat :=
  let q := x.exponent - 2
  (quarters * twoTo q.toNat * tenTo (-exponent).toNat, twoTo (-q).toNat * tenTo exponent.toNat)

/-- Compares the grid point with both ends of the interval that rounds to `x`. -/
def gridPoint (x : Binary64) (exponent : Int) (point : Nat) : GridPoint :=
  let m := x.significand
  let below := if m = twoTo 52 ∧ x.exponent ≠ -1074 then 4 * m - 1 else 4 * m - 2
  let (low, den) := onGrid x below exponent
  let (high, _) := onGrid x (4 * m + 2) exponent
  let p := point * den
  ⟨point, exponent, if m % 2 = 0 then low ≤ p && p ≤ high else low < p && p < high⟩

/-- The nearer of the two grid points around `x` that reads back, a tie going to the even one. -/
def nearestOnGrid? (x : Binary64) (exponent : Int) : Option (Nat × Int) :=
  let (num, den) := onGrid x (4 * x.significand) exponent
  let floor := gridPoint x exponent (num / den)
  let ceil := gridPoint x exponent (num / den + 1)
  match floor.readsBack, ceil.readsBack with
  | true, true => some (nearestEven num den, exponent)
  | true, false => some (floor.point, exponent)
  | false, true => some (ceil.point, exponent)
  | false, false => none

/-- The power of ten of the leading digit. -/
def leadingExponent (x : Binary64) : Int :=
  let num := x.significand * twoTo x.exponent.toNat
  let den := twoTo (-x.exponent).toNat
  if den ≤ num then (decimalLength (num / den) : Int) - 1
  else -(decimalLength ((den + num - 1) / num - 1) : Int)

/-- Drops trailing zeros of the digits. -/
def trimZeros : Nat → Nat → Int → Nat × Int
  | fuel + 1, digits, exponent =>
    if digits % 10 = 0 then trimZeros fuel (digits / 10) (exponent + 1) else (digits, exponent)
  | 0, digits, exponent => (digits, exponent)

/-- The digits and the power of ten of the shortest decimal that rounds to a nonzero `x`. -/
def shortest (x : Binary64) : Nat × Int :=
  let lead := x.leadingExponent
  let (digits, exponent) :=
    ((List.range 17).findSome? fun (n : Nat) => x.nearestOnGrid? (lead - n)).getD (0, 0)
  trimZeros 20 digits exponent

end SceneRelay.Binary64
