/-! Double-precision numbers by sign and magnitude bits, and rounding to the nearest of them. -/
namespace SceneRelay

/-- Two to the power of `n`. -/
def twoTo (n : Nat) : Nat := Nat.pow 2 n

/-- Ten to the power of `n`. -/
def tenTo (n : Nat) : Nat := Nat.pow 10 n

/-- The number of decimal digits of `n`; zero has none. -/
def decimalLength (n : Nat) : Nat :=
  if n = 0 then 0 else (Nat.toDigits 10 n).length

/-- The integer nearest to `num / den`, a tie going to the even one. -/
def nearestEven (num den : Nat) : Nat :=
  let floor := num / den
  let rest := num % den
  if 2 * rest < den then floor
  else if den < 2 * rest then floor + 1
  else floor + floor % 2

/-- A double: its sign and its other 63 bits read as a number, so that neighbours differ by one. -/
structure Binary64 where
  negative : Bool
  magnitude : Nat
  deriving DecidableEq, Repr, Inhabited

namespace Binary64

/-- The magnitude bits of infinity: every finite double lies below. -/
def infinity : Nat := 2047 * twoTo 52

def isFinite (x : Binary64) : Bool := x.magnitude < infinity

/-- The integer `m` of the value `m * 2 ^ exponent`. -/
def significand (x : Binary64) : Nat :=
  if x.magnitude < twoTo 52 then x.magnitude else twoTo 52 + x.magnitude % twoTo 52

def exponent (x : Binary64) : Int :=
  (max 1 (x.magnitude / twoTo 52) : Nat) - 1075

/-- The 64 bits, the sign first. -/
def bits (x : Binary64) : Nat :=
  (if x.negative then twoTo 63 else 0) + x.magnitude

/-- The value is a whole number. -/
def isIntegral (x : Binary64) : Bool :=
  if 0 ≤ x.exponent then true
  else x.significand % twoTo (-x.exponent).toNat == 0

/-- The numerator and denominator of `num / den / 2 ^ q`. -/
def scaled (num den : Nat) (q : Int) : Nat × Nat :=
  (num * twoTo (-q).toNat, den * twoTo q.toNat)

/-- The exponent at which `num / den` has a significand below `2 ^ 53`, as small as the format allows. -/
def scaleOf (num den : Nat) : Int :=
  let guess : Int := if num = 0 then -1074 else max (-1074) ((num.log2 : Int) - den.log2 - 53)
  let (n, d) := scaled num den guess
  if n / d < twoTo 53 then guess else guess + 1

/-- The double nearest to `num / den`, a tie going to the even significand. -/
def ofRatio (negative : Bool) (num den : Nat) : Binary64 :=
  let q := scaleOf num den
  let (n, d) := scaled num den q
  ⟨negative, min infinity ((q + 1074).toNat * twoTo 52 + nearestEven n d)⟩

/-- The numerator and denominator of the magnitude of a finite double. -/
def ratio (x : Binary64) : Nat × Nat :=
  (x.significand * twoTo x.exponent.toNat, twoTo (-x.exponent).toNat)

/-- The double nearest to the product of finite doubles. -/
def mul (x y : Binary64) : Binary64 :=
  ofRatio (x.negative != y.negative) (x.ratio.1 * y.ratio.1) (x.ratio.2 * y.ratio.2)

/-- The double nearest to the quotient of finite doubles, of which the second is not zero. -/
def div (x y : Binary64) : Binary64 :=
  ofRatio (x.negative != y.negative) (x.ratio.1 * y.ratio.2) (x.ratio.2 * y.ratio.1)

/-- The double nearest to a power of ten; up to `10 ^ 308` it is finite. -/
def powerOfTen (n : Nat) : Binary64 := ofRatio false (tenTo n) 1

/-- The double nearest to `digits * 10 ^ exponent`; far outside the format the power is not computed. -/
def ofDecimal (negative : Bool) (digits : Nat) (exponent : Int) : Binary64 :=
  let size := (decimalLength digits : Int) + exponent
  if digits = 0 ∨ size < -330 then ⟨negative, 0⟩
  else if 310 < size then ⟨negative, infinity⟩
  else if 0 ≤ exponent then ofRatio negative (digits * tenTo exponent.toNat) 1
  else ofRatio negative digits (tenTo (-exponent).toNat)

/-- The double nearest to a whole number. -/
def ofInt (n : Int) : Binary64 := ofRatio (n < 0) n.natAbs 1

/-- The value of a whole number that is not negative. -/
def toNat? (x : Binary64) : Option Nat :=
  if x.negative ∧ x.magnitude ≠ 0 ∨ ¬x.isIntegral then none
  else some (x.significand * twoTo x.exponent.toNat / twoTo (-x.exponent).toNat)

end Binary64
end SceneRelay
