import SceneRelay.Binary64
import SceneRelay.Text.Digits

/-! Decimals read as doubles in two roundings: the digits make a word of 64 bits, and this is
multiplied or divided by a power of ten. The result is near to the decimal, though not always the
double nearest to it. -/
namespace SceneRelay.Json

/-- Reads digits onto `n` as long as the number fits a word; the second part is how many digits are
left over. -/
def wordOf (n : Nat) : List Char → Nat × Nat
  | [] => (n, 0)
  | c :: cs =>
    let m := 10 * n + Text.digitValue c
    if m < twoTo 64 then wordOf m cs else (n, (c :: cs).length)

/-- Divides by a power of ten, one after the other if no double is as great as it. -/
def lowered (x : Binary64) (power : Nat) : Binary64 :=
  if power ≤ 308 then x.div (.powerOfTen power)
  else if x.magnitude = 0 then x
  else lowered (x.div (.powerOfTen 308)) (power - 308)
termination_by power

/-- A word times a power of ten; none if that is too large. -/
def scaled? (word : Nat) (power : Int) : Option Binary64 :=
  let x : Binary64 := .ofRatio false word 1
  if power < 0 then some (lowered x (-power).toNat)
  else if power ≤ 308 then
    let y := x.mul (.powerOfTen power.toNat)
    if y.isFinite then some y else none
  else if word = 0 then some x else none

/-- The double of a decimal. Digits before the point that are left over count as zeros, those after
it not at all. -/
def double? (negative : Bool) (whole fraction : List Char) (exponent : Int) : Option Binary64 :=
  let (word, dropped) := wordOf 0 whole
  let (word, ignored) := wordOf word fraction
  let power := exponent + dropped - (fraction.length - ignored : Nat)
  (scaled? word power).map fun x => { x with negative }

end SceneRelay.Json
