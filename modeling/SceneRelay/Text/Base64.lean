/-! Base64: four characters for three bytes, read without regard to white space. -/
namespace SceneRelay.Text.Base64

/-- The value of a character of the alphabet, given by its code. -/
def value? (c : UInt8) : Option Nat :=
  if 65 ≤ c ∧ c ≤ 90 then some (c.toNat - 65)
  else if 97 ≤ c ∧ c ≤ 122 then some (c.toNat - 97 + 26)
  else if 48 ≤ c ∧ c ≤ 57 then some (c.toNat - 48 + 52)
  else if c = 43 then some 62
  else if c = 47 then some 63
  else none

def isSpace (c : UInt8) : Bool := c = 32 ∨ 9 ≤ c ∧ c ≤ 13

/-- The bytes of a run of values; bits that fill no byte must be zero. -/
def pack : List Nat → Option (List UInt8)
  | [] => some []
  | a :: b :: c :: d :: rest => do
    let n := ((a * 64 + b) * 64 + c) * 64 + d
    return (n / 65536).toUInt8 :: (n / 256).toUInt8 :: n.toUInt8 :: (← pack rest)
  | [a, b, c] =>
    if c % 4 = 0 then
      let n := (a * 64 + b) * 16 + c / 4
      some [(n / 256).toUInt8, n.toUInt8]
    else none
  | [a, b] => if b % 16 = 0 then some [(a * 4 + b / 16).toUInt8] else none
  | [_] => none

/-- The bytes of a text; the padding may be left out. -/
def decode? (text : List UInt8) : Option (List UInt8) := do
  let symbols := text.filter fun c => !isSpace c
  let body := symbols.takeWhile (· ≠ 61)
  let padding := symbols.drop body.length
  if padding.length ≤ 2 ∧ padding.all (· = 61) then
    pack (← body.mapM value?)
  else none

end SceneRelay.Text.Base64
