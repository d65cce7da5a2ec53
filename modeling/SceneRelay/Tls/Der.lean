/-! Nested elements of a tag, a length and a content, as keys are written in. -/
namespace SceneRelay.Der

/-- One element, its content given as bytes. -/
structure Element where
  tag : UInt8
  content : List UInt8
  deriving DecidableEq, Repr

/-- The length at the front, in one byte or in as many as the first one says. -/
def length? : List UInt8 → Option (Nat × List UInt8)
  | [] => none
  | n :: rest =>
    if n < 128 then some (n.toNat, rest)
    else
      let size := n.toNat - 128
      if size = 0 ∨ 4 < size ∨ rest.length < size then none
      else some ((rest.take size).foldl (fun m b => 256 * m + b.toNat) 0, rest.drop size)

/-- The element at the front and what follows it. -/
def element? : List UInt8 → Option (Element × List UInt8)
  | [] => none
  | tag :: rest => do
    let (n, rest) ← length? rest
    if rest.length < n then none else some (⟨tag, rest.take n⟩, rest.drop n)

/-- At most `fuel` elements that fill the bytes. -/
def elementsUpTo : Nat → List UInt8 → Option (List Element)
  | _, [] => some []
  | 0, _ => none
  | fuel + 1, bytes => do
    let (e, rest) ← element? bytes
    return e :: (← elementsUpTo fuel rest)

/-- The elements that fill the bytes. -/
def elements? (bytes : List UInt8) : Option (List Element) := elementsUpTo bytes.length bytes

def integerTag : UInt8 := 2
def octetsTag : UInt8 := 4
def identifierTag : UInt8 := 6
def sequenceTag : UInt8 := 48

/-- The members of a sequence that fills the bytes. -/
def sequence? (bytes : List UInt8) : Option (List Element) := do
  match ← elements? bytes with
  | [⟨tag, content⟩] => if tag = sequenceTag then elements? content else none
  | _ => none

end SceneRelay.Der
