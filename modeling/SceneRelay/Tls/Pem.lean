import SceneRelay.Text.Base64

/-! Blocks of Base64 between a `BEGIN` and an `END` line, each with a label; other lines do not
count. -/
namespace SceneRelay.Pem

/-- The kinds of blocks that can be of use. -/
inductive Label where
  | certificate
  | privateKey
  | rsaPrivateKey
  | ecPrivateKey
  deriving DecidableEq, Repr

namespace Label

def text : Label → String
  | certificate => "CERTIFICATE"
  | privateKey => "PRIVATE KEY"
  | rsaPrivateKey => "RSA PRIVATE KEY"
  | ecPrivateKey => "EC PRIVATE KEY"

def all : List Label := [certificate, privateKey, rsaPrivateKey, ecPrivateKey]

def ofText? (s : List UInt8) : Option Label := all.find? fun l => l.text.toUTF8.toList = s

end Label

structure Block where
  label : Label
  content : List UInt8
  deriving DecidableEq, Repr

/-- The blocks up to the first fault, and whether there was one. -/
structure Blocks where
  blocks : List Block := []
  faulty : Bool := false
  deriving DecidableEq, Repr

/-- The lines of a text; line feed and carriage return both end one. -/
def lines (text : List UInt8) : List (List UInt8) :=
  text.splitOnP fun c => c = 10 ∨ c = 13

def ascii (s : String) : List UInt8 := s.toUTF8.toList

/-- For a `BEGIN` line its label, or none inside if not exactly five dashes close it. -/
def opening? (line : List UInt8) : Option (Option (List UInt8)) :=
  let start := ascii "-----BEGIN "
  if start.isPrefixOf line then
    let inner := ((line.drop start.length).reverse.dropWhile (· = 32))
    let dashes := (inner.takeWhile (· = 45)).length
    some (if dashes = 5 then some (inner.drop 5).reverse else none)
  else none

def closing (label : List UInt8) : List UInt8 := ascii "-----END " ++ label ++ ascii "-----"

/-- Reads lines with the label and the text of the block that is open; blocks of other kinds are
passed over unread. -/
def readLines : Option (List UInt8 × List UInt8) → List (List UInt8) → Blocks
  | none, [] => {}
  | some _, [] => { faulty := true }
  | open?, line :: rest =>
    match opening? line with
    | some none => { faulty := true }
    | some (some label) => readLines (some (label, [])) rest
    | none =>
      match open? with
      | none => readLines none rest
      | some (label, text) =>
        if (closing label).isPrefixOf line then
          match Label.ofText? label with
          | none => readLines none rest
          | some l =>
            match Text.Base64.decode? text with
            | none => { faulty := true }
            | some content =>
              let more := readLines none rest
              { more with blocks := ⟨l, content⟩ :: more.blocks }
        else readLines (some (label, text ++ line)) rest

def read (bytes : ByteArray) : Blocks := readLines none (lines bytes.toList)

end SceneRelay.Pem
