import SceneRelay.Json
import SceneRelay.Json.Decimal

/-! Reading JSON text: nothing but white space around one value, at most 127 nested containers. -/
namespace SceneRelay.Json

def isBlank (c : Char) : Bool := c == ' ' || c == '\t' || c == '\n' || c == '\r'

def skipBlank (cs : List Char) : List Char := cs.dropWhile isBlank

/-- The character that a one-letter escape stands for. -/
def unescape? : Char → Option Char
  | '"' => some '"'
  | '\\' => some '\\'
  | '/' => some '/'
  | 'b' => some '\x08'
  | 'f' => some '\x0c'
  | 'n' => some '\n'
  | 'r' => some '\r'
  | 't' => some '\t'
  | _ => none

def isHighSurrogate (u : Nat) : Bool := 0xd800 ≤ u && u < 0xdc00

def isLowSurrogate (u : Nat) : Bool := 0xdc00 ≤ u && u < 0xe000

/-- The characters up to the closing quote, before them those of `done` in reverse, and the rest. -/
def stringBody (done : List Char) : List Char → Option (String × List Char)
  | [] => none
  | '"' :: rest => some (String.ofList done.reverse, rest)
  | '\\' :: 'u' :: a :: b :: c :: d :: rest =>
    match Text.hexNumber? [a, b, c, d] with
    | none => none
    | some u =>
      if isLowSurrogate u then none
      else if isHighSurrogate u then
        match rest with
        | '\\' :: 'u' :: a' :: b' :: c' :: d' :: rest' =>
          match Text.hexNumber? [a', b', c', d'] with
          | none => none
          | some low =>
            if isLowSurrogate low then
              stringBody (Char.ofNat (0x10000 + (u - 0xd800) * 0x400 + (low - 0xdc00)) :: done) rest'
            else none
        | _ => none
      else stringBody (Char.ofNat u :: done) rest
  | '\\' :: e :: rest =>
    match unescape? e with
    | some c => stringBody (c :: done) rest
    | none => none
  | c :: rest => if c < ' ' then none else stringBody (c :: done) rest

/-- The integer part: a zero alone or digits that do not begin with one. -/
def integerPart : List Char → Option (List Char × List Char)
  | '0' :: rest => some (['0'], rest)
  | c :: rest =>
    if c.isDigit then some ((c :: rest).takeWhile Char.isDigit, rest.dropWhile Char.isDigit) else none
  | [] => none

/-- The digits after a point, which are at least one; no point, no digits. -/
def fractionPart : List Char → Option (List Char × List Char)
  | '.' :: rest =>
    let digits := rest.takeWhile Char.isDigit
    if digits.isEmpty then none else some (digits, rest.dropWhile Char.isDigit)
  | cs => some ([], cs)

/-- The signed digits after `e` or `E`, if there is one. -/
def exponentPart : List Char → Option (Option Int × List Char)
  | e :: rest =>
    if e = 'e' ∨ e = 'E' then
      let (minus, rest) := match rest with
        | '-' :: rest => (true, rest)
        | '+' :: rest => (false, rest)
        | rest => (false, rest)
      let digits := rest.takeWhile Char.isDigit
      if digits.isEmpty then none
      else
        let n : Int := Text.decimalValue digits
        some (some (if minus then -n else n), rest.dropWhile Char.isDigit)
    else some (none, e :: rest)
  | [] => some (none, [])

/-- Digits alone that fit 64 bits are a whole number, `-0` excepted; all else is a double. -/
def numberOf? (negative : Bool) (whole fraction : List Char) (exponent : Option Int) :
    Option JsonNumber :=
  let n := Text.decimalValue whole
  if fraction.isEmpty ∧ exponent = none ∧ ¬negative ∧ n < twoTo 64 then some (.integer n)
  else if fraction.isEmpty ∧ exponent = none ∧ negative ∧ 0 < n ∧ n ≤ twoTo 63 then
    some (.integer (-n))
  else (double? negative whole fraction (exponent.getD 0)).map .double

/-- A number without its sign. -/
def unsigned? (negative : Bool) (cs : List Char) : Option (Json × List Char) := do
  let (whole, cs) ← integerPart cs
  let (fraction, cs) ← fractionPart cs
  let (exponent, cs) ← exponentPart cs
  let n ← numberOf? negative whole fraction exponent
  return (.number n, cs)

def number? : List Char → Option (Json × List Char)
  | '-' :: cs => unsigned? true cs
  | cs => unsigned? false cs

/-- Items separated by commas up to `close`; the list has at least one, `fuel` bounds their number. -/
def itemsUpTo (close : Char) (item : List Char → Option (α × List Char)) :
    Nat → List α → List Char → Option (List α × List Char)
  | 0, _, _ => none
  | fuel + 1, done, cs =>
    match item cs with
    | none => none
    | some (x, cs) =>
      match skipBlank cs with
      | ',' :: cs => itemsUpTo close item fuel (x :: done) cs
      | c :: cs => if c = close then some ((x :: done).reverse, cs) else none
      | [] => none

/-- The items of a container whose opening bracket has been read. -/
def itemsOf (close : Char) (item : List Char → Option (α × List Char)) (cs : List Char) :
    Option (List α × List Char) :=
  match skipBlank cs with
  | [] => none
  | c :: rest => if c = close then some ([], rest) else itemsUpTo close item (cs.length + 1) [] cs

/-- A quoted name, a colon and a value. -/
def memberOf (value : List Char → Option (Json × List Char)) (cs : List Char) :
    Option ((String × Json) × List Char) :=
  match skipBlank cs with
  | '"' :: cs =>
    match stringBody [] cs with
    | none => none
    | some (name, cs) =>
      match skipBlank cs with
      | ':' :: cs => (value cs).map fun (v, cs) => ((name, v), cs)
      | _ => none
  | _ => none

/-- One value with at most `depth` containers inside each other, and what follows it. -/
def value : Nat → List Char → Option (Json × List Char)
  | depth, cs =>
    match skipBlank cs with
    | 'n' :: 'u' :: 'l' :: 'l' :: cs => some (.null, cs)
    | 't' :: 'r' :: 'u' :: 'e' :: cs => some (.bool true, cs)
    | 'f' :: 'a' :: 'l' :: 's' :: 'e' :: cs => some (.bool false, cs)
    | '"' :: cs => (stringBody [] cs).map fun (s, cs) => (.string s, cs)
    | '[' :: cs =>
      match depth with
      | 0 => none
      | depth + 1 => (itemsOf ']' (value depth) cs).map fun (items, cs) => (.array items, cs)
    | '{' :: cs =>
      match depth with
      | 0 => none
      | depth + 1 =>
        (itemsOf '}' (memberOf (value depth)) cs).map fun (members, cs) => (ofMembers members, cs)
    | cs => number? cs

def maxDepth : Nat := 127

/-- The document a text stands for. -/
def parse? (text : String) : Option Json :=
  match value maxDepth text.toList with
  | some (v, rest) => if (skipBlank rest).isEmpty then some v else none
  | none => none

/-- The document that bytes stand for; they must be valid UTF-8. -/
def ofBytes? (bytes : ByteArray) : Option Json :=
  (String.fromUTF8? bytes).bind parse?

end SceneRelay.Json
