import SceneRelay.Json
import SceneRelay.Binary64.Shortest

/-! Compact JSON text: no blanks, members in their order, numbers with the fewest digits. -/
namespace SceneRelay.Json

def hexChar (n : Nat) : Char := Nat.digitChar n

/-- The written form of a character inside quotes. -/
def escapeChar (c : Char) : List Char :=
  match c with
  | '"' => ['\\', '"']
  | '\\' => ['\\', '\\']
  | '\x08' => ['\\', 'b']
  | '\x0c' => ['\\', 'f']
  | '\n' => ['\\', 'n']
  | '\r' => ['\\', 'r']
  | '\t' => ['\\', 't']
  | c =>
    if c < ' ' then ['\\', 'u', '0', '0', hexChar (c.toNat / 16), hexChar (c.toNat % 16)] else [c]

def quote (s : String) : List Char :=
  '"' :: (s.toList.flatMap escapeChar ++ ['"'])

def zeros (n : Nat) : List Char := List.replicate n '0'

/-- Positional between `1e-5` and `1e16`, with a point always; otherwise one leading digit and an
exponent. -/
def renderDouble (x : Binary64) : List Char :=
  let body :=
    if x.magnitude = 0 then "0.0".toList
    else
      let (digits, exponent) := x.shortest
      let ds := Nat.toDigits 10 digits
      let lead := (ds.length : Int) + exponent
      if 0 ≤ exponent ∧ lead ≤ 16 then ds ++ zeros exponent.toNat ++ ['.', '0']
      else if 0 < lead ∧ lead ≤ 16 then ds.take lead.toNat ++ '.' :: ds.drop lead.toNat
      else if -5 < lead ∧ lead ≤ 0 then '0' :: '.' :: (zeros (-lead).toNat ++ ds)
      else
        let power := (toString (lead - 1)).toList
        match ds with
        | [d] => d :: 'e' :: power
        | d :: ds => d :: '.' :: (ds ++ 'e' :: power)
        | [] => []
  if x.negative then '-' :: body else body

def renderInt (n : Int) : List Char :=
  if n < 0 then '-' :: Nat.toDigits 10 n.natAbs else Nat.toDigits 10 n.natAbs

def renderNumber : JsonNumber → List Char
  | .integer n => renderInt n
  | .double x => renderDouble x

mutual

/-- The compact text of a document. -/
def render : Json → List Char
  | .null => "null".toList
  | .bool b => if b then "true".toList else "false".toList
  | .number n => renderNumber n
  | .string s => quote s
  | .array items => '[' :: (renderItems items ++ [']'])
  | .object members => '{' :: (renderMembers members ++ ['}'])

def renderItems : List Json → List Char
  | [] => []
  | [v] => render v
  | v :: rest => render v ++ ',' :: renderItems rest

def renderMembers : List (String × Json) → List Char
  | [] => []
  | [(name, v)] => quote name ++ ':' :: render v
  | (name, v) :: rest => quote name ++ ':' :: (render v ++ ',' :: renderMembers rest)

end

def toText (v : Json) : String := String.ofList v.render

end SceneRelay.Json
