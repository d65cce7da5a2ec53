import SceneRelay.Json
import SceneRelay.Text.Digits

/-! JSON pointers: reference tokens, their text with `~` and `/` escaped, and what they point at. -/
namespace SceneRelay.Json

/-- The reference tokens from the root of a document to one of its values. -/
abbrev Pointer := List String

namespace Pointer

def escape : List Char → List Char
  | [] => []
  | '~' :: cs => '~' :: '0' :: escape cs
  | '/' :: cs => '~' :: '1' :: escape cs
  | c :: cs => c :: escape cs

/-- Undoes `escape`; a tilde must be followed by `0` or `1`. -/
def unescape : List Char → Option (List Char)
  | [] => some []
  | '~' :: '0' :: cs => (unescape cs).map ('~' :: ·)
  | '~' :: '1' :: cs => (unescape cs).map ('/' :: ·)
  | '~' :: _ => none
  | c :: cs => (unescape cs).map (c :: ·)

/-- Every token after a slash. -/
def toChars (p : Pointer) : List Char :=
  p.flatMap fun token => '/' :: escape token.toList

def toText (p : Pointer) : String := String.ofList p.toChars

/-- The text between slashes, up to the next one and from there on. -/
def splitSlash : List Char → List (List Char)
  | [] => [[]]
  | c :: cs =>
    if c = '/' then [] :: splitSlash cs
    else match splitSlash cs with
      | [] => [[c]]
      | part :: parts => (c :: part) :: parts

/-- The pointer that a text stands for. -/
def ofChars? : List Char → Option Pointer
  | [] => some []
  | '/' :: cs => (splitSlash cs).mapM fun part => (unescape part).map String.ofList
  | _ => none

end Pointer

/-- The position an array token stands for: decimal digits without a leading zero. -/
def indexOf? (token : String) : Option Nat :=
  match token.toList with
  | ['0'] => some 0
  | c :: cs =>
    if c ≠ '0' ∧ (c :: cs).all Char.isDigit then some (Text.decimalValue (c :: cs)) else none
  | [] => none

/-- The value that a pointer leads to. -/
def resolve? : Pointer → Json → Option Json
  | [], v => some v
  | token :: rest, .object members =>
    match members.lookup token with
    | some v => resolve? rest v
    | none => none
  | token :: rest, .array items =>
    match indexOf? token with
    | some i =>
      match items[i]? with
      | some v => resolve? rest v
      | none => none
    | none => none
  | _ :: _, _ => none

end SceneRelay.Json
