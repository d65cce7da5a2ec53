import SceneRelay.Binary64

/-! JSON documents: whole numbers and doubles kept apart, object members ascending by name. -/
namespace SceneRelay

/-- A number as it was written: without fraction and exponent and within 64 bits, or a double. -/
inductive JsonNumber where
  | integer (n : Int)
  | double (x : Binary64)
  deriving DecidableEq, Repr

inductive Json where
  | null
  | bool (b : Bool)
  | number (n : JsonNumber)
  | string (s : String)
  | array (items : List Json)
  | object (members : List (String × Json))
  deriving Repr, Inhabited

namespace JsonNumber

/-- The value is whole; `1.0` counts. -/
def isWhole : JsonNumber → Bool
  | integer _ => true
  | double x => x.isIntegral

def toBinary64 : JsonNumber → Binary64
  | integer n => .ofInt n
  | double x => x

/-- The value of a number written without fraction and exponent that fits a signed word. -/
def toInt64? : JsonNumber → Option Int
  | integer n => if -(twoTo 63 : Int) ≤ n ∧ n < twoTo 63 then some n else none
  | double _ => none

/-- The value of a whole number that is not negative; `2.0` counts. -/
def toNat? : JsonNumber → Option Nat
  | integer n => if 0 ≤ n then some n.toNat else none
  | double x => x.toNat?

end JsonNumber

namespace Json

/-- Puts a member at its place, over one of the same name. -/
def insertMember (name : String) (value : Json) : List (String × Json) → List (String × Json)
  | [] => [(name, value)]
  | (n, v) :: rest =>
    if n = name then (name, value) :: rest
    else if name < n then (name, value) :: (n, v) :: rest
    else (n, v) :: insertMember name value rest

/-- The object with the given members, of equal names the last one. -/
def ofMembers (members : List (String × Json)) : Json :=
  .object (members.foldl (fun acc m => insertMember m.1 m.2 acc) [])

/-- The member `name` of an object. -/
def member? (name : String) : Json → Option Json
  | object members => members.lookup name
  | _ => none

def asString? : Json → Option String
  | string s => some s
  | _ => none

def asNumber? : Json → Option JsonNumber
  | number n => some n
  | _ => none

def asArray? : Json → Option (List Json)
  | array items => some items
  | _ => none

def asObject? : Json → Option (List (String × Json))
  | object members => some members
  | _ => none

end Json
end SceneRelay
