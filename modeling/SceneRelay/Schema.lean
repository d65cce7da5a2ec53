import SceneRelay.Json

/-! Compiled schemas over types, members and items, and the documents they accept. -/
namespace SceneRelay

/-- The names a schema has for kinds of values. -/
inductive JsonType where
  | array
  | boolean
  | integer
  | null
  | number
  | object
  | string
  deriving DecidableEq, Repr

namespace JsonType

def name : JsonType → String
  | array => "array"
  | boolean => "boolean"
  | integer => "integer"
  | null => "null"
  | number => "number"
  | object => "object"
  | string => "string"

def all : List JsonType := [array, boolean, integer, null, number, object, string]

def ofName? (s : String) : Option JsonType := all.find? (·.name = s)

def admits : JsonType → Json → Bool
  | array, .array _ => true
  | boolean, .bool _ => true
  | integer, .number n => n.isWhole
  | null, .null => true
  | number, .number _ => true
  | object, .object _ => true
  | string, .string _ => true
  | _, _ => false

end JsonType

/-- A schema; `closedBy` holds for the members that no property names, `each` for the items. -/
inductive Schema where
  | always
  | never
  | rules (types : Option (List JsonType)) (required : List String)
      (properties : Option (List (String × Schema))) (closedBy each : Option Schema)
      (minItems maxItems : Option Nat)
  deriving Inhabited

namespace Schema

def isNever : Schema → Bool
  | never => true
  | _ => false

def typesAdmit (types : Option (List JsonType)) (v : Json) : Bool :=
  types.all fun ts => ts.any fun t => t.admits v

/-- The members that no property names. -/
def extras (properties : Option (List (String × Schema))) (members : List (String × Json)) :
    List (String × Json) :=
  members.filter fun m => !(properties.getD []).any fun p => p.1 = m.1

mutual

/-- The schema accepts a document. -/
def accepts : Schema → Json → Bool
  | .always, _ => true
  | .never, _ => false
  | .rules types required properties closedBy each minItems maxItems, v =>
    typesAdmit types v &&
    match v with
    | .object members =>
      required.all (fun name => (members.lookup name).isSome) &&
      acceptsNamed properties members &&
      acceptsAll closedBy ((extras properties members).map Prod.snd)
    | .array items =>
      minItems.all (fun n => n ≤ items.length) &&
      maxItems.all (fun n => items.length ≤ n) &&
      acceptsAll each items
    | _ => true

/-- Each property that is there is accepted by its schema. -/
def acceptsNamed : Option (List (String × Schema)) → List (String × Json) → Bool
  | none, _ => true
  | some properties, members => acceptsProperties properties members

def acceptsProperties : List (String × Schema) → List (String × Json) → Bool
  | [], _ => true
  | (name, s) :: rest, members =>
    (match members.lookup name with
      | some v => accepts s v
      | none => true) && acceptsProperties rest members

/-- One optional schema accepts all of the values. -/
def acceptsAll : Option Schema → List Json → Bool
  | none, _ => true
  | some s, values => values.all fun v => accepts s v

end

end Schema
end SceneRelay
