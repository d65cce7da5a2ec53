import SceneRelay.Json.Printer
import SceneRelay.Schema
import SceneRelay.Schema.Validator

/-! Why a schema refuses a document: one violation for each failing keyword, with its two places. -/
namespace SceneRelay

namespace Schema

/-- What a keyword found wrong. -/
inductive Fault where
  | wrongType (value : Json) (types : List JsonType)
  | missing (name : String)
  | tooFew (value : Json) (limit : Nat)
  | tooMany (value : Json) (limit : Nat)
  | forbidden (value : Json)
  | unexpected (names : List String)

namespace Fault

/-- A limit with its noun in number. -/
def itemCount (n : Nat) : String := if n = 1 then "1 item" else s!"{n} items"

/-- The text of a fault, with the offending value as compact JSON. -/
def message : Fault → String
  | wrongType v [t] => s!"{v.toText} is not of type \"{t.name}\""
  | wrongType v ts =>
    let names := (ts.map JsonType.name).mergeSort (· ≤ ·)
    s!"{v.toText} is not of types " ++ ", ".intercalate (names.map fun n => s!"\"{n}\"")
  | missing name => String.ofList (Json.quote name) ++ " is a required property"
  | tooFew v n => s!"{v.toText} has less than {itemCount n}"
  | tooMany v n => s!"{v.toText} has more than {itemCount n}"
  | forbidden v => s!"False schema does not allow {v.toText}"
  | unexpected names =>
    let verb := if names.length = 1 then "was" else "were"
    "Additional properties are not allowed (" ++
      ", ".intercalate (names.map fun n => s!"'{n}'") ++ s!" {verb} unexpected)"

end Fault

namespace Violation

/-- The same thing seen from the document and the schema around it. -/
def under (instancePath schemaPath : Json.Pointer) (x : Violation) : Violation :=
  ⟨instancePath ++ x.instancePath, schemaPath ++ x.schemaPath, x.message⟩

end Violation

def typeViolations (types : Option (List JsonType)) (v : Json) : List Violation :=
  match types with
  | none => []
  | some ts => if ts.any (·.admits v) then [] else [⟨[], ["type"], (Fault.wrongType v ts).message⟩]

def missingViolations (required : List String) (members : List (String × Json)) :
    List Violation :=
  (required.filter fun name => (members.lookup name).isNone).map
    fun name => ⟨[], ["required"], (Fault.missing name).message⟩

def countViolations (minItems maxItems : Option Nat) (items : List Json) : List Violation :=
  (match minItems with
    | some n =>
      if n ≤ items.length then []
      else [⟨[], ["minItems"], (Fault.tooFew (.array items) n).message⟩]
    | none => []) ++
  (match maxItems with
    | some n =>
      if items.length ≤ n then []
      else [⟨[], ["maxItems"], (Fault.tooMany (.array items) n).message⟩]
    | none => [])

/-- A false schema refuses all extra members at once: by name beside properties, else the first. -/
def closedViolations (named : Bool) (extras : List (String × Json)) : List Violation :=
  match extras with
  | [] => []
  | (_, v) :: _ =>
    [⟨[], ["additionalProperties"],
      (if named then Fault.unexpected (extras.map Prod.fst) else .forbidden v).message⟩]

/-- The violations found in each value, put under the value's name or position. -/
def inEach (find : Json → List Violation) (keyword : String) (values : List (String × Json)) :
    List Violation :=
  values.flatMap fun (token, v) => (find v).map (·.under [token] [keyword])

/-- The items of an array by position. -/
def byIndex (items : List Json) : List (String × Json) :=
  items.zipIdx.map fun (v, i) => (toString i, v)

mutual

/-- All violations of a schema by a document; none if it is accepted. -/
def violations : Schema → Json → List Violation
  | .always, _ => []
  | .never, v => [⟨[], [], (Fault.forbidden v).message⟩]
  | .rules types required properties closedBy each minItems maxItems, v =>
    typeViolations types v ++
    match v with
    | .object members =>
      missingViolations required members ++
      namedViolations properties members ++
      extraViolations closedBy properties.isSome (extras properties members)
    | .array items =>
      countViolations minItems maxItems items ++ itemViolations each items
    | _ => []

def namedViolations : Option (List (String × Schema)) → List (String × Json) → List Violation
  | none, _ => []
  | some properties, members => propertyViolations properties members

def propertyViolations : List (String × Schema) → List (String × Json) → List Violation
  | [], _ => []
  | (name, s) :: rest, members =>
    (match members.lookup name with
      | some v => (violations s v).map (·.under [name] ["properties", name])
      | none => []) ++ propertyViolations rest members

def extraViolations : Option Schema → Bool → List (String × Json) → List Violation
  | none, _, _ => []
  | some s, named, extras =>
    if s.isNever then closedViolations named extras
    else inEach (fun v => violations s v) "additionalProperties" extras

def itemViolations : Option Schema → List Json → List Violation
  | none, _ => []
  | some s, items => inEach (fun v => violations s v) "items" (byIndex items)

end

/-- All violations in the order of reports. -/
def report (s : Schema) (v : Json) : List Violation := (s.violations v).mergeSort Violation.le

@[coe]
def validator (s : Schema) : Validator := ⟨s.accepts, s.report⟩

instance : Coe Schema Validator := ⟨validator⟩

@[simp]
theorem accepts_validator (s : Schema) (v : Json) : (s : Validator).accepts v = s.accepts v := rfl

end Schema
end SceneRelay
