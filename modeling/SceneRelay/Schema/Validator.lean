import SceneRelay.Json.Pointer

/-! Validators: what compiled schemas do with documents, whatever keywords they have. -/
namespace SceneRelay

/-- One thing that is wrong with a document: where in the document it is, which place of the schema
says so, and what it is. -/
structure Schema.Violation where
  instancePath : Json.Pointer
  schemaPath : Json.Pointer
  message : String

namespace Schema.Violation

/-- The text after the last slash of the schema path. -/
def keyword (x : Violation) : String :=
  String.ofList (x.schemaPath.toChars.reverse.takeWhile (· ≠ '/')).reverse

/-- The line that reports a violation. -/
def text (x : Violation) : String :=
  s!"At '{x.instancePath.toText}': {x.message} " ++
    s!"(schema '{x.schemaPath.toText}', keyword {x.keyword})"

/-- The order of reports: by place in the document, place in the schema, message. -/
def le (x y : Violation) : Bool :=
  let a := x.instancePath.toText
  let b := y.instancePath.toText
  if a ≠ b then a < b
  else
    let a := x.schemaPath.toText
    let b := y.schemaPath.toText
    if a ≠ b then a < b else x.message ≤ y.message

end Schema.Violation

/-- A compiled schema as the rest of the program sees it: which documents it accepts, and what it
has against a document. -/
structure Validator where
  accepts : Json → Bool
  report : Json → List Schema.Violation

namespace Validator

/-- What is told of a document that has been checked. -/
def complaints (x : Validator) (document : Json) : List Schema.Violation :=
  if x.accepts document then [] else x.report document

end Validator
end SceneRelay
