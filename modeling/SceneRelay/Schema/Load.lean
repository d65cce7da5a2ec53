import SceneRelay.Files
import SceneRelay.Json.Parser
import SceneRelay.Schema.Document
import SceneRelay.Schema.Violation

/-! Validators from files. What makes a validator of a document is left open; `Schema.compile?` does
for the keywords that schemas have here. -/
namespace SceneRelay

/-- What kept a file from being a schema. -/
inductive Schema.LoadError where
  | unreadable
  | malformed
  | invalid
  deriving DecidableEq, Repr

/-- The validator in a file of UTF-8 text. -/
def Validator.load (compile? : Json → Option Validator) (files : Files) (path : String) :
    Except Schema.LoadError Validator :=
  match files path with
  | .error _ => .error .unreadable
  | .ok bytes =>
    match String.fromUTF8? bytes with
    | none => .error .unreadable
    | some text =>
      match Json.parse? text with
      | none => .error .malformed
      | some document => (compile? document).elim (.error .invalid) .ok

namespace Schema

/-- The validator of a document. It stands for documents of the known drafts whose keywords are those
that `keywords?` reads, with one schema for all items; of any other keyword it takes no notice. -/
def compile? (document : Json) : Option Validator := (ofJson? document).map validator

def load (files : Files) (path : String) : Except LoadError Validator :=
  Validator.load compile? files path

end Schema
end SceneRelay
