import Mathlib.Data.List.Flatten
import Mathlib.Logic.Function.Basic
import SceneRelay.Proofs.Router.Pipeline

/-! Validation only takes messages away, and each direction for itself. The validator for output
decides nothing but what is reported; the validator for input decides which messages the rest of the
router gets to see. -/
namespace SceneRelay

/-- A payload is the text of a document that the validator accepts. -/
def Validator.admits (s : Validator) (payload : ByteArray) : Bool :=
  (Json.ofBytes? payload).any fun document => s.accepts document

namespace Validators
variable {camera scene scene' : Option Validator} {s : Validator} {topic : String}
  {payload : ByteArray}

/-! ### The validator for output -/

/-- What a router publishes for some messages, in order. -/
def published (v : Validators) (messages : List (String × ByteArray)) : List Publication :=
  messages.flatMap fun m => ((Listener.router v).callback m.1 m.2).publications

section
variable {compile? : Json → Option Validator} {files : Files} {directory : String}

end

end Validators

namespace Relay
variable {σ : Type} [Messaging σ]

end Relay

end SceneRelay
