import SceneRelay.Json.Printer

/-! The probes over HTTP: whether the process is alive, and whether it is ready for messages. -/
namespace SceneRelay

/-- An answer; a body always comes with its type. -/
structure Response where
  status : Nat
  content : Option (String × String) := none
  deriving DecidableEq, Repr

namespace Response

def body (r : Response) : String := (r.content.map (·.2)).getD ""

def contentType? (r : Response) : Option String := r.content.map (·.1)

end Response

/-- What can be asked for. -/
inductive Probe where
  | liveness
  | readiness
  deriving DecidableEq, Repr

namespace Probe

def path : Probe → String
  | liveness => "healthz"
  | readiness => "readyz"

def all : List Probe := [liveness, readiness]

/-- The word for an outcome. -/
def word : Probe → Bool → String
  | liveness, true => "healthy"
  | liveness, false => "unhealthy"
  | readiness, true => "ready"
  | readiness, false => "notready"

/-- 200 for a good outcome, 503 for a bad one. -/
def response (p : Probe) (good : Bool) : Response where
  status := if good then 200 else 503
  content := some ("application/json", (Json.object [("status", .string (p.word good))]).toText)

/-- The path of a target: an address in front of it, a query and a fragment do not count. -/
def pathOf (target : List Char) : List Char :=
  let target := target.takeWhile fun c => c ≠ '?' ∧ c ≠ '#'
  if target.head? = some '/' then target
  else ((target.dropWhile (· ≠ ':')).drop 3).dropWhile (· ≠ '/')

/-- The probe that a target names; one slash may follow its path. -/
def ofTarget? (target : String) : Option Probe :=
  all.find? fun p =>
    let path := '/' :: p.path.toList
    let asked := pathOf target.toList
    asked = path || asked = path ++ ['/']

end Probe

namespace Response

def notFound : Response := ⟨404, none⟩

def wrongMethod : Response := ⟨405, some ("text/plain; charset=utf-8", "HTTP method not allowed")⟩

/-- The answer to a request, given the state of the process. -/
def toRequest (alive ready : Bool) (method target : String) : Response :=
  match Probe.ofTarget? target with
  | none => notFound
  | some p =>
    if method ≠ "GET" then wrongMethod
    else p.response (match p with
      | .liveness => alive
      | .readiness => ready)

end Response

namespace Probe

/-- An endpoint with a slash in front; none if it is empty. -/
def normalize? (endpoint : String) : Option String :=
  if endpoint = "" then none
  else if endpoint.toList.head? = some '/' then some endpoint
  else some ("/" ++ endpoint)

/-- The status that a port answers a path with, if it answers. -/
abbrev Answers := UInt16 → String → Option Nat

/-- The endpoint of a port answers with 200. -/
def succeeds (answers : Answers) (endpoint : String) (port : UInt16) : Bool :=
  match normalize? endpoint with
  | none => false
  | some path => port ≠ 0 && answers port path = some 200

/-- Nothing answers. -/
def noAnswer : Answers := fun _ _ => none

end Probe
end SceneRelay
