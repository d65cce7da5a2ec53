import SceneRelay.Health

/-! The server of the probes: it can be started and stopped any number of times. -/
namespace SceneRelay

/-- `listeners` says of every listener ever started, in order, whether it was told to end; `current`
is the one that is told to end next, and `task` the one whose end is waited for after that. -/
structure HealthServer where
  alive : Bool := false
  listeners : List Bool := []
  current : Option Nat := none
  task : Option Nat := none
  deriving DecidableEq, Repr

namespace HealthServer

/-- Tells the current listener to end. -/
def dismiss (s : HealthServer) : HealthServer :=
  match s.current with
  | none => s
  | some i => { s with listeners := s.listeners.set i true, current := none }

/-- Starts a listener in place of the current one; nothing happens if its port cannot be had. -/
def start (bound : Bool) (s : HealthServer) : HealthServer :=
  if bound then
    let s := s.dismiss
    let new := some s.listeners.length
    { alive := true, listeners := s.listeners ++ [false], current := new, task := new }
  else s

/-- The listener whose end is waited for by a stop; none if there is none to tell. -/
def awaited (s : HealthServer) : Option Nat := s.current.bind fun _ => s.task

/-- Tells the current listener to end and waits until it has. -/
def stop (s : HealthServer) : HealthServer :=
  let task := if s.awaited.isSome then none else s.task
  { s.dismiss with alive := false, task }

def setAlive (alive : Bool) (s : HealthServer) : HealthServer := { s with alive }

end HealthServer
end SceneRelay
