import SceneRelay.Proofs.Link.Run

/-! What the record of a link says: its state, the requests that were made of a session, and how
many sessions and workers live. The ledger ties all of this to the link and is kept by every
event. -/
namespace SceneRelay

/-- A request that adds or removes a filter. -/
def Request.isFilterCall : Request → Bool
  | .subscribe _ | .unsubscribe _ => true
  | _ => false

namespace Action

/-- How an action changes the number of sessions that live. -/
def sessionsBy : Action → Int
  | opened _ => 1
  | closed => -1
  | _ => 0

/-- How an action changes the number of workers that live. -/
def workersBy : Action → Int
  | armed => 1
  | retired => -1
  | _ => 0

/-- Actions that no task goes by. -/
def isNote : Action → Bool
  | logged _ | called .. | backedOff .. => true
  | _ => false

end Action

namespace Record

/-- The state at the end of a record that begins in state `s`. -/
def stateFrom (s : ConnectionState) : List Action → ConnectionState
  | [] => s
  | .moved t :: tr => stateFrom t tr
  | _ :: tr => stateFrom s tr

/-- The state at the end of a record that begins with a new link. -/
def state (tr : List Action) : ConnectionState := stateFrom .disconnected tr

/-- The requests made in a record, in order. -/
def requests (tr : List Action) : List Request :=
  tr.filterMap fun
    | .asked r _ => some r
    | _ => none

/-- The requests made since a session was last opened; `rs` were made before the record. -/
def latestFrom (rs : List Request) : List Action → List Request
  | [] => rs
  | .opened _ :: tr => latestFrom [] tr
  | .asked r _ :: tr => latestFrom (rs ++ [r]) tr
  | _ :: tr => latestFrom rs tr

def latest (tr : List Action) : List Request := latestFrom [] tr

/-- How many sessions live at the end of a record. -/
def sessions : List Action → Int
  | [] => 0
  | a :: tr => a.sessionsBy + sessions tr

/-- How many workers live at the end of a record. -/
def workers : List Action → Int
  | [] => 0
  | a :: tr => a.workersBy + workers tr

/-- Filters are asked for only while connected; the record begins in state `s`. -/
def AsksInOrder (s : ConnectionState) : List Action → Prop
  | [] => True
  | .moved t :: tr => AsksInOrder t tr
  | .asked r _ :: tr => (r.isFilterCall → s = .connected) ∧ AsksInOrder s tr
  | _ :: tr => AsksInOrder s tr

theorem stateFrom_append (s : ConnectionState) (tr new : List Action) :
    stateFrom s (tr ++ new) = stateFrom (stateFrom s tr) new := by
  induction tr generalizing s with
  | nil => rfl
  | cons a tr ih => cases a <;> simp [stateFrom, ih]

theorem latestFrom_append (rs : List Request) (tr new : List Action) :
    latestFrom rs (tr ++ new) = latestFrom (latestFrom rs tr) new := by
  induction tr generalizing rs with
  | nil => rfl
  | cons a tr ih => cases a <;> simp [latestFrom, ih]

theorem asksInOrder_append (s : ConnectionState) (tr new : List Action) :
    AsksInOrder s (tr ++ new) ↔ AsksInOrder s tr ∧ AsksInOrder (stateFrom s tr) new := by
  induction tr generalizing s with
  | nil => simp [AsksInOrder, stateFrom]
  | cons a tr ih => cases a <;> simp [AsksInOrder, stateFrom, ih, and_assoc]

@[simp] theorem state_append (tr new : List Action) :
    state (tr ++ new) = stateFrom (state tr) new := stateFrom_append _ tr new

@[simp] theorem latest_append (tr new : List Action) :
    latest (tr ++ new) = latestFrom (latest tr) new := latestFrom_append _ tr new

@[simp] theorem requests_append (tr new : List Action) :
    requests (tr ++ new) = requests tr ++ requests new := List.filterMap_append

@[simp] theorem sessions_nil : sessions [] = 0 := rfl

@[simp] theorem workers_nil : workers [] = 0 := rfl

@[simp] theorem sessions_cons (a : Action) (tr : List Action) :
    sessions (a :: tr) = a.sessionsBy + sessions tr := rfl

@[simp] theorem workers_cons (a : Action) (tr : List Action) :
    workers (a :: tr) = a.workersBy + workers tr := rfl

@[simp] theorem sessions_append (tr new : List Action) :
    sessions (tr ++ new) = sessions tr + sessions new := by
  induction tr with
  | nil => simp
  | cons a tr ih =>
    rw [List.cons_append, sessions_cons, sessions_cons, ih]
    omega

@[simp] theorem workers_append (tr new : List Action) :
    workers (tr ++ new) = workers tr + workers new := by
  induction tr with
  | nil => simp
  | cons a tr ih =>
    rw [List.cons_append, workers_cons, workers_cons, ih]
    omega

/-- The state in which a filter was asked for can be read off the record before. -/
theorem AsksInOrder.connected {tr : List Action} (h : AsksInOrder .disconnected tr)
    {before later : List Action} {r : Request} {granted : Bool}
    (hs : tr = before ++ .asked r granted :: later) (hr : r.isFilterCall) :
    state before = .connected := by
  subst hs
  exact ((asksInOrder_append _ _ _).mp h).2.1 hr

end Record
end SceneRelay
