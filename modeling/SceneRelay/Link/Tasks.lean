import SceneRelay.Link.Polling

/-! The tasks of a link step by step, and how it comes to rest. -/
namespace SceneRelay.Link

def setWorker (attempts : UInt32) (phase : WorkerPhase) (l : Link) : Link :=
  { l with worker := some ⟨attempts, phase⟩ }

/-- The worker ends; if the connection is gone again by now, another one takes its place. -/
def endWorker (l : Link) : Link :=
  ({ l with worker := none, reconnecting := false }.act .retired).reconnectIfLost

/-- Begins to wait before the next attempt. The number in the log line wraps around. -/
def backOff (attempts : UInt32) (l : Link) : Link :=
  let delay := l.backoff.delay attempts.toNat
  let number := (attempts + 1).toNat
  ((l.act (.backedOff number delay)).log .info "Reconnecting to MQTT broker after delay"
    [("attempt", .number number), ("delay_ms", .number (delay / millisecond))]).setWorker
      attempts (.waiting (l.now + delay))

/-- The worker looks at the state of the link and decides what to wait for. -/
def decide (attempts : UInt32) (l : Link) : Link :=
  if l.stopping then l.endWorker
  else if l.state = .connected ∨ l.state = .shuttingDown then l.endWorker
  else if l.state.isAttempting then l.setWorker attempts .resolving
  else l.backOff attempts

/-- One attempt more; at the largest word the count stays as it is. -/
def nextAttempt (attempts : UInt32) : UInt32 := .ofNatClamp (attempts.toNat + 1)

/-- Makes the attempt that the worker has waited for. -/
def retry (attempts : UInt32) (l : Link) : Link :=
  match l.startSession? (.retryStarted (nextAttempt attempts)) with
  | some l => l.setWorker (nextAttempt attempts) .resolving
  | none => l.setWorker (nextAttempt attempts) .deciding

/-- The next step of the worker; none while it waits. -/
def stepWorker? (w : Worker) (l : Link) : Option Link :=
  match w.phase with
  | .deciding => some (l.decide w.attempts)
  | .waiting deadline =>
    if l.stopping then
      some (l.log .info "Shutdown signal received during reconnection delay, stopping" []).endWorker
    else if l.announced = .connected then some l.endWorker
    else if deadline ≤ l.now then some (l.retry w.attempts)
    else none
  | .resolving =>
    if l.stopping then some l.endWorker
    else if !l.announced.isAttempting then some (l.setWorker w.attempts .deciding)
    else none

/-- The closing call is done. -/
def finishClosing (l : Link) : Link :=
  ({ l with closing := none, subscribed := false }.transition .shutdownComplete).log .info
    "MQTT transport disconnected" []

/-- Cuts off the session at once. -/
def cutOff (l : Link) : Link := { l with client := none }.endSession.finishClosing

/-- Gives the session time to say goodbye. -/
def awaitSession (patience : Nanoseconds) (l : Link) : Link :=
  { l with client := none, closing := some (.draining patience (l.now + patience)) }

/-- Asks an open session to say goodbye and waits for it; any other is cut off. -/
def drain (wasOpen : Bool) (patience : Nanoseconds) (l : Link) : Link :=
  if wasOpen then
    match l.ask .disconnect with
    | (l, none) => l.cutOff
    | (l, some true) => l.awaitSession patience
    | (l, some false) =>
      (l.log .warn "Failed to enqueue MQTT DISCONNECT" [("error", requestError)]).awaitSession
        patience
  else l.cutOff

/-- The next step of the closing call; none while it waits. -/
def stepClosing? (c : Closing) (l : Link) : Option Link :=
  match c with
  | .joining wasOpen patience => if l.worker.isNone then some (l.drain wasOpen patience) else none
  | .draining patience deadline =>
    if l.session.isNone then some l.finishClosing
    else if deadline ≤ l.now then
      some (l.log .warn "MQTT session did not drain in time, aborting"
        [("timeout_ms", .number (patience / millisecond))]).endSession.finishClosing
    else none

def stepSession? (s : Session) (l : Link) : Option Link :=
  if s.deadline.any (· ≤ l.now) then some l.giveUpAttempt else none

/-- The next step of a task that is ready; none if all of them wait. -/
def step? (l : Link) : Option Link :=
  (l.session.bind fun s => l.stepSession? s).or
    ((l.worker.bind fun w => l.stepWorker? w).or (l.closing.bind fun c => l.stepClosing? c))

/-- What the library reports of its own accord. -/
abbrev Network := Link → Option Report

/-- A library that reports nothing by itself. -/
def silent : Network := fun _ => none

/-- A network in which every attempt fails at once. -/
def unreachable : Network := fun l =>
  if l.state.isAttempting ∧ l.session.isSome then
    some (.error "I/O: Network is unreachable (os error 101)")
  else none

/-- One step of the library or of a task. -/
def stepWith? (network : Network) (l : Link) : Option Link :=
  match network l with
  | some r => some (l.report r)
  | none => l.step?

/-- Lets all tasks run until each of them waits; none if that takes more than `fuel` steps. -/
def rest? (network : Network) : Nat → Link → Option Link
  | 0, l => if (l.stepWith? network).isNone then some l else none
  | fuel + 1, l =>
    match l.stepWith? network with
    | none => some l
    | some l => rest? network fuel l

/-- The clock moves on; what has become due is then ready. -/
def advance (time : Nanoseconds) (l : Link) : Link := { l with now := l.now + time }

end SceneRelay.Link
