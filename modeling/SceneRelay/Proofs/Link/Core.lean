import SceneRelay.Proofs.Link.Run

/-! The part of a link that its tasks go by. Requests, messages and notes leave it as it is. -/
namespace SceneRelay.Link

/-- A link without the contents of its client, its record and most of its counters. -/
def core (l : Link) : Link :=
  { l with
    client := l.client.map fun _ => {}
    stats := { connectionAttempts := l.stats.connectionAttempts }
    trace := [] }

variable (l : Link)

@[simp] theorem core_act (a : Action) : (l.act a).core = l.core := rfl

@[simp] theorem core_log (level : LogLevel) (message : String) (fields : List (String × LogValue)) :
    (l.log level message fields).core = l.core := rfl

@[simp] theorem core_countSent : l.countSent.core = l.core := rfl

@[simp] theorem core_countDropped : l.countDropped.core = l.core := rfl

@[simp] theorem core_countReceived : l.countReceived.core = l.core := rfl

@[simp] theorem core_countSuccess : l.countSuccess.core = l.core := rfl

@[simp] theorem core_flush : l.flush.core = l.core := by
  simp only [core, flush, Option.map_map, Function.comp_def]

@[simp] theorem core_setAnswers (takes : Nat → Nat → Request → Bool) :
    (l.setAnswers takes).core = l.core := by
  simp only [core, setAnswers, Option.map_map, Function.comp_def]

@[simp] theorem core_ask (r : Request) : (l.ask r).1.core = l.core := by
  unfold ask
  split
  · rfl
  · rename_i heq
    simp only [core, act, heq, Option.map_some]

@[simp] theorem core_askFilter (r : Request) (filter granted refused : String) :
    (l.askFilter r filter granted refused).core = l.core := by
  have ha := core_ask l r
  unfold askFilter
  split
  · rfl
  · split <;> rename_i heq <;> rw [heq] at ha <;> exact ha

@[simp] theorem core_subscribe (filter : String) :
    (l.subscribe filter).core = { l.core with filters := (l.filters.insert filter).1 } :=
  core_askFilter (l.addFilter filter) _ _ _ _

@[simp] theorem core_unsubscribe (filter : String) :
    (l.unsubscribe filter).core =
      { l.core with
        filters := (l.filters.erase filter).1
        subscribed := l.subscribed && !(l.filters.erase filter).1.isEmpty } :=
  core_askFilter (l.removeFilter filter) _ _ _ _

@[simp] theorem core_publish (p : Publication) : (l.publish p).core = l.core := by
  have ha := core_ask l (.publish p)
  unfold publish
  split
  · rfl
  · split <;> rename_i heq <;> rw [heq] at ha <;> exact ha

@[simp] theorem core_publishAll (ps : List Publication) : (l.publishAll ps).core = l.core := by
  induction ps generalizing l with
  | nil => rfl
  | cons p ps ih => exact (ih (l.publish p)).trans (core_publish l p)

@[simp] theorem core_dispatch (topic : String) (payload : ByteArray) :
    (l.dispatch topic payload).core = l.core := by
  unfold dispatch
  split
  · rfl
  · unfold react
    dsimp only
    split <;> simp

@[simp] theorem core_resubscribe (filter : String) : (l.resubscribe filter).core = l.core := by
  have ha := core_ask l (.subscribe filter)
  unfold resubscribe
  split <;> rename_i heq <;> rw [heq] at ha <;> exact ha

@[simp] theorem core_resubscribeAll : l.resubscribeAll.core = l.core := by
  unfold resubscribeAll
  generalize l.filters.topics = topics
  induction topics generalizing l with
  | nil => rfl
  | cons t topics ih => exact (ih (l.resubscribe t)).trans (core_resubscribe l t)

@[simp] theorem core_warnOfRefusals (packetId : Nat) (codes : List Nat) :
    (l.warnOfRefusals packetId codes).core = l.core := by
  unfold warnOfRefusals
  split <;> rfl

/-- The answer to a subscription only tells whether a filter was granted. -/
theorem core_subscribed (packetId : Nat) (codes : List Nat) :
    (l.handleRoute (.subscribed packetId codes)).1.core =
      { l.core with subscribed := SubAck.anyGranted codes } := by
  have hw := core_warnOfRefusals l packetId codes
  exact congrArg (setSubscribed (SubAck.anyGranted codes)) hw

/-- Beyond the change of state, the broker's answer only leads to requests. -/
theorem core_acknowledge : l.acknowledge.core = (l.transition .acknowledged).core := by
  unfold acknowledge
  dsimp only
  split
  · simp
  · rfl

theorem exists_endSession_eq : ∃ trace, l.endSession = { l with session := none, trace } := by
  unfold endSession
  split
  · exact ⟨_, rfl⟩
  · rename_i hs
    have hn : l.session = none := by simpa using hs
    exact ⟨l.trace, by rw [← hn]⟩

theorem exists_reconnectIfLost_eq : ∃ worker reconnecting trace,
    l.reconnectIfLost = { l with worker, reconnecting, trace } := by
  unfold reconnectIfLost scheduleReconnect
  split
  · split
    · exact ⟨_, _, _, rfl⟩
    · exact ⟨_, _, _, rfl⟩
  · exact ⟨_, _, _, rfl⟩

end SceneRelay.Link
