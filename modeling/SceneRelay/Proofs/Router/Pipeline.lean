import SceneRelay.MemoryLink
import SceneRelay.Proofs.Router.Gates
import SceneRelay.Relay

/-! What a router does with any number of messages: it publishes the scene of each accepted message,
in order, and counts every message once, among the published or the rejected. -/
namespace SceneRelay

/-- A message that is answered: its topic is that of a camera, and its payload is the text of an
object that the validator accepts and that has the three fields, `timestamp` being the given one. -/
structure Accepted (camera : Option Validator) (topic : String) (payload : ByteArray)
    (timestamp : String) : Prop where
  topic : ∃ name, name ≠ "" ∧ topic = Topic.cameraRoot ++ name
  document : ∃ members, Json.ofBytes? payload = some (.object members) ∧
    (∀ s ∈ camera, s.accepts (.object members)) ∧
    (∃ id, members.lookup "id" = some (.string id)) ∧
    members.lookup "timestamp" = some (.string timestamp) ∧
    ∃ objects, members.lookup "objects" = some (.object objects)

/-- The times of the accepted ones among some messages, in order. -/
inductive Answered (camera : Option Validator) : List (String × ByteArray) → List String → Prop
  | nil : Answered camera [] []
  | accepted {topic payload timestamp messages times}
      (h : Accepted camera topic payload timestamp) (rest : Answered camera messages times) :
      Answered camera ((topic, payload) :: messages) (timestamp :: times)
  | rejected {topic payload messages times}
      (h : ∀ timestamp, ¬Accepted camera topic payload timestamp)
      (rest : Answered camera messages times) :
      Answered camera ((topic, payload) :: messages) times

theorem Answered.length_le {camera : Option Validator} {messages : List (String × ByteArray)}
    {times : List String} (h : Answered camera messages times) :
    times.length ≤ messages.length := by
  induction h with
  | nil => exact Nat.le_refl 0
  | accepted _ _ ih => exact Nat.succ_le_succ ih
  | rejected _ _ ih => exact Nat.le_succ_of_le ih

section
variable {camera : Option Validator} {topic timestamp : String} {payload : ByteArray}

/-- The accepted messages are those that get past all gates. -/
theorem accepted_iff : Accepted camera topic payload timestamp ↔
    (∀ g ∈ Gate.all, g.Admits camera topic payload) ∧ Validators.Carries payload timestamp := by
  simp only [Gate.all, CameraField.all, List.map_cons, List.map_nil, List.forall_mem_cons]
  constructor
  · rintro ⟨htopic, members, hd, haccepts, ⟨id, hid⟩, htime, ⟨objects, hobjects⟩⟩
    refine ⟨⟨htopic, ⟨_, hd⟩, (Gate.admits_schema_iff hd).mpr haccepts, ?_, ?_, ?_, by simp⟩,
      members, hd, htime⟩
    · exact (Gate.admits_field_iff hd).mpr ⟨_, hid, id, rfl⟩
    · exact (Gate.admits_field_iff hd).mpr ⟨_, htime, timestamp, rfl⟩
    · exact (Gate.admits_field_iff hd).mpr ⟨_, hobjects, objects, rfl⟩
  · rintro ⟨⟨htopic, -, hschema, hid, -, hobjects, -⟩, members, hd, htime⟩
    obtain ⟨_, hid, id, rfl⟩ := (Gate.admits_field_iff hd).mp hid
    obtain ⟨_, hobjects, objects, rfl⟩ := (Gate.admits_field_iff hd).mp hobjects
    exact ⟨htopic, members, hd, (Gate.admits_schema_iff hd).mp hschema, ⟨id, hid⟩, htime, objects,
      hobjects⟩

/-- An accepted message is answered by the scene of its time, and no other message is. -/
theorem judge_eq_ok_iff_accepted {v : Validators} {s : Scene} :
    v.judge topic payload = .ok s ↔
      ∃ timestamp, Accepted v.camera topic payload timestamp ∧ s = .synthetic timestamp := by
  simp only [Validators.judge_eq_ok_iff, accepted_iff]
  constructor
  · rintro ⟨hall, t, ht, hs⟩
    exact ⟨t, ⟨hall, ht⟩, hs⟩
  · rintro ⟨t, ⟨hall, ht⟩, hs⟩
    exact ⟨hall, t, ht, hs⟩

end

/-- The update that answers an accepted message. -/
def update (timestamp : String) : Publication := (Scene.synthetic timestamp).publication

namespace Relay
variable {σ : Type} [Messaging σ]

/-- Publishes the updates of some times, one after the other. -/
def publishAll (times : List String) (link : σ) : σ :=
  times.foldl (fun l t => Messaging.publish (update t) l) link

variable {v : Validators} {topic timestamp : String} {payload : ByteArray} {link : σ}
  {c : Counters} {running : Bool} {listener : Option Listener}

end Relay

/-- What is reported as the reason against a message is why it is not answered. -/
theorem Validators.review_rejection_eq_some_iff {v : Validators} {topic : String}
    {payload : ByteArray} {r : Rejection} :
    (v.review topic payload).rejection = some r ↔ v.judge topic payload = .error r := by
  unfold review
  split <;> rename_i hj <;> simp [hj]

namespace Relay

end Relay
end SceneRelay
