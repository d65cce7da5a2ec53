import Mathlib.Tactic.Common
import SceneRelay.Router

/-! The gates between a camera message and the scene update that answers it. A message is answered if
and only if all of them let it through, and the first one that does not names the reason. -/
namespace SceneRelay

namespace Topic

theorem after?_eq_some_iff {root cs rest : List Char} :
    after? root cs = some rest ↔ cs = root ++ rest := by
  induction root generalizing cs with
  | nil => simp [after?]
  | cons r root ih =>
    cases cs with
    | nil => simp [after?]
    | cons c cs =>
      by_cases h : r = c
      · simp [after?, h, ih]
      · simp [after?, h, Ne.symm h]

/-- The topic of a camera is the root with a name after it. -/
theorem camera?_eq_some_iff {topic name : String} :
    camera? topic = some name ↔ name ≠ "" ∧ topic = cameraRoot ++ name := by
  have hroot (cs : List Char) :
      topic.toList = cameraRoot.toList ++ cs ↔ topic = cameraRoot ++ String.ofList cs := by
    rw [← String.toList_inj, String.toList_append, String.toList_ofList]
  unfold camera?
  split
  · rename_i c cs h
    rw [after?_eq_some_iff, hroot] at h
    constructor
    · rintro ⟨⟩
      exact ⟨by simp, h⟩
    · rintro ⟨-, rfl⟩
      exact congrArg some ((String.append_right_inj _).mp h).symm
  · rename_i hno
    constructor
    · nofun
    · rintro ⟨hne, rfl⟩
      obtain ⟨cs, rfl⟩ : ∃ cs, name = String.ofList cs := ⟨name.toList, String.ofList_toList.symm⟩
      cases cs with
      | nil => exact absurd rfl hne
      | cons c cs => exact absurd (after?_eq_some_iff.mpr (by simp)) (hno c cs)

end Topic

namespace Json
variable {v : Json} {name : String}

theorem isSome_asString? : v.asString?.isSome ↔ ∃ s, v = .string s := by
  cases v <;> simp [asString?]

theorem isSome_asObject? : v.asObject?.isSome ↔ ∃ members, v = .object members := by
  cases v <;> simp [asObject?]

theorem asString?_eq_some_iff {s : String} : v.asString? = some s ↔ v = .string s := by
  cases v <;> simp [asString?]

theorem member?_eq_some_iff {w : Json} :
    v.member? name = some w ↔ ∃ members, v = .object members ∧ members.lookup name = some w := by
  cases v <;> simp [member?]

end Json

namespace CameraField

/-- The fields in the order in which they are looked for. -/
def all : List CameraField := [id, timestamp, objects]

/-- The kind of value that a field of a camera message has. -/
def Fits : CameraField → Json → Prop
  | id, v => ∃ s, v = .string s
  | timestamp, v => ∃ s, v = .string s
  | objects, v => ∃ members, v = .object members

/-- A document is an object with the field, and its value there is of the right kind. -/
def Present (f : CameraField) (v : Json) : Prop :=
  ∃ members value, v = .object members ∧ members.lookup f.name = some value ∧ f.Fits value

theorem present_iff {f : CameraField} {α : Type} {read : Json → Option α}
    (fits : ∀ w, (read w).isSome ↔ f.Fits w) (v : Json) :
    f.Present v ↔ ((v.member? f.name).bind read).isSome := by
  rw [Option.isSome_bind, Option.any_eq_true]
  simp only [Json.member?_eq_some_iff, fits, Present]
  constructor
  · rintro ⟨members, value, hv, hvalue, hfits⟩
    exact ⟨value, ⟨members, hv, hvalue⟩, hfits⟩
  · rintro ⟨value, ⟨members, hv, hvalue⟩, hfits⟩
    exact ⟨members, value, hv, hvalue, hfits⟩

end CameraField

namespace CameraMessage
variable {v : Json} {f : CameraField} {m : CameraMessage}

/-- A camera message is read from a document with all its fields. -/
theorem of_ofJson_eq_ok (h : ofJson v = .ok m) :
    (∀ f : CameraField, f.Present v) ∧
      (v.member? "timestamp").bind Json.asString? = some m.timestamp := by
  have hid := CameraField.present_iff (f := .id) (fun _ => Json.isSome_asString?) v
  have htime := CameraField.present_iff (f := .timestamp) (fun _ => Json.isSome_asString?) v
  have hobjects := CameraField.present_iff (f := .objects) (fun _ => Json.isSome_asObject?) v
  simp only [CameraField.name] at hid htime hobjects
  unfold ofJson at h
  split at h
  · nomatch h
  · split at h
    · nomatch h
    · split at h
      · nomatch h
      · rename_i hi _ _ ht _ _ ho
        cases h
        refine ⟨fun f => ?_, ht⟩
        cases f with
        | id => simp [hid, hi]
        | timestamp => simp [htime, ht]
        | objects => simp [hobjects, ho]

/-- The field that is reported is the first one that is not there. -/
theorem of_ofJson_eq_error (h : ofJson v = .error f) :
    ∃ before after, CameraField.all = before ++ f :: after ∧ (∀ g ∈ before, g.Present v) ∧
      ¬f.Present v := by
  have hid := CameraField.present_iff (f := .id) (fun _ => Json.isSome_asString?) v
  have htime := CameraField.present_iff (f := .timestamp) (fun _ => Json.isSome_asString?) v
  have hobjects := CameraField.present_iff (f := .objects) (fun _ => Json.isSome_asObject?) v
  simp only [CameraField.name] at hid htime hobjects
  unfold ofJson at h
  split at h
  · rename_i hi
    cases h
    exact ⟨[], _, rfl, by simp, by simp [hid, hi]⟩
  · rename_i hi
    split at h
    · rename_i ht
      cases h
      exact ⟨[.id], _, rfl, by simp [hid, hi], by simp [htime, ht]⟩
    · rename_i ht
      split at h
      · rename_i ho
        cases h
        exact ⟨[.id, .timestamp], _, rfl, by simp [hid, hi, htime, ht], by simp [hobjects, ho]⟩
      · nomatch h

end CameraMessage

/-- What a message has to get past. -/
inductive Gate where
  | topic
  | text
  | schema
  | field (f : CameraField)

namespace Gate

/-- The gates in the order in which a message meets them. -/
def all : List Gate := topic :: text :: schema :: CameraField.all.map field

/-- The gate lets a message through. Without a schema the third gate asks for nothing but a
document. -/
def Admits (camera : Option Validator) (t : String) (payload : ByteArray) : Gate → Prop
  | topic => ∃ name, name ≠ "" ∧ t = Topic.cameraRoot ++ name
  | text => ∃ v, Json.ofBytes? payload = some v
  | schema => ∃ v, Json.ofBytes? payload = some v ∧ ∀ s ∈ camera, s.accepts v
  | field f => ∃ v, Json.ofBytes? payload = some v ∧ f.Present v

/-- The gate is the first that does not let a message through. -/
def Stops (camera : Option Validator) (t : String) (payload : ByteArray) (g : Gate) : Prop :=
  ∃ before after, all = before ++ g :: after ∧ (∀ h ∈ before, h.Admits camera t payload) ∧
    ¬g.Admits camera t payload

/-- The reason that a gate gives. -/
def refusal (camera : Option Validator) (t : String) (payload : ByteArray) : Gate → Rejection
  | topic => .foreignTopic t
  | text => .malformed
  | schema => .refused ((camera.bind fun s => (Json.ofBytes? payload).map s.report).getD [])
  | field f => .missingField f

variable {camera : Option Validator} {t : String} {payload : ByteArray} {g h : Gate}

theorem admits_schema_iff {v : Json} (hd : Json.ofBytes? payload = some v) :
    schema.Admits camera t payload ↔ ∀ s ∈ camera, s.accepts v := by
  simp [Admits, hd]

theorem admits_field_iff {members : List (String × Json)} {f : CameraField}
    (hd : Json.ofBytes? payload = some (.object members)) :
    (field f).Admits camera t payload ↔ ∃ w, members.lookup f.name = some w ∧ f.Fits w := by
  simp [Admits, hd, CameraField.Present]

theorem Stops.unique (hg : g.Stops camera t payload) (hh : h.Stops camera t payload) : g = h := by
  classical
  have hfind {g : Gate} (hg : g.Stops camera t payload) :
      all.find? (fun g => ¬g.Admits camera t payload) = some g := by
    obtain ⟨before, after, hall, hbefore, hg⟩ := hg
    refine List.find?_eq_some_iff_append.mpr ⟨by simpa using hg, before, after, hall, ?_⟩
    simpa using hbefore
  exact Option.some_inj.mp ((hfind hg).symm.trans (hfind hh))

theorem Stops.not_admits (hg : g.Stops camera t payload) : ¬g.Admits camera t payload := by
  obtain ⟨-, -, -, -, hg⟩ := hg
  exact hg

theorem Stops.mem_all (hg : g.Stops camera t payload) : g ∈ all := by
  obtain ⟨before, after, hall, -, -⟩ := hg
  simp [hall]

/-- A message that reaches the fields got past the validator. -/
theorem Stops.schema_of_field {f : CameraField} (hg : (field f).Stops camera t payload) :
    schema.Admits camera t payload := by
  obtain ⟨before, after, hall, hbefore, -⟩ := hg
  obtain _ | ⟨a, _ | ⟨b, _ | ⟨c, rest⟩⟩⟩ := before <;> simp [all] at hall
  exact hbefore schema (by simp [hall])

end Gate

namespace Validators
variable {v : Validators} {topic : String} {payload : ByteArray}

/-- The time that the payload of a message carries. -/
def Carries (payload : ByteArray) (timestamp : String) : Prop :=
  ∃ members, Json.ofBytes? payload = some (.object members) ∧
    members.lookup "timestamp" = some (.string timestamp)

theorem Carries.unique {t u : String} (ht : Carries payload t) (hu : Carries payload u) : t = u := by
  obtain ⟨members, hm, ht⟩ := ht
  obtain ⟨members', hm', hu⟩ := hu
  simp_all

/-- A document gets past the validator, or is refused with what it has against it. -/
theorem checkInput_cases (v : Validators) (document : Json) :
    (v.checkInput document = .ok () ∧ ∀ s ∈ v.camera, s.accepts document) ∨
      ∃ s, v.camera = some s ∧ ¬s.accepts document ∧
        v.checkInput document = .error (.refused (s.report document)) := by
  unfold checkInput
  cases hc : v.camera with
  | none => exact .inl ⟨rfl, by simp⟩
  | some s =>
    by_cases ha : s.accepts document
    · exact .inl ⟨if_pos ha, by simp [ha]⟩
    · exact .inr ⟨s, rfl, ha, if_neg ha⟩

/-- A message is answered only if it gets past all gates, by the scene of its time. -/
theorem of_judge_eq_ok {s : Scene} (h : v.judge topic payload = .ok s) :
    (∀ g ∈ Gate.all, g.Admits v.camera topic payload) ∧
      ∃ timestamp, Carries payload timestamp ∧ s = .synthetic timestamp := by
  unfold judge at h
  split at h
  · nomatch h
  · rename_i name hname
    split at h
    · nomatch h
    · rename_i document hd
      obtain ⟨hcheck, haccepts⟩ | ⟨_, -, -, hcheck⟩ := v.checkInput_cases document
      · rw [hcheck] at h
        cases hm : CameraMessage.ofJson document with
        | error f =>
          rw [hm] at h
          nomatch h
        | ok m =>
          rw [hm] at h
          cases h
          obtain ⟨hpresent, htime⟩ := CameraMessage.of_ofJson_eq_ok hm
          obtain ⟨w, hw, hs⟩ := Option.bind_eq_some_iff.mp htime
          obtain ⟨members, rfl, hlookup⟩ := Json.member?_eq_some_iff.mp hw
          rw [Json.asString?_eq_some_iff.mp hs] at hlookup
          refine ⟨?_, m.timestamp, ⟨members, hd, hlookup⟩, rfl⟩
          simp only [Gate.all, CameraField.all, List.map_cons, List.map_nil, List.forall_mem_cons]
          exact ⟨⟨name, Topic.camera?_eq_some_iff.mp hname⟩, ⟨_, hd⟩, ⟨_, hd, haccepts⟩,
            ⟨_, hd, hpresent .id⟩, ⟨_, hd, hpresent .timestamp⟩, ⟨_, hd, hpresent .objects⟩, by simp⟩
      · rw [hcheck] at h
        nomatch h

/-- A message that is not answered was stopped at a gate, for the reason that this gate gives. -/
theorem of_judge_eq_error {r : Rejection} (h : v.judge topic payload = .error r) :
    ∃ g : Gate, g.Stops v.camera topic payload ∧ r = g.refusal v.camera topic payload := by
  unfold judge at h
  split at h
  · rename_i hname
    cases h
    refine ⟨.topic, ⟨[], _, rfl, by simp, ?_⟩, rfl⟩
    rintro ⟨name, hn⟩
    simp [Topic.camera?_eq_some_iff.mpr hn] at hname
  · rename_i name hname
    have htopic : Gate.Admits v.camera topic payload .topic :=
      ⟨name, Topic.camera?_eq_some_iff.mp hname⟩
    split at h
    · rename_i hd
      cases h
      exact ⟨.text, ⟨[.topic], _, rfl, by simpa using htopic, by simp [Gate.Admits, hd]⟩, rfl⟩
    · rename_i document hd
      have htext : Gate.Admits v.camera topic payload .text := ⟨document, hd⟩
      obtain ⟨hcheck, haccepts⟩ | ⟨s, hs, hrefuses, hcheck⟩ := v.checkInput_cases document
      · have hschema : Gate.Admits v.camera topic payload .schema := ⟨document, hd, haccepts⟩
        rw [hcheck] at h
        cases hm : CameraMessage.ofJson document with
        | ok m =>
          rw [hm] at h
          nomatch h
        | error f =>
          rw [hm] at h
          cases h
          obtain ⟨before, after, hall, hbefore, hf⟩ := CameraMessage.of_ofJson_eq_error hm
          refine ⟨.field f, ⟨.topic :: .text :: .schema :: before.map .field, after.map .field,
            by simp [Gate.all, hall], ?_, ?_⟩, rfl⟩
          · simp only [List.forall_mem_cons, List.forall_mem_map]
            exact ⟨htopic, htext, hschema, fun g hg => ⟨document, hd, hbefore g hg⟩⟩
          · simpa [Gate.Admits, hd] using hf
      · rw [hcheck] at h
        cases h
        refine ⟨.schema, ⟨[.topic, .text], _, rfl, by simp [htopic, htext], ?_⟩, ?_⟩
        · simpa [Gate.Admits, hd, hs] using hrefuses
        · simp [Gate.refusal, hs, hd]

/-- Exactly the messages that get past all gates are answered. -/
theorem judge_eq_ok_iff {s : Scene} : v.judge topic payload = .ok s ↔
    (∀ g ∈ Gate.all, g.Admits v.camera topic payload) ∧
      ∃ timestamp, Carries payload timestamp ∧ s = .synthetic timestamp := by
  refine ⟨of_judge_eq_ok, fun ⟨hall, t, ht, hs⟩ => ?_⟩
  cases hj : v.judge topic payload with
  | error r =>
    obtain ⟨g, hg, -⟩ := of_judge_eq_error hj
    exact absurd (hall g hg.mem_all) hg.not_admits
  | ok s' =>
    obtain ⟨-, t', ht', rfl⟩ := of_judge_eq_ok hj
    rw [hs, ht.unique ht']

/-- The reason given is that of the first gate that a message does not get past. -/
theorem judge_eq_error_iff {r : Rejection} : v.judge topic payload = .error r ↔
    ∃ g : Gate, g.Stops v.camera topic payload ∧ r = g.refusal v.camera topic payload := by
  refine ⟨of_judge_eq_error, fun ⟨g, hg, hr⟩ => ?_⟩
  cases hj : v.judge topic payload with
  | error r' =>
    obtain ⟨g', hg', rfl⟩ := of_judge_eq_error hj
    rw [hr, hg.unique hg']
  | ok s =>
    exact absurd ((of_judge_eq_ok hj).1 g hg.mem_all) hg.not_admits

end Validators
end SceneRelay
