import SceneRelay.Proofs.Config.Flags
import SceneRelay.Proofs.Config.Variables

/-! What reading the environment does. Its variables are put over the configuration one after the
other; the first malformed one ends this, and what was put before it stays. -/
namespace SceneRelay.Config

/-- How variables are read: all of them are put over the configuration, or a malformed one is
reported, with those before it put over the configuration and nothing else. -/
inductive Reads (env : Environment) (vs : List Variable) (c : Config) :
    Config × Option Error → Prop
  | all {d : Config} (overlaid : Overlaid (given env vs) c d) : Reads env vs c (d, none)
  | stopped {before after : List Variable} {v : Variable} {value reason : String} {d : Config}
      (order : vs = before ++ v :: after) (overlaid : Overlaid (given env before) c d)
      (set : env.get? v.name = some value) (malformed : ¬v.Admits value) :
    Reads env vs c (d, some (.badVariable v.name value reason))

variable {env : Environment} {vs ws : List Variable} {v : Variable} {c d : Config}
  {r : Config × Option Error}

/-- Variables are read after others that are well formed. -/
theorem Reads.append (h : Overlaid (given env vs) c d) (hr : Reads env ws d r) :
    Reads env (vs ++ ws) c r := by
  cases hr with
  | all overlaid => exact .all (h.append overlaid)
  | stopped order overlaid set malformed =>
    exact .stopped (by rw [order, List.append_assoc]) (h.append overlaid) set malformed

/-- If the first variable is malformed, nothing is put over the configuration. -/
theorem Reads.of_head {value : String} (set : env.get? v.name = some value)
    (malformed : ¬v.Admits value) (reason : String) (vs : List Variable) (c : Config) :
    Reads env (v :: vs) c (c, some (.badVariable v.name value reason)) :=
  .stopped (List.nil_append _).symm (.of_none (fun _ => rfl) c) set malformed

/-- A malformed variable keeps all later ones from being read. -/
theorem Reads.stop {e : Error} (h : Reads env vs c (d, some e)) (ws : List Variable) :
    Reads env (vs ++ ws) c (d, some e) := by
  cases h with
  | stopped order overlaid set malformed =>
    exact .stopped (by rw [order, List.append_assoc, List.cons_append]) overlaid set malformed

/-- An override is the one of a variable: what it puts is what the text stands for, and nothing else
changes; what it turns down is malformed. -/
structure Override.Of (o : Override) (v : Variable) : Prop where
  name : o.name = v.name
  overlaid : ∀ value c d, o.put value c = .ok d →
    Overlaid (fun w => if w = v then some value else none) c d
  malformed : ∀ value c reason, o.put value c = .error reason → ¬v.Admits value

/-- An override that reads its text and sets one setting, not for encryption, to what it read. -/
theorem Override.of_read {α : Type} (v : Variable) (read : String → Except String α)
    (set : α → Config → Config) (hv : v ∉ Variable.forTls)
    (holds : ∀ value a c, read value = .ok a → v.Holds value (set a c))
    (admits : ∀ value, v.Admits value → ∃ a, read value = .ok a)
    (keeps : ∀ a c w, w ≠ v → w.Keeps c (set a c))
    (others : ∀ a c, (set a c).tracker.schemaDir = c.tracker.schemaDir ∧
      (set a c).logging.format = c.logging.format ∧ (set a c).broker.tls = c.broker.tls) :
    Override.Of ⟨v.name, fun value c => do let a ← read value; return set a c⟩ v where
  name := rfl
  overlaid value c d h := by
    dsimp only at h
    cases hread : read value with
    | error reason => rw [hread] at h; nomatch h
    | ok a =>
      rw [hread] at h
      cases h
      obtain ⟨hdir, hformat, htls⟩ := others a c
      refine ⟨fun w text hw => ?_, fun w hw => ?_, hdir, hformat, ?_⟩
      · obtain ⟨rfl, rfl⟩ : w = v ∧ value = text := by simpa using hw
        exact holds value a c hread
      · exact keeps a c w (by simpa using hw)
      · rw [htls]
        refine (or_iff_left ?_).symm
        rintro ⟨w, hw, hsome⟩
        obtain rfl : w = v := by simpa using hsome
        exact hv hw
  malformed value c reason h hadmits := by
    obtain ⟨a, ha⟩ := admits value hadmits
    dsimp only at h
    rw [ha] at h
    nomatch h

theorem overrides_of : List.Forall₂ Override.Of overrides Variable.plain := by
  have hlevel := Override.of_read .level readLevel (fun l c => { c with logging.level := l })
    (by decide) (fun _ _ _ => readLevel_eq_ok_iff.mp)
    (fun _ ⟨l, h⟩ => ⟨l, readLevel_eq_ok_iff.mpr h⟩)
  have hhealth := Override.of_read .healthPort (readPort minHealthPort)
    (fun p c => { c with tracker.healthPort := p })
    (by decide) (fun _ _ _ => readPort_eq_ok_iff.mp)
    (fun _ ⟨p, h⟩ => ⟨p, readPort_eq_ok_iff.mpr h⟩)
  have hhost := Override.of_read .host .ok (fun h c => { c with broker.host := h })
    (by decide) (fun _ _ _ h => (Except.ok.inj h).symm) (fun value _ => ⟨value, rfl⟩)
  have hport := Override.of_read .port (readPort 1) (fun p c => { c with broker.port := p })
    (by decide) (fun _ _ _ => readPort_eq_ok_iff.mp)
    (fun _ ⟨p, h⟩ => ⟨p, readPort_eq_ok_iff.mpr h⟩)
  have hinsecure := Override.of_read .insecure readBool (fun b c => { c with broker.insecure := b })
    (by decide) (fun _ _ _ => readBool_eq_ok_iff.mp)
    (fun _ ⟨b, h⟩ => ⟨b, readBool_eq_ok_iff.mpr h⟩)
  have hschema := Override.of_read .schemaValidation readBool
    (fun b c => { c with tracker.schemaValidation := b })
    (by decide) (fun _ _ _ => readBool_eq_ok_iff.mp)
    (fun _ ⟨b, h⟩ => ⟨b, readBool_eq_ok_iff.mpr h⟩)
  refine .cons (hlevel ?_ ?_) (.cons (hhealth ?_ ?_) (.cons (hhost ?_ ?_) (.cons (hport ?_ ?_)
    (.cons (hinsecure ?_ ?_) (.cons (hschema ?_ ?_) .nil)))))
  -- What is left: each of them leaves the settings of all other variables alone.
  all_goals
    first
    | exact fun _ _ => ⟨rfl, rfl, rfl⟩
    | exact fun _ _ w hw => by cases w <;> first | rfl | exact absurd rfl hw

/-- One override after the other, up to the first that fails. -/
theorem applyOverrides_cons (env : Environment) (o : Override) (os : List Override) (c : Config) :
    applyOverrides env (o :: os) c =
      match o.apply env c with
      | .ok d => applyOverrides env os d
      | .error e => (c, some e) := by
  rw [applyOverrides, Override.apply]
  cases env.get? o.name <;> rfl

theorem Override.Of.reads {o : Override} (ho : o.Of v) (env : Environment) (c : Config) :
    match o.apply env c with
    | .ok d => Overlaid (given env [v]) c d
    | .error e => Reads env [v] c (c, some e) := by
  cases hset : env.get? o.name with
  | none =>
    rw [Override.apply_of_none hset]
    rw [ho.name] at hset
    exact .of_none (fun w => by by_cases hw : w = v <;> simp [given, hw, hset]) c
  | some value =>
    rw [Override.apply_of_some hset]
    rw [ho.name] at hset
    have hgiven : given env [v] = fun w => if w = v then some value else none := by
      funext w
      by_cases hw : w = v <;> simp [given, hw, hset]
    cases hput : o.put value c with
    | ok d => exact hgiven ▸ ho.overlaid value c d hput
    | error reason =>
      rw [ho.name]
      exact .of_head hset (ho.malformed value c reason hput) reason [] c

theorem reads_applyOverrides {os : List Override} (h : List.Forall₂ Override.Of os vs)
    (c : Config) : Reads env vs c (applyOverrides env os c) := by
  induction h generalizing c with
  | nil => exact .all (.of_none (fun _ => rfl) c)
  | @cons o v os vs ho _ ih =>
    have hreads := ho.reads env c
    rw [applyOverrides_cons]
    cases hd : o.apply env c with
    | ok d =>
      rw [hd] at hreads
      exact .append hreads (ih d)
    | error e =>
      rw [hd] at hreads
      exact hreads.stop vs

/-- The flag among the settings for encryption, as far as it is given, was read. -/
structure IsVerify (env : Environment) (verify : Option Bool) : Prop where
  flag : ∀ value, env.get? verifyVariable = some value → ∃ b, verify = some b ∧ IsFlag value b
  none : env.get? verifyVariable = none → verify = none

/-- With the flag read, the settings for encryption are put over all together. -/
theorem overlaid_tlsOver {verify : Option Bool} (hverify : IsVerify env verify)
    (hany : ∃ v ∈ Variable.forTls, (env.get? v.name).isSome) (c : Config) :
    Overlaid (given env Variable.forTls) c
      { c with broker.tls := some (tlsOver env verify c.encryption) } := by
  refine ⟨fun v value hv => ?_, fun v hv => ?_, rfl, rfl, ?_⟩
  · obtain ⟨hmem, hset⟩ := given_eq_some_iff.mp hv
    cases v
    case verifyServer =>
      obtain ⟨b, rfl, hb⟩ := hverify.flag value hset
      exact hb
    case caCert | clientCert | clientKey => exact Option.or_eq_some_iff.mpr (.inl hset)
    all_goals exact absurd hmem (by decide)
  · cases v
    case verifyServer =>
      have hnone := hverify.none (given_eq_none_iff.mp hv (by decide))
      exact congrArg (·.getD c.encryption.verifyServer) hnone
    case caCert | clientCert | clientKey =>
      exact Option.or_eq_right_of_none (given_eq_none_iff.mp hv (by decide))
    all_goals rfl
  · obtain ⟨v, hv, hsome⟩ := hany
    exact iff_of_true rfl (.inr ⟨v, hv, by rwa [given, if_pos hv]⟩)

/-- The flag is read first, and nothing is put over the configuration if it is malformed. -/
theorem verify_cases (env : Environment) :
    (∃ verify, IsVerify env verify ∧
      (env.get? verifyVariable).mapM (fromVariable verifyVariable readBool) = .ok verify) ∨
    ∃ value reason, env.get? verifyVariable = some value ∧ ¬Variable.verifyServer.Admits value ∧
      (env.get? verifyVariable).mapM (fromVariable verifyVariable readBool) =
        .error (.badVariable verifyVariable value reason) := by
  cases hset : env.get? verifyVariable with
  | none => exact .inl ⟨none, ⟨by simp [hset], fun _ => rfl⟩, rfl⟩
  | some value =>
    cases hread : readBool value with
    | ok b =>
      refine .inl ⟨some b, ⟨fun text htext => ?_, by simp [hset]⟩, ?_⟩
      · obtain rfl : value = text := by simpa [hset] using htext
        exact ⟨b, rfl, readBool_eq_ok_iff.mp hread⟩
      · rw [Option.mapM_some, fromVariable, hread]
        rfl
    | error reason =>
      refine .inr ⟨value, reason, rfl, ?_, ?_⟩
      · rintro ⟨b, hb⟩
        rw [readBool_eq_ok_iff.mpr hb] at hread
        cases hread
      · rw [Option.mapM_some, fromVariable, hread]
        rfl

theorem reads_applyTls (env : Environment) (c : Config) :
    Reads env Variable.forTls c (c.applyTls env) := by
  have hnames : (tlsVariables.any fun name => (env.get? name).isSome) ↔
      ∃ v ∈ Variable.forTls, (env.get? v.name).isSome := by
    have hperm : tlsVariables.Perm (Variable.forTls.map Variable.name) := by decide
    rw [hperm.any_eq, List.any_map, List.any_eq_true]
    rfl
  unfold applyTls
  obtain ⟨verify, hverify, hread⟩ | ⟨value, reason, hset, hbad, hread⟩ := verify_cases env
  · rw [hread]
    dsimp only
    split
    · rename_i hany
      exact .all (overlaid_tlsOver hverify (hnames.mp hany) c)
    · rename_i hany
      refine .all (.of_none (fun v => given_eq_none_iff.mpr fun hv => ?_) c)
      by_contra hsome
      exact hany (hnames.mpr ⟨v, hv, Option.isSome_iff_ne_none.mpr hsome⟩)
  · rw [hread]
    exact .of_head hset hbad reason _ c

theorem reads_applyEnvironment (env : Environment) (c : Config) :
    Reads env Variable.all c (c.applyEnvironment env) := by
  have hplain : Reads env Variable.plain c _ := reads_applyOverrides overrides_of c
  unfold applyEnvironment
  generalize applyOverrides env overrides c = r at hplain
  cases hplain with
  | @all d overlaid => exact .append overlaid (reads_applyTls env d)
  | stopped order overlaid set malformed =>
    exact Reads.stop (.stopped order overlaid set malformed) Variable.forTls

theorem given_all (env : Environment) (v : Variable) : given env Variable.all v = env.get? v.name :=
  if_pos v.mem_all

/-- What is put over a configuration is well formed. -/
theorem Overlaid.not_malformed (h : Overlaid (given env vs) c d) (hv : v ∈ vs) :
    ¬v.Malformed env := by
  rintro ⟨value, hset, hbad⟩
  exact hbad (h.holds v value (given_eq_some_iff.mpr ⟨hv, hset⟩)).admits

/-- Reading the environment succeeds with exactly the configuration that has all its variables put
over it. -/
theorem applyEnvironment_eq_iff :
    c.applyEnvironment env = (d, none) ↔ Overlaid (given env Variable.all) c d := by
  have hreads := reads_applyEnvironment env c
  constructor
  · intro h
    rw [h] at hreads
    cases hreads with
    | all overlaid => exact overlaid
  · intro h
    generalize c.applyEnvironment env = r at hreads
    cases hreads with
    | all overlaid => rw [h.unique overlaid]
    | stopped order overlaid set malformed =>
      exact absurd ⟨_, set, malformed⟩ (h.not_malformed (Variable.mem_all _))

/-- The variables that are read before another one. -/
def Variable.earlier (v : Variable) : List Variable := all.takeWhile (· ≠ v)

theorem Variable.earlier_eq {before after : List Variable} (h : all = before ++ v :: after) :
    v.earlier = before := by
  have hnodup : (before ++ v :: after).Nodup := h ▸ by decide
  have hnotin : v ∉ before := fun hv => List.disjoint_of_nodup_append hnodup hv List.mem_cons_self
  have hbefore : ∀ w ∈ before, decide (w ≠ v) := fun w hw =>
    decide_eq_true (ne_of_mem_of_not_mem hw hnotin)
  rw [earlier, h, List.takeWhile_append_of_pos hbefore]
  simp

/-- Hosts, certificates and keys may have any text. -/
theorem Variable.mem_of_not_admits {value : String} (h : ¬v.Admits value) :
    v ∈ [level, healthPort, port, insecure, schemaValidation, verifyServer] := by
  cases v
  case host | caCert | clientCert | clientKey => exact absurd trivial h
  all_goals decide

/-- Nothing about encryption is read before the last of the variables that can be malformed. -/
theorem Variable.not_forTls_of_earlier {w : Variable} {value : String} (hv : ¬v.Admits value)
    (hw : w ∈ v.earlier) : w ∉ forTls := by
  have hearlier : ∀ v ∈ [level, healthPort, port, insecure, schemaValidation, verifyServer],
      ∀ w ∈ earlier v, w ∉ forTls := by decide
  exact hearlier v (mem_of_not_admits hv) w hw

/-- The variable of the setting that is at fault. -/
def Fault.about : Fault → Variable
  | blankHost => .host
  | zeroPort => .port
  | lowHealthPort _ => .healthPort
  | unknownLevel _ => .level

/-- What a variable other than the host puts passes its check. -/
theorem Variable.Holds.about_ne {value : String} {f : Fault} (hv : v ≠ host)
    (h : v.Holds value d) (hf : d.validate = .error (.invalid f)) : f.about ≠ v := by
  have hfault : d.fault? = some f := by
    unfold validate at hf
    split at hf
    · rename_i g hg
      cases hf
      exact hg
    · nomatch hf
  rintro rfl
  cases firstFault_iff.mpr hfault with
  | blankHost _ => exact hv rfl
  | zeroPort _ port => exact absurd (port ▸ h.2) (by decide)
  | lowHealthPort _ _ health => exact absurd health (UInt16.not_lt.mpr h.2)
  | unknownLevel _ _ _ level => exact level h.2

/-- Reading the environment fails if and only if one of the variables for levels, ports and flags is
malformed. It then reports the first such variable with its text; the variables before it have been
put over the configuration, and nothing else has changed, not even a setting for encryption. A level
or a port that was put over the configuration passes its check. -/
theorem malformed_variable_stops (env : Environment) (c : Config) :
    ((c.applyEnvironment env).2.isSome ↔
      ∃ v ∈ [.level, .healthPort, .port, .insecure, .schemaValidation, .verifyServer],
        Variable.Malformed env v) ∧
    (∀ d e, c.applyEnvironment env = (d, some e) →
      ∃ (v : Variable) (value reason : String), env.get? v.name = some value ∧ ¬v.Admits value ∧
        (∀ w ∈ v.earlier, ¬w.Malformed env) ∧ e = .badVariable v.name value reason ∧
        Overlaid (given env v.earlier) c d ∧ d.broker.tls = c.broker.tls) ∧
    ∀ (v : Variable) (value : String) (d : Config) (f : Fault), v ≠ .host → v.Holds value d →
      d.validate = .error (.invalid f) → f.about ≠ v := by
  have hreads := reads_applyEnvironment env c
  refine ⟨⟨fun h => ?_, fun ⟨v, _, hv⟩ => ?_⟩, fun d e h => ?_,
    fun v value d f hv => Variable.Holds.about_ne hv⟩
  · obtain ⟨e, he⟩ := Option.isSome_iff_exists.mp h
    generalize c.applyEnvironment env = r at hreads he
    cases hreads with
    | all _ => nomatch he
    | @stopped _ _ v value _ _ _ _ set malformed =>
      exact ⟨v, Variable.mem_of_not_admits malformed, value, set, malformed⟩
  · by_contra hnone
    have h : c.applyEnvironment env = ((c.applyEnvironment env).1, none) :=
      Prod.ext rfl (Option.not_isSome_iff_eq_none.mp hnone)
    exact (applyEnvironment_eq_iff.mp h).not_malformed v.mem_all hv
  · rw [h] at hreads
    cases hreads with
    | @stopped before after v value reason _ order overlaid set malformed =>
      rw [← Variable.earlier_eq order] at overlaid
      refine ⟨v, value, reason, set, malformed, fun w hw => overlaid.not_malformed hw, rfl,
        overlaid, overlaid.tls_eq fun w hw => if_neg fun hearlier => ?_⟩
      exact Variable.not_forTls_of_earlier malformed hearlier hw

/-- A port that is too high: the level and the host before it have been replaced, the flag after it,
malformed as well, and the certificate have not. -/
theorem malformed_variable_stops_of_port :
    let c : Config := { broker := { host := "broker", port := 1883 } }
    let env : Environment := fun name =>
      [("TRACKER_LOG_LEVEL", "WARN"), ("TRACKER_MQTT_HOST", "other"),
       ("TRACKER_MQTT_PORT", "70000"), ("TRACKER_MQTT_INSECURE", "maybe"),
       ("TRACKER_MQTT_TLS_CA_CERT", "ca.pem")].lookup name
    let d : Config :=
      { broker := { host := "other", port := 1883 }, logging := { level := "warn" } }
    c.applyEnvironment env =
        (d, some (.badVariable "TRACKER_MQTT_PORT" "70000" "must be 1-65535")) ∧
      Variable.Malformed env .port ∧ d.broker.tls = c.broker.tls ∧ d.fault? = none := by
  intro c env d
  have h : c.applyEnvironment env =
      (d, some (.badVariable "TRACKER_MQTT_PORT" "70000" "must be 1-65535")) := by decide +kernel
  obtain ⟨-, hstops, -⟩ := malformed_variable_stops env c
  obtain ⟨v, value, reason, hset, hbad, -, he, -, htls⟩ := hstops d _ h
  obtain ⟨hname, rfl, -⟩ := Error.badVariable.inj he
  obtain rfl : v = .port := by cases v <;> first | rfl | exact absurd hname (by decide)
  exact ⟨h, ⟨_, hset, hbad⟩, htls, by decide +kernel⟩

end SceneRelay.Config
