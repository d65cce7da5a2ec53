import SceneRelay.Proofs.Config.RoundTrip

/-! The settings of the command line over those of file and environment. Loading with flags comes to
the same as loading without them what the flags leave of file and environment; only that a value
which a flag replaces has to be a good one all the same. -/
namespace SceneRelay

namespace Config

/-- A flag is given for the setting of a variable. -/
def Flags.replaces (flags : Flags) (name : String) : Bool :=
  (flags.level.isSome && name = "TRACKER_LOG_LEVEL") ||
    (flags.healthPort.isSome && name = "TRACKER_HEALTHCHECK_PORT")

/-- An error is about a value that a flag replaces. -/
def Error.concerns (flags : Flags) : Error → Bool
  | .badVariable name _ _ => flags.replaces name
  | .invalid (.unknownLevel _) => flags.level.isSome
  | .invalid (.lowHealthPort _) => flags.healthPort.isSome
  | _ => false

/-- The file at a path holds a document that describes a configuration. -/
def Describes (files : Files) (path : String) (c : Config) : Prop :=
  ∃ bytes text, files path = .ok bytes ∧ String.fromUTF8? bytes = some text ∧ parse? text = some c

end Config

/-- An environment without the variables whose settings flags replace. -/
def Environment.without (env : Environment) (flags : Config.Flags) : Environment :=
  fun name => if flags.replaces name then none else env name

namespace Environment
variable {env : Environment} {flags : Config.Flags} {name : String}

theorem get?_without_of_replaces (h : flags.replaces name) :
    (env.without flags).get? name = none := by simp [get?, without, h]

theorem get?_without (env : Environment) (h : flags.replaces name = false) :
    (env.without flags).get? name = env.get? name := by simp [get?, without, h]

theorem without_without (env : Environment) (flags : Config.Flags) :
    (env.without flags).without flags = env.without flags := by
  funext name
  simp only [without]
  split <;> rfl

end Environment

namespace Config
variable {files files' : Files} {path path' : String} {env : Environment} {flags : Flags}
  {c d : Config}

theorem withFlags_withFlags (flags : Flags) (c : Config) :
    (c.withFlags flags).withFlags flags = c.withFlags flags := by
  obtain ⟨level, port⟩ := flags
  cases level <;> cases port <;> rfl

/-! ### Two ways of loading side by side -/

/-- The outcome of a step below the flags and that of the same step with the flags in place: the
same but for what the flags replace, unless the first is an error about such a value. -/
inductive Mirrors (flags : Flags) : Except Error Config → Except Error Config → Prop
  | loads (c : Config) : Mirrors flags (.ok c) (.ok (c.withFlags flags))
  | fails (e : Error) : Mirrors flags (.error e) (.error e)
  | replaced {e : Error} (concerns : e.concerns flags) (r : Except Error Config) :
    Mirrors flags (.error e) r

theorem Mirrors.bind {r s : Except Error Config} {f g : Config → Except Error Config}
    (h : Mirrors flags r s) (hf : ∀ c, Mirrors flags (f c) (g (c.withFlags flags))) :
    Mirrors flags (r >>= f) (s >>= g) := by
  cases h with
  | loads c => exact hf c
  | fails e => exact .fails e
  | replaced concerns _ => exact .replaced concerns _

theorem Mirrors.eq_ok {r s : Except Error Config} (h : Mirrors flags r s) (hr : r = .ok c) :
    s = .ok (c.withFlags flags) := by
  cases h with
  | loads d => rw [Except.ok.inj hr]
  | fails e => nomatch hr
  | replaced _ _ => nomatch hr

theorem Mirrors.eq_error {e : Error} {s : Except Error Config} (h : Mirrors flags (.error e) s)
    (he : ¬e.concerns flags) : s = .error e := by
  cases h with
  | fails _ => rfl
  | replaced concerns _ => exact absurd concerns he

/-! ### The variables -/

/-- What a variable makes of a configuration. -/
def Override.apply (o : Override) (env : Environment) (c : Config) : Except Error Config :=
  match env.get? o.name with
  | none => .ok c
  | some v => fromVariable o.name (o.put · c) v

/-- What a configuration has become, or the error that came up on the way. -/
def outcome : Config × Option Error → Except Error Config
  | (c, none) => .ok c
  | (_, some e) => .error e

theorem outcome_applyOverrides (env : Environment) (os : List Override) (c : Config) :
    outcome (applyOverrides env os c) = os.foldlM (fun c o => o.apply env c) c := by
  induction os generalizing c with
  | nil => rfl
  | cons o os ih =>
    rw [List.foldlM_cons, applyOverrides, Override.apply]
    cases env.get? o.name with
    | none => exact ih c
    | some v =>
      dsimp only
      cases fromVariable o.name (o.put · c) v with
      | ok d => exact ih d
      | error e => rfl

theorem outcome_applyEnvironment (env : Environment) (c : Config) :
    outcome (c.applyEnvironment env) =
      overrides.foldlM (fun c o => o.apply env c) c >>= fun c => outcome (c.applyTls env) := by
  rw [← outcome_applyOverrides, applyEnvironment]
  obtain ⟨d, _ | e⟩ := applyOverrides env overrides c <;> rfl

theorem Override.apply_of_none {o : Override} (h : env.get? o.name = none) :
    o.apply env c = .ok c := by rw [apply, h]

theorem Override.apply_of_some {o : Override} {v : String} (h : env.get? o.name = some v) :
    o.apply env c = (o.put v c).mapError (.badVariable o.name v) := by
  rw [apply, h]
  rfl

/-- A variable that flags leave alone does the same below and above them. -/
theorem mirrors_apply_of_commutes {o : Override} (hname : flags.replaces o.name = false)
    (hput : ∀ v, o.put v (c.withFlags flags) = (o.put v c).map (withFlags flags)) :
    Mirrors flags (o.apply env c) (o.apply (env.without flags) (c.withFlags flags)) := by
  have hget := Environment.get?_without env hname
  cases hv : env.get? o.name with
  | none =>
    rw [Override.apply_of_none hv, Override.apply_of_none (hget.trans hv)]
    exact .loads c
  | some v =>
    rw [Override.apply_of_some hv, Override.apply_of_some (hget.trans hv), hput]
    cases o.put v c with
    | ok d => exact .loads d
    | error reason => exact .fails _

/-- A flag hides what its variable makes of the setting. -/
theorem mirrors_apply_of_replaces {o : Override} (hname : flags.replaces o.name)
    (hput : ∀ v d, o.put v c = .ok d → d.withFlags flags = c.withFlags flags) :
    Mirrors flags (o.apply env c) (o.apply (env.without flags) (c.withFlags flags)) := by
  rw [Override.apply_of_none (Environment.get?_without_of_replaces hname)]
  cases hv : env.get? o.name with
  | none =>
    rw [Override.apply_of_none hv]
    exact .loads c
  | some v =>
    rw [Override.apply_of_some hv]
    cases hd : o.put v c with
    | ok d =>
      rw [← hput v d hd]
      exact .loads d
    | error reason => exact .replaced (e := .badVariable o.name v reason) hname _

theorem mirrors_apply (flags : Flags) (env : Environment) (c : Config) {o : Override}
    (ho : o ∈ overrides) :
    Mirrors flags (o.apply env c) (o.apply (env.without flags) (c.withFlags flags)) := by
  obtain ⟨level, port⟩ := flags
  simp only [overrides, List.mem_cons, List.not_mem_nil, or_false] at ho
  obtain rfl | rfl | rfl | rfl | rfl | rfl := ho
  · cases level with
    | none =>
      refine mirrors_apply_of_commutes (by simp [Flags.replaces]) fun v => ?_
      dsimp only
      cases readLevel v <;> rfl
    | some l =>
      refine mirrors_apply_of_replaces (by simp [Flags.replaces]) fun v d hd => ?_
      dsimp only at hd
      cases hl : readLevel v <;> rw [hl] at hd <;> cases hd
      rfl
  · cases port with
    | none =>
      refine mirrors_apply_of_commutes (by simp [Flags.replaces]) fun v => ?_
      dsimp only
      cases readPort minHealthPort v <;> rfl
    | some p =>
      refine mirrors_apply_of_replaces (by simp [Flags.replaces]) fun v d hd => ?_
      dsimp only at hd
      cases hp : readPort minHealthPort v <;> rw [hp] at hd <;> cases hd
      rfl
  · exact mirrors_apply_of_commutes (by simp [Flags.replaces]) fun v => rfl
  · refine mirrors_apply_of_commutes (by simp [Flags.replaces]) fun v => ?_
    dsimp only
    cases readPort 1 v <;> rfl
  · refine mirrors_apply_of_commutes (by simp [Flags.replaces]) fun v => ?_
    dsimp only
    cases readBool v <;> rfl
  · refine mirrors_apply_of_commutes (by simp [Flags.replaces]) fun v => ?_
    dsimp only
    cases readBool v <;> rfl

theorem mirrors_foldlM {os : List Override} (hos : ∀ o ∈ os, o ∈ overrides) (c : Config) :
    Mirrors flags (os.foldlM (fun c o => o.apply env c) c)
      (os.foldlM (fun c o => o.apply (env.without flags) c) (c.withFlags flags)) := by
  induction os generalizing c with
  | nil => exact .loads c
  | cons o os ih =>
    obtain ⟨ho, hos⟩ := List.forall_mem_cons.mp hos
    rw [List.foldlM_cons, List.foldlM_cons]
    exact (mirrors_apply flags env c ho).bind (ih hos)

theorem applyTls_without (env : Environment) (flags : Flags) (c : Config) :
    applyTls (env.without flags) c = applyTls env c := by
  have hget (name : String) (hn : name ∈ tlsVariables) :
      (env.without flags).get? name = env.get? name := by
    apply Environment.get?_without env
    simp only [tlsVariables, verifyVariable, List.mem_cons, List.not_mem_nil, or_false] at hn
    obtain rfl | rfl | rfl | rfl := hn <;> simp [Flags.replaces]
  simp only [applyTls, tlsOver, tlsVariables, List.any_cons, List.any_nil,
    hget verifyVariable (by decide), hget "TRACKER_MQTT_TLS_CA_CERT" (by decide),
    hget "TRACKER_MQTT_TLS_CLIENT_CERT" (by decide), hget "TRACKER_MQTT_TLS_CLIENT_KEY" (by decide)]
  rfl

theorem applyTls_withFlags (env : Environment) (flags : Flags) (c : Config) :
    applyTls env (c.withFlags flags) =
      ((applyTls env c).1.withFlags flags, (applyTls env c).2) := by
  unfold applyTls
  split
  · rfl
  · split <;> rfl

theorem mirrors_applyEnvironment (flags : Flags) (env : Environment) (c : Config) :
    Mirrors flags (outcome (c.applyEnvironment env))
      (outcome ((c.withFlags flags).applyEnvironment (env.without flags))) := by
  rw [outcome_applyEnvironment, outcome_applyEnvironment]
  refine (mirrors_foldlM (fun _ => id) c).bind fun c => ?_
  rw [applyTls_without, applyTls_withFlags]
  obtain ⟨d, _ | e⟩ := applyTls env c
  · exact .loads d
  · exact .fails e

/-- An error is about a variable that is set. -/
def Error.Names (env : Environment) (e : Error) : Prop :=
  ∃ name value reason, e = .badVariable name value reason ∧ (env.get? name).isSome

theorem names_of_apply {o : Override} {e : Error} (h : o.apply env c = .error e) :
    e.Names env := by
  cases hv : env.get? o.name with
  | none =>
    rw [Override.apply_of_none hv] at h
    nomatch h
  | some v =>
    rw [Override.apply_of_some hv] at h
    cases hp : o.put v c with
    | ok d =>
      rw [hp] at h
      nomatch h
    | error reason =>
      rw [hp] at h
      cases h
      exact ⟨o.name, v, reason, rfl, by rw [hv, Option.isSome_some]⟩

theorem names_of_foldlM {os : List Override} {e : Error}
    (h : os.foldlM (fun c o => o.apply env c) c = .error e) : e.Names env := by
  induction os generalizing c with
  | nil => nomatch h
  | cons o os ih =>
    rw [List.foldlM_cons] at h
    cases ho : o.apply env c with
    | ok d =>
      rw [ho] at h
      exact ih h
    | error e' =>
      rw [ho] at h
      cases h
      exact names_of_apply ho

theorem names_of_applyTls {e : Error} (h : outcome (applyTls env c) = .error e) :
    e.Names env := by
  unfold applyTls at h
  split at h
  · rename_i e' hread
    cases h
    cases hv : env.get? verifyVariable with
    | none =>
      rw [hv] at hread
      nomatch hread
    | some v =>
      rw [hv, Option.mapM_some] at hread
      cases hb : fromVariable verifyVariable readBool v with
      | ok verify =>
        rw [hb] at hread
        nomatch hread
      | error e =>
        rw [hb] at hread
        cases hread
        cases hr : readBool v <;> rw [fromVariable, hr] at hb <;> cases hb
        exact ⟨verifyVariable, v, _, rfl, by rw [hv, Option.isSome_some]⟩
  · split at h <;> nomatch h

theorem names_of_applyEnvironment {e : Error} (h : outcome (c.applyEnvironment env) = .error e) :
    e.Names env := by
  rw [outcome_applyEnvironment] at h
  cases hd : overrides.foldlM (fun c o => o.apply env c) c with
  | ok d =>
    rw [hd] at h
    exact names_of_applyTls h
  | error e' =>
    rw [hd] at h
    cases h
    exact names_of_foldlM hd

/-! ### The checks -/

theorem setting_mem_logLevels (l : LogLevel) : l.setting ∈ logLevels := by
  cases l <;> decide +kernel

/-- The first fault of a configuration, with the checks that were passed before it. -/
inductive FirstFault (c : Config) : Option Fault → Prop
  | blankHost (host : Text.isAllBlank c.broker.host) : FirstFault c (some .blankHost)
  | zeroPort (host : ¬Text.isAllBlank c.broker.host) (port : c.broker.port = 0) :
    FirstFault c (some .zeroPort)
  | lowHealthPort (host : ¬Text.isAllBlank c.broker.host) (port : c.broker.port ≠ 0)
      (health : c.tracker.healthPort < minHealthPort) :
    FirstFault c (some (.lowHealthPort c.tracker.healthPort))
  | unknownLevel (host : ¬Text.isAllBlank c.broker.host) (port : c.broker.port ≠ 0)
      (health : ¬c.tracker.healthPort < minHealthPort) (level : c.logging.level ∉ logLevels) :
    FirstFault c (some (.unknownLevel c.logging.level))
  | none (host : ¬Text.isAllBlank c.broker.host) (port : c.broker.port ≠ 0)
      (health : ¬c.tracker.healthPort < minHealthPort) (level : c.logging.level ∈ logLevels) :
    FirstFault c none

theorem firstFault_iff {r : Option Fault} : FirstFault c r ↔ c.fault? = r := by
  constructor
  · intro h
    cases h with
    | blankHost host => exact if_pos host
    | zeroPort host port => rw [fault?, if_neg host, if_pos port]
    | lowHealthPort host port health => rw [fault?, if_neg host, if_neg port, if_pos health]
    | unknownLevel host port health level =>
      rw [fault?, if_neg host, if_neg port, if_neg health, if_pos level]
    | none host port health level =>
      rw [fault?, if_neg host, if_neg port, if_neg health, if_neg (not_not.mpr level)]
  · rintro rfl
    unfold fault?
    split
    · exact .blankHost ‹_›
    · split
      · exact .zeroPort ‹_› ‹_›
      · split
        · exact .lowHealthPort ‹_› ‹_› ‹_›
        · split
          · exact .unknownLevel ‹_› ‹_› ‹_› ‹_›
          · exact .none ‹_› ‹_› ‹_› (not_not.mp ‹_›)

/-- A port from the command line passes its check, and without one that of the file stays. -/
theorem healthPort_withFlags (flags : Flags) (c : Config) :
    (flags.healthPort.isSome ∧ ¬(c.withFlags flags).tracker.healthPort < minHealthPort) ∨
      (flags.healthPort = none ∧
        (c.withFlags flags).tracker.healthPort = c.tracker.healthPort) := by
  obtain ⟨level, _ | p⟩ := flags
  · exact .inr ⟨rfl, rfl⟩
  · exact .inl ⟨rfl, UInt16.not_lt.mpr p.2⟩

theorem level_withFlags (flags : Flags) (c : Config) :
    (flags.level.isSome ∧ (c.withFlags flags).logging.level ∈ logLevels) ∨
      (flags.level = none ∧ (c.withFlags flags).logging.level = c.logging.level) := by
  obtain ⟨_ | l, port⟩ := flags
  · exact .inr ⟨rfl, rfl⟩
  · exact .inl ⟨rfl, setting_mem_logLevels l⟩

/-- A fault that comes up with the flags in place is none of a value from the command line. -/
theorem not_concerns_of_fault? {f : Fault} (h : (c.withFlags flags).fault? = some f) :
    ¬Error.concerns flags (.invalid f) := by
  cases firstFault_iff.mpr h with
  | blankHost _ => exact Bool.false_ne_true
  | zeroPort _ _ => exact Bool.false_ne_true
  | lowHealthPort _ _ health =>
    obtain ⟨-, hp⟩ | ⟨hn, -⟩ := healthPort_withFlags flags c
    · exact absurd health hp
    · simp [Error.concerns, hn]
  | unknownLevel _ _ _ level =>
    obtain ⟨-, hl⟩ | ⟨hn, -⟩ := level_withFlags flags c
    · exact absurd hl level
    · simp [Error.concerns, hn]

theorem mirrors_validate (flags : Flags) (c : Config) :
    Mirrors flags (do c.validate; return c)
      (do (c.withFlags flags).validate; return c.withFlags flags) := by
  have hhealth (h : ¬c.tracker.healthPort < minHealthPort) :
      ¬(c.withFlags flags).tracker.healthPort < minHealthPort := by
    obtain ⟨-, hp⟩ | ⟨-, hp⟩ := healthPort_withFlags flags c
    · exact hp
    · rwa [hp]
  rw [checked_eq, checked_eq]
  -- The checks before the first fault do not look at what the flags replace, or pass for it.
  cases hf : c.fault? with
  | none =>
    cases firstFault_iff.mpr hf with
    | none host port health level =>
      have hlevel : (c.withFlags flags).logging.level ∈ logLevels := by
        obtain ⟨-, hl⟩ | ⟨-, hl⟩ := level_withFlags flags c
        · exact hl
        · rwa [hl]
      rw [firstFault_iff.mp (.none (c := c.withFlags flags) host port (hhealth health) hlevel)]
      exact .loads c
  | some f =>
    cases firstFault_iff.mpr hf with
    | blankHost host =>
      rw [firstFault_iff.mp (.blankHost (c := c.withFlags flags) host)]
      exact .fails _
    | zeroPort host port =>
      rw [firstFault_iff.mp (.zeroPort (c := c.withFlags flags) host port)]
      exact .fails _
    | lowHealthPort host port health =>
      obtain ⟨hs, -⟩ | ⟨-, hp⟩ := healthPort_withFlags flags c
      · exact .replaced (e := .invalid (.lowHealthPort _)) hs _
      · rw [firstFault_iff.mp (.lowHealthPort (c := c.withFlags flags) host port (hp ▸ health)), hp]
        exact .fails _
    | unknownLevel host port health level =>
      obtain ⟨hs, -⟩ | ⟨-, hl⟩ := level_withFlags flags c
      · exact .replaced (e := .invalid (.unknownLevel _)) hs _
      · rw [firstFault_iff.mp
          (.unknownLevel (c := c.withFlags flags) host port (hhealth health) (hl ▸ level)), hl]
        exact .fails _

/-! ### Loading -/

theorem ofFile_of_describes (h : Describes files path c) (env : Environment) :
    ofFile files path env =
      outcome (c.applyEnvironment env) >>= fun c => do c.validate; return c := by
  obtain ⟨bytes, text, hbytes, htext, hparse⟩ := h
  simp only [ofFile, hbytes, htext, ofText, hparse, Option.elim_some, bind, Except.bind]
  obtain ⟨d, _ | e⟩ := c.applyEnvironment env <;> rfl

theorem mirrors_ofFile (h : Describes files path c)
    (h' : Describes files' path' (c.withFlags flags)) (env : Environment) :
    Mirrors flags (ofFile files path env) (ofFile files' path' (env.without flags)) := by
  rw [ofFile_of_describes h, ofFile_of_describes h']
  exact (mirrors_applyEnvironment flags env c).bind (mirrors_validate flags)

/-- What is loaded with flags has their settings. -/
theorem withFlags_of_load (h : load files path env flags = .ok c) : c.withFlags flags = c := by
  obtain ⟨d, _, rfl, _⟩ := exists_of_load h
  exact withFlags_withFlags flags d

/-- Without flags there is nothing left to check. -/
theorem load_none (h : Describes files path c) (env : Environment) :
    load files path env {} = ofFile files path env := by
  have hload : load files path env {} =
      ofFile files path env >>= fun c => do c.validate; return c := rfl
  rw [hload, ofFile_of_describes h, bind_assoc]
  apply bind_congr
  intro d
  rw [checked_eq]
  cases hd : d.fault? with
  | some f => rfl
  | none =>
    refine (checked_eq d).trans ?_
    rw [hd, Option.elim_none]

/-- Where flags hide everything they replace, no error is about it. -/
theorem not_concerns_of_ofFile (h : Describes files path (c.withFlags flags)) {e : Error}
    (he : ofFile files path (env.without flags) = .error e) : ¬e.concerns flags := by
  rw [ofFile_of_describes h] at he
  cases hd : outcome ((c.withFlags flags).applyEnvironment (env.without flags)) with
  | error e' =>
    rw [hd] at he
    cases he
    obtain ⟨name, value, reason, rfl, hsome⟩ := names_of_applyEnvironment hd
    intro hc
    rw [Environment.get?_without_of_replaces hc] at hsome
    exact absurd hsome Bool.false_ne_true
  | ok d =>
    -- The flags in place once more change nothing, so what the variables left has their settings.
    have hfixed : d.withFlags flags = d := by
      have hm := mirrors_applyEnvironment flags (env.without flags) (c.withFlags flags)
      rw [withFlags_withFlags, Environment.without_without] at hm
      exact (Except.ok.inj (hd.symm.trans (hm.eq_ok hd))).symm
    rw [hd] at he
    have hchecked := (checked_eq d).symm.trans he
    cases hf : d.fault? with
    | none =>
      rw [hf] at hchecked
      nomatch hchecked
    | some f =>
      rw [hf] at hchecked
      cases hchecked
      exact not_concerns_of_fault? (c := d) (hfixed.symm ▸ hf)

/-- Loading with flags comes to the same as loading, without flags, a file that holds their settings
in place of its own, in an environment without the variables for these settings, if and only if what
the file and the environment hold is not rejected for a value that a flag replaces. If it is, for
this or anything else, this is what loading with flags comes to. -/
theorem flags_replace_iff (h : Describes files path c)
    (h' : Describes files' path' (c.withFlags flags)) (env : Environment) :
    (load files path env flags = load files' path' (env.without flags) {} ↔
      ∀ e, ofFile files path env = .error e → ¬e.concerns flags) ∧
    ∀ e, ofFile files path env = .error e → load files path env flags = .error e := by
  have herror (e : Error) (he : ofFile files path env = .error e) :
      load files path env flags = .error e := by
    rw [load, he]
    rfl
  refine ⟨?_, herror⟩
  have hclear (e : Error) (he : ofFile files' path' (env.without flags) = .error e) :
      ¬e.concerns flags := not_concerns_of_ofFile h' he
  have hload : load files path env flags = ofFile files path env >>= fun c => do
      (c.withFlags flags).validate; return c.withFlags flags := rfl
  have hload' : load files' path' (env.without flags) {} =
      ofFile files' path' (env.without flags) >>= fun c => do c.validate; return c := rfl
  constructor
  · intro heq e he hc
    rw [herror e he, load_none h'] at heq
    exact hclear e heq.symm hc
  · intro hfree
    rw [hload, hload']
    cases hr : ofFile files path env with
    | ok d => rw [(mirrors_ofFile h h' env).eq_ok hr]; rfl
    | error e =>
      have hm := mirrors_ofFile h h' env
      rw [hr] at hm
      rw [hm.eq_error (hfree e hr)]
      rfl

/-- The document of a configuration is one that describes it. -/
theorem describes_toText (h : files path = .ok c.toText.toUTF8) : Describes files path c :=
  ⟨_, _, h, dif_pos c.toText.isValidUTF8, parse?_toText c⟩

/-- A level from the command line in place of a good one. -/
theorem flags_replace_iff_of_level :
    let c : Config :=
      { broker := { host := "broker", port := 1883 }, logging := { level := "debug" } }
    let flags : Flags := { level := some .info }
    let env : Environment := fun _ => none
    let files : Files := fun _ => .ok c.toText.toUTF8
    let files' : Files := fun _ => .ok (c.withFlags flags).toText.toUTF8
    Describes files "tracker.toml" c ∧ Describes files' "tracker.toml" (c.withFlags flags) ∧
      load files "tracker.toml" env flags =
        load files' "tracker.toml" (env.without flags) {} := by
  intro c flags env files files'
  have h : Describes files "tracker.toml" c := describes_toText rfl
  have h' : Describes files' "tracker.toml" (c.withFlags flags) := describes_toText rfl
  have hfault : c.fault? = none := by decide
  have hfile : ofFile files "tracker.toml" env = .ok c := by
    rw [ofFile_toText rfl, hfault, Option.elim_none]
  refine ⟨h, h', (flags_replace_iff h h' env).1.mpr fun e he => ?_⟩
  rw [hfile] at he
  nomatch he

/-- A level that the service does not know keeps it from starting, even if the command line gives
another one. -/
theorem unknown_level_not_replaced :
    let c : Config :=
      { broker := { host := "broker", port := 1883 }, logging := { level := "loud" } }
    let flags : Flags := { level := some .info }
    load (fun _ => .ok c.toText.toUTF8) "tracker.toml" (fun _ => none) flags =
      .error (.invalid (.unknownLevel "loud")) ∧
    load (fun _ => .ok (c.withFlags flags).toText.toUTF8) "tracker.toml"
      (Environment.without (fun _ => none) flags) {} = .ok (c.withFlags flags) := by
  intro c flags
  have hfault : c.fault? = some (.unknownLevel "loud") := by decide
  have hnone : (c.withFlags flags).fault? = none := by decide +kernel
  have henv : Environment.without (fun _ => none) flags = fun _ => none := by
    funext name
    simp [Environment.without]
  constructor
  · rw [load, ofFile_toText rfl, hfault]
    rfl
  · rw [henv, load_none (describes_toText rfl), ofFile_toText rfl, hnone, Option.elim_none]

end Config
end SceneRelay
