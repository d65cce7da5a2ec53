import SceneRelay.Proofs.Config.Environment

/-! Environments in layers: reading one environment after another is the same as reading both at
once, each variable from the upper one that sets it. -/
namespace SceneRelay

namespace Environment
variable {upper lower : Environment} {name : String}

/-- Each variable from the upper environment if it is set there, otherwise from the lower one. -/
def above (upper lower : Environment) : Environment := fun name => (upper.get? name).or (lower name)

/-- The environment without the variables that are empty. -/
def withoutEmpty (env : Environment) : Environment := fun name => env.get? name

theorem get?_withoutEmpty (env : Environment) (name : String) :
    env.withoutEmpty.get? name = env.get? name := by
  simp [get?, withoutEmpty, Option.filter_filter]

theorem get?_above (upper lower : Environment) (name : String) :
    (upper.above lower).get? name = (upper.get? name).or (lower.get? name) := by
  change ((upper.get? name).or (lower name)).filter _ = _
  cases h : upper.get? name with
  | none => rfl
  | some value => exact (congrArg _ h.symm).trans ((get?_withoutEmpty upper name).trans h)

end Environment

namespace Config
variable {c d d₁ d₂ : Config} {env env' e₁ e₂ : Environment}

theorem applyOverrides_congr (h : ∀ name, env.get? name = env'.get? name) (os : List Override)
    (c : Config) : applyOverrides env os c = applyOverrides env' os c := by
  induction os generalizing c with
  | nil => rfl
  | cons o os ih => simp only [applyOverrides, h, ih]

/-- Environments with the same variables that are not empty are read alike. -/
theorem applyEnvironment_congr (h : ∀ name, env.get? name = env'.get? name) (c : Config) :
    c.applyEnvironment env = c.applyEnvironment env' := by
  simp only [applyEnvironment, applyOverrides_congr h, applyTls, tlsOver, h]

theorem given_above (upper lower : Environment) :
    given (upper.above lower) Variable.all =
      fun v => (given upper Variable.all v).or (given lower Variable.all v) := by
  funext v
  simp only [given_all, Environment.get?_above]

/-- Two environments, read one after the other. -/
theorem overlaid_of_layers (h₁ : c.applyEnvironment e₁ = (d₁, none))
    (h₂ : d₁.applyEnvironment e₂ = (d₂, none)) :
    Overlaid (given (e₂.above e₁) Variable.all) c d₂ := by
  rw [given_above]
  exact (applyEnvironment_eq_iff.mp h₁).trans (applyEnvironment_eq_iff.mp h₂)

/-- An environment that has been read changes nothing any more. -/
theorem applyEnvironment_again (h : c.applyEnvironment env = (d, none)) :
    d.applyEnvironment env = (d, none) := by
  have hd := applyEnvironment_eq_iff.mp h
  refine applyEnvironment_eq_iff.mpr ⟨hd.holds, fun v _ => .refl v d, rfl, rfl, ?_⟩
  rw [hd.tls, or_assoc, or_self]

/-- Reading two environments one after the other is reading at once the second over the first. So an
environment that has been read changes nothing any more, and empty variables count for nothing; the
settings for encryption are there if they were or if a variable for them is set in either layer; and
what is set in neither layer, or by no variable at all, stays. -/
theorem layers_compose (h₁ : c.applyEnvironment e₁ = (d₁, none))
    (h₂ : d₁.applyEnvironment e₂ = (d₂, none)) :
    c.applyEnvironment (e₂.above e₁) = (d₂, none) ∧
    d₁.applyEnvironment e₁ = (d₁, none) ∧
    (∀ (x : Config) (env : Environment),
      x.applyEnvironment env.withoutEmpty = x.applyEnvironment env) ∧
    (∀ (x : Config) (env : Environment), (∀ name, env.get? name = none) →
      x.applyEnvironment env = (x, none)) ∧
    (d₂.broker.tls.isSome ↔ c.broker.tls.isSome ∨
      ∃ v ∈ Variable.forTls, (e₁.get? v.name).isSome ∨ (e₂.get? v.name).isSome) ∧
    d₂.logging.format = c.logging.format ∧ d₂.tracker.schemaDir = c.tracker.schemaDir ∧
    ∀ v : Variable, e₁.get? v.name = none → e₂.get? v.name = none → v.Keeps c d₂ := by
  have hlayers := overlaid_of_layers h₁ h₂
  refine ⟨applyEnvironment_eq_iff.mpr hlayers, applyEnvironment_again h₁, fun x env => ?_,
    fun x env hempty => ?_, ?_, hlayers.format, hlayers.schemaDir, fun v hv₁ hv₂ => ?_⟩
  · exact applyEnvironment_congr env.get?_withoutEmpty x
  · exact applyEnvironment_eq_iff.mpr (.of_none (fun v => (given_all env v).trans (hempty _)) x)
  · rw [hlayers.tls]
    simp only [given_all, Environment.get?_above, Option.isSome_or, Bool.or_eq_true, or_comm]
  · refine hlayers.keeps v ?_
    rw [given_all, Environment.get?_above, hv₁, hv₂]
    rfl

/-- A level and a certificate below, an empty level, a port and a flag for encryption above. -/
theorem layers_compose_of_level :
    let c : Config := { broker := { host := "broker", port := 1883 } }
    let lower : Environment := fun name =>
      [("TRACKER_LOG_LEVEL", "WARN"), ("TRACKER_MQTT_TLS_CA_CERT", "ca.pem")].lookup name
    let upper : Environment := fun name =>
      [("TRACKER_LOG_LEVEL", ""), ("TRACKER_MQTT_PORT", " +8883 "),
       ("TRACKER_MQTT_TLS_VERIFY_SERVER", "no")].lookup name
    let d₁ : Config :=
      { broker := { host := "broker", port := 1883, tls := some { caCert := "ca.pem" } }
        logging := { level := "warn" } }
    let d₂ : Config :=
      { broker := { host := "broker", port := 8883,
                    tls := some { caCert := "ca.pem", verifyServer := false } }
        logging := { level := "warn" } }
    c.applyEnvironment lower = (d₁, none) ∧ d₁.applyEnvironment upper = (d₂, none) ∧
      c.applyEnvironment (upper.above lower) = (d₂, none) := by
  intro c lower upper d₁ d₂
  have h₁ : c.applyEnvironment lower = (d₁, none) := by decide +kernel
  have h₂ : d₁.applyEnvironment upper = (d₂, none) := by decide +kernel
  exact ⟨h₁, h₂, (layers_compose h₁ h₂).1⟩

end Config
end SceneRelay
