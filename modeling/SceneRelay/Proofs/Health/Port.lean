import SceneRelay.Proofs.Config.Flags

/-! The port that a probe asks and the one that the service serves. The probe takes its port from
the command line alone, so it finds the service only if the command line names the port, or if the
service serves the one that goes without saying. -/
namespace SceneRelay

/-- If only one port answers, and with 200, a probe succeeds on this port and on no other. -/
theorem Probe.succeeds_iff {answers : Answers} {endpoint : String} {served : UInt16} (port : UInt16)
    (hne : endpoint ≠ "") (hserved : served ≠ 0)
    (honly : ∀ port path, answers port path = some 200 ↔ port = served) :
    succeeds answers endpoint port ↔ port = served := by
  obtain ⟨path, hpath⟩ : ∃ path, normalize? endpoint = some path := by
    unfold normalize?
    rw [if_neg hne]
    split <;> exact ⟨_, rfl⟩
  simp only [succeeds, hpath, honly, Bool.and_eq_true, decide_eq_true_eq]
  constructor
  · exact fun h => h.2
  · rintro rfl
    exact ⟨hserved, rfl⟩

/-- A service serves the port of its configuration. -/
theorem Service.start_healthPort {s : Surroundings} {clientId : String} {c : Config}
    {service : Service} (h : Service.start s clientId c = .ok service) :
    service.healthPort = c.tracker.healthPort := by
  unfold Service.start at h
  cases ho : (BrokerOptions.ofSettings s.identify s.files clientId c.broker).mapError
      StartError.broker with
  | error e =>
    rw [ho] at h
    nomatch h
  | ok options =>
    rw [ho] at h
    cases hf : s.portFree <;> rw [hf] at h <;> cases h
    rfl

namespace Config
variable {files : Files} {path : String} {env : Environment} {c : Config}

theorem healthPort_ne_zero_of_load {flags : Flags} (h : load files path env flags = .ok c) :
    c.tracker.healthPort ≠ 0 := by
  cases firstFault_iff.mpr (fault?_of_load h) with
  | none _ _ health _ =>
    intro hz
    rw [hz] at health
    exact health (by decide)

end Config

namespace Program
variable {w : World} {i : Invocation} {c : Config} {args : List String}

theorem run_eq (h : CommandLine.parse w.env args = .ok i) : run w args = invoke w i := by
  rw [run, h]

/-- What serves is a service that was started. -/
theorem start_of_serve_eq {config : Config} {service : Service} {records : List Entry}
    (h : serve w c = .serving config service records) :
    Service.start w.surroundings w.clientId c = .ok service := by
  cases hstart : Service.start w.surroundings w.clientId c with
  | error e => simp [serve, hstart] at h
  | ok started =>
    simp only [serve, hstart, Outcome.serving.injEq] at h
    rw [h.2.1]

theorem healthPort_of_serving
    (h : Config.load w.surroundings.files i.configPath w.env ⟨i.level, i.healthPort⟩ = .ok c)
    {config : Config} {service : Service} {records : List Entry}
    (hs : invoke w { i with command := .run } = .serving config service records) :
    service.healthPort = c.tracker.healthPort := by
  have hserve : invoke w { i with command := .run } = serve w c := by
    simp only [invoke, invoke.withConfig, h]
  exact Service.start_healthPort (start_of_serve_eq (hserve ▸ hs))

/-- The port that is probed is that of the configuration if the command line gives it, or if the
configuration has the usual one. -/
theorem probedPort_eq_iff
    (h : Config.load w.surroundings.files i.configPath w.env ⟨i.level, i.healthPort⟩ = .ok c) :
    probedPort i none = c.tracker.healthPort ↔
      i.healthPort.isSome ∨ c.tracker.healthPort = defaultHealthPort := by
  have hc := congrArg (·.tracker.healthPort) (Config.withFlags_of_load h)
  cases hp : i.healthPort with
  | none =>
    have hport : probedPort i none = defaultHealthPort := by
      simp only [probedPort, hp]
      rfl
    rw [hport]
    simp [eq_comm]
  | some p =>
    have hport : probedPort i none = p.1 := by
      simp only [probedPort, hp]
      rfl
    rw [hp] at hc
    exact iff_of_true (hport.trans hc) (.inl rfl)

/-- A probe with the options of a service asks the port that the service serves if and only if the
command line gives that port or the service serves the usual one: the configuration is not looked
at. So where nothing else answers, the probe of a healthy service succeeds in these cases and no
other. -/
theorem probe_finds_service_iff {args' : List String} {endpoint : String}
    (hrun : CommandLine.parse w.env args = .ok { i with command := .run })
    (hprobe : CommandLine.parse w.env args' =
      .ok { i with command := .healthcheck endpoint none })
    (hload : Config.load w.surroundings.files i.configPath w.env ⟨i.level, i.healthPort⟩ =
      .ok c) :
    (∀ config service records, run w args = .serving config service records →
      service.healthPort = c.tracker.healthPort) ∧
    run w args' =
      .finished (if Probe.succeeds w.answers endpoint (probedPort i none) then 0 else 1) [] "" ∧
    (probedPort i none = c.tracker.healthPort ↔
      i.healthPort.isSome ∨ c.tracker.healthPort = defaultHealthPort) ∧
    (endpoint ≠ "" →
      (∀ port path, w.answers port path = some 200 ↔ port = c.tracker.healthPort) →
      (run w args' = .finished 0 [] "" ↔
        i.healthPort.isSome ∨ c.tracker.healthPort = defaultHealthPort)) := by
  have hport := probedPort_eq_iff hload
  have hasked : run w args' =
      .finished (if Probe.succeeds w.answers endpoint (probedPort i none) then 0 else 1) [] "" :=
    run_eq hprobe
  refine ⟨fun config service records hs => ?_, hasked, hport, fun hne honly => ?_⟩
  · rw [run_eq hrun] at hs
    exact healthPort_of_serving hload hs
  · have hsucceeds := Probe.succeeds_iff (probedPort i none) hne
      (Config.healthPort_ne_zero_of_load hload) honly
    rw [hasked, ← hport, ← hsucceeds]
    cases Probe.succeeds w.answers endpoint (probedPort i none) <;> simp

/-- A port from the file is served, and the probe asks another one. -/
theorem probe_finds_service_iff_of_file :
    let c : Config :=
      { broker := { host := "broker", port := 1883 }, tracker := { healthPort := 9099 } }
    let w : World :=
      { env := fun _ => none
        surroundings := { files := fun _ => .ok c.toText.toUTF8 }
        answers := fun port _ => if port = 9099 then some 200 else none }
    Config.load w.surroundings.files "config/tracker.toml" w.env {} = .ok c ∧
      run w ["healthcheck"] ≠ .finished 0 [] "" := by
  intro c w
  let i : Invocation := ⟨"config/tracker.toml", none, none, .run⟩
  have hfault : c.fault? = none := by decide
  have hload : Config.load w.surroundings.files "config/tracker.toml" w.env {} = .ok c := by
    rw [Config.load_none (Config.describes_toText rfl), Config.ofFile_toText rfl, hfault,
      Option.elim_none]
  have hrun : CommandLine.parse w.env ["run"] = .ok { i with command := .run } := rfl
  have hprobe : CommandLine.parse w.env ["healthcheck"] =
      .ok { i with command := .healthcheck "/readyz" none } := rfl
  refine ⟨hload, fun hz => ?_⟩
  have hport := ((probe_finds_service_iff hrun hprobe hload).2.2.2 (by decide)
    (by simp [w, c])).mp hz
  exact absurd hport (by decide)

end Program
end SceneRelay
