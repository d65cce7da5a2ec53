import SceneRelay.Config.Validation
import SceneRelay.Proofs.Config.Reading

/-! The variables of the environment, each with the setting that it replaces, and what it means that
settings from variables are put over a configuration. -/
namespace SceneRelay

attribute [ext] TlsSettings BrokerSettings TrackerSettings LoggingSettings Config

namespace Config

/-- A variable that replaces a setting. -/
inductive Variable where
  | level
  | healthPort
  | host
  | port
  | insecure
  | schemaValidation
  | verifyServer
  | caCert
  | clientCert
  | clientKey
  deriving DecidableEq, Repr

/-- The settings for encryption; a section that is not there has those that go without saying. -/
def encryption (c : Config) : TlsSettings := c.broker.tls.getD {}

namespace Variable

def name : Variable → String
  | level => "TRACKER_LOG_LEVEL"
  | healthPort => "TRACKER_HEALTHCHECK_PORT"
  | host => "TRACKER_MQTT_HOST"
  | port => "TRACKER_MQTT_PORT"
  | insecure => "TRACKER_MQTT_INSECURE"
  | schemaValidation => "TRACKER_MQTT_SCHEMA_VALIDATION"
  | verifyServer => "TRACKER_MQTT_TLS_VERIFY_SERVER"
  | caCert => "TRACKER_MQTT_TLS_CA_CERT"
  | clientCert => "TRACKER_MQTT_TLS_CLIENT_CERT"
  | clientKey => "TRACKER_MQTT_TLS_CLIENT_KEY"

/-- The variables that replace one setting each, at once. -/
def plain : List Variable := [level, healthPort, host, port, insecure, schemaValidation]

/-- The variables whose settings change together, the one that can be malformed first. -/
def forTls : List Variable := [verifyServer, caCert, clientCert, clientKey]

/-- All variables, in the order in which a malformed one is noticed. -/
def all : List Variable := plain ++ forTls

/-- The text is one that the variable may have. -/
def Admits : Variable → String → Prop
  | level, value => ∃ l, IsLevel value l
  | healthPort, value => ∃ p, IsPort minHealthPort value p
  | port, value => ∃ p, IsPort 1 value p
  | insecure, value | schemaValidation, value | verifyServer, value => ∃ b, IsFlag value b
  | host, _ | caCert, _ | clientCert, _ | clientKey, _ => True

/-- The setting of the variable is what the text stands for. -/
def Holds : Variable → String → Config → Prop
  | level, value, c => IsLevel value c.logging.level
  | healthPort, value, c => IsPort minHealthPort value c.tracker.healthPort
  | host, value, c => c.broker.host = value
  | port, value, c => IsPort 1 value c.broker.port
  | insecure, value, c => IsFlag value c.broker.insecure
  | schemaValidation, value, c => IsFlag value c.tracker.schemaValidation
  | verifyServer, value, c => IsFlag value c.encryption.verifyServer
  | caCert, value, c => c.encryption.caCert = some value
  | clientCert, value, c => c.encryption.clientCert = some value
  | clientKey, value, c => c.encryption.clientKey = some value

/-- The setting of the variable is the same in both configurations. -/
def Keeps : Variable → Config → Config → Prop
  | level, c, d => d.logging.level = c.logging.level
  | healthPort, c, d => d.tracker.healthPort = c.tracker.healthPort
  | host, c, d => d.broker.host = c.broker.host
  | port, c, d => d.broker.port = c.broker.port
  | insecure, c, d => d.broker.insecure = c.broker.insecure
  | schemaValidation, c, d => d.tracker.schemaValidation = c.tracker.schemaValidation
  | verifyServer, c, d => d.encryption.verifyServer = c.encryption.verifyServer
  | caCert, c, d => d.encryption.caCert = c.encryption.caCert
  | clientCert, c, d => d.encryption.clientCert = c.encryption.clientCert
  | clientKey, c, d => d.encryption.clientKey = c.encryption.clientKey

/-- The variable is set, to a text that it may not have. -/
def Malformed (env : Environment) (v : Variable) : Prop :=
  ∃ value, env.get? v.name = some value ∧ ¬v.Admits value

variable {v : Variable} {value : String} {c d e : Config}

theorem mem_all (v : Variable) : v ∈ all := by cases v <;> decide

theorem Holds.admits (h : v.Holds value c) : v.Admits value := by
  cases v
  case host | caCert | clientCert | clientKey => trivial
  all_goals exact ⟨_, h⟩

theorem Keeps.refl (v : Variable) (c : Config) : v.Keeps c c := by cases v <;> rfl

theorem Keeps.symm (h : v.Keeps c d) : v.Keeps d c := by cases v <;> exact Eq.symm h

theorem Keeps.trans (h : v.Keeps c d) (h' : v.Keeps d e) : v.Keeps c e := by
  cases v <;> exact Eq.trans h' h

theorem Holds.of_keeps (h : v.Holds value c) (h' : v.Keeps c d) : v.Holds value d := by
  cases v <;> simp only [Holds, Keeps] at h h' ⊢ <;> rwa [h']

/-- A text stands for one setting only. -/
theorem Holds.keeps (hc : v.Holds value c) (hd : v.Holds value d) : v.Keeps c d := by
  cases v
  case level => exact hc.unique hd
  case healthPort | port => exact hc.unique hd
  case insecure | schemaValidation | verifyServer => exact hc.unique hd
  all_goals exact hd.trans hc.symm

end Variable

/-- The settings for encryption, and whether they are there, make up their section. -/
theorem tls_eq_of_encryption_eq {c d : Config} (h : d.encryption = c.encryption)
    (hsome : d.broker.tls.isSome ↔ c.broker.tls.isSome) : d.broker.tls = c.broker.tls := by
  unfold encryption at h
  cases hc : c.broker.tls <;> cases hd : d.broker.tls <;> simp_all

/-- Two configurations with the same settings of all variables are the same, but for what no
variable replaces. -/
theorem eq_of_keeps {c d : Config} (h : ∀ v : Variable, v.Keeps c d)
    (hdir : d.tracker.schemaDir = c.tracker.schemaDir)
    (hformat : d.logging.format = c.logging.format)
    (hsome : d.broker.tls.isSome ↔ c.broker.tls.isSome) : d = c := by
  have hencryption : d.encryption = c.encryption :=
    TlsSettings.ext (h .caCert) (h .clientCert) (h .clientKey) (h .verifyServer)
  have hbroker : d.broker = c.broker :=
    BrokerSettings.ext (h .host) (h .port) (h .insecure) (tls_eq_of_encryption_eq hencryption hsome)
  have htracker : d.tracker = c.tracker :=
    TrackerSettings.ext (h .schemaValidation) hdir (h .healthPort)
  exact Config.ext hbroker htracker (LoggingSettings.ext (h .level) hformat)

/-- The texts of the given variables that an environment sets. -/
def given (env : Environment) (vs : List Variable) (v : Variable) : Option String :=
  if v ∈ vs then env.get? v.name else none

theorem given_eq_some_iff {env : Environment} {vs : List Variable} {v : Variable} {value : String} :
    given env vs v = some value ↔ v ∈ vs ∧ env.get? v.name = some value := by
  simp [given]

theorem given_eq_none_iff {env : Environment} {vs : List Variable} {v : Variable} :
    given env vs v = none ↔ (v ∈ vs → env.get? v.name = none) := by
  simp [given]

/-- `d` is `c` with the settings of the given variables put over its own: each holds what its text
stands for, those of all other variables stay, and the settings for encryption are there if they
were or one of their variables is given. -/
structure Overlaid (given : Variable → Option String) (c d : Config) : Prop where
  holds : ∀ v value, given v = some value → v.Holds value d
  keeps : ∀ v, given v = none → v.Keeps c d
  schemaDir : d.tracker.schemaDir = c.tracker.schemaDir
  format : d.logging.format = c.logging.format
  tls : d.broker.tls.isSome ↔ c.broker.tls.isSome ∨ ∃ v ∈ Variable.forTls, (given v).isSome

namespace Overlaid
variable {g h : Variable → Option String} {c d e : Config} {env : Environment}
  {vs ws : List Variable} {v : Variable} {value : String}

theorem of_none (hg : ∀ v, g v = none) (c : Config) : Overlaid g c c where
  holds v value hv := by rw [hg] at hv; nomatch hv
  keeps v _ := .refl v c
  schemaDir := rfl
  format := rfl
  tls := by simp [hg]

/-- Settings put over others hide what these hold of the same variables. -/
theorem trans (hcd : Overlaid g c d) (hde : Overlaid h d e) :
    Overlaid (fun v => (h v).or (g v)) c e where
  holds v value hv := by
    obtain hh | ⟨hh, hg⟩ := Option.or_eq_some_iff.mp hv
    · exact hde.holds v value hh
    · exact (hcd.holds v value hg).of_keeps (hde.keeps v hh)
  keeps v hv := by
    obtain ⟨hh, hg⟩ := Option.or_eq_none_iff.mp hv
    exact (hcd.keeps v hg).trans (hde.keeps v hh)
  schemaDir := hde.schemaDir.trans hcd.schemaDir
  format := hde.format.trans hcd.format
  tls := by
    rw [hde.tls, hcd.tls]
    simp only [Option.isSome_or, Bool.or_eq_true, and_or_left, exists_or]
    exact or_assoc.trans (or_congr_right or_comm)

/-- The given texts and what they are put over determine the outcome. -/
theorem unique (hd : Overlaid g c d) (he : Overlaid g c e) : e = d := by
  refine eq_of_keeps (fun v => ?_) (he.schemaDir.trans hd.schemaDir.symm)
    (he.format.trans hd.format.symm) (he.tls.trans hd.tls.symm)
  cases hv : g v with
  | none => exact (hd.keeps v hv).symm.trans (he.keeps v hv)
  | some value => exact (hd.holds v value hv).keeps (he.holds v value hv)

/-- Without a variable for encryption its settings stay as they are. -/
theorem tls_eq (h : Overlaid g c d) (hg : ∀ v ∈ Variable.forTls, g v = none) :
    d.broker.tls = c.broker.tls := by
  have hkeeps (v : Variable) (hv : v ∈ Variable.forTls) : v.Keeps c d := h.keeps v (hg v hv)
  refine tls_eq_of_encryption_eq (TlsSettings.ext (hkeeps .caCert (by decide))
    (hkeeps .clientCert (by decide)) (hkeeps .clientKey (by decide))
    (hkeeps .verifyServer (by decide))) (h.tls.trans (or_iff_left ?_))
  rintro ⟨v, hv, hsome⟩
  rw [hg v hv] at hsome
  nomatch hsome

theorem append (hcd : Overlaid (given env vs) c d) (hde : Overlaid (given env ws) d e) :
    Overlaid (given env (vs ++ ws)) c e := by
  have hgiven : given env (vs ++ ws) = fun v => (given env ws v).or (given env vs v) := by
    funext v
    by_cases hv : v ∈ vs <;> by_cases hw : v ∈ ws <;> simp [given, hv, hw]
  rw [hgiven]
  exact hcd.trans hde

end Overlaid

end Config
end SceneRelay
