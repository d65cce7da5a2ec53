import SceneRelay.CommandLine
import SceneRelay.Config.Printer
import SceneRelay.Service

/-! The program: what each command line does, and what it leaves on standard output. -/
namespace SceneRelay

/-- How the program ends, or that it goes on as a service; the records are those that it writes. -/
inductive Outcome where
  | finished (exitCode : Nat) (records : List Entry) (output : String)
  | serving (config : Config) (service : Service) (records : List Entry)

/-- What a program finds in the world when it starts. -/
structure World where
  env : Environment
  surroundings : Surroundings
  answers : Probe.Answers := Probe.noAnswer
  clientId : String := "tracker"

/-- The line of a record. -/
def Entry.toJson (e : Entry) : Json :=
  let value : LogValue → Json
    | .text s => .string s
    | .number n => .number (.integer n)
    | .flag b => .bool b
  let fields := ("message", .string e.record.message) ::
    e.record.fields.map fun f => (f.1, value f.2)
  .object [("level", .string e.record.level.name), ("fields", .object fields),
    ("target", .string e.target)]

namespace Program

/-- The variables that mean something to the program. -/
def variableNames : List String :=
  ["TRACKER_CONFIG", "LOG_LEVEL", "HEALTHCHECK_PORT", "RUST_LOG"] ++
    Config.overrides.map Config.Override.name ++ Config.tlsVariables

/-- The files that a configuration names. -/
def pathsOf (c : Config) : List String :=
  (c.broker.tls.elim [] fun t => [t.caCert, t.clientCert, t.clientKey].filterMap id) ++
    [Schema.cameraFile, Schema.sceneFile].map (Validators.inDirectory c.tracker.schemaDir)

def defaultHealthPort : UInt16 := 8080

/-- The records of those that a filter lets pass; only JSON lines are records. -/
def written (w : World) (level : LogLevel) (format : LogFormat) (entries : List Entry) :
    List Entry :=
  let filter := LogFilter.chosen (w.env "RUST_LOG") level
  if format = .json then entries.filter fun e => filter.admits e.target e.record.level else []

def finishEntry : Entry := Service.entry .info "Application shutdown complete" []

def errorEntry (message : String) : Entry := Service.entry .error message []

/-- The port that is asked for the health of a service: one of the options, not that of a file. -/
def probedPort (i : Invocation) (port : Option UInt16) : UInt16 :=
  (port.or (i.healthPort.map (·.1))).getD defaultHealthPort

/-- Asks a running service for its health. -/
def healthcheck (w : World) (i : Invocation) (endpoint : String) (port : Option UInt16) : Outcome :=
  .finished (if Probe.succeeds w.answers endpoint (probedPort i port) then 0 else 1) [] ""

/-- The records of a configuration's own level and form. -/
def writtenFor (w : World) (c : Config) : List Entry → List Entry :=
  written w (.ofSetting c.logging.level) (.ofSetting c.logging.format)

/-- Tells that a configuration is good, and shows it if that is asked for. -/
def showConfig (w : World) (c : Config) (shown : Bool) : Outcome :=
  .finished 0
    (writtenFor w c [Service.entry .info "Configuration validation complete" [], finishEntry])
    (if shown then s!"Effective configuration:\n{c.toText}\n" else "")

/-- Starts the service. -/
def serve (w : World) (c : Config) : Outcome :=
  let entries := Service.startEntries w.surroundings c
  match Service.start w.surroundings w.clientId c with
  | .error e =>
    .finished 1 (writtenFor w c (entries ++ [errorEntry s!"Command failed: {e.message}"])) ""
  | .ok service => .serving c service (writtenFor w c (entries ++ [Service.runningEntry]))

/-- The records of a service that ends on a signal, once its link is closed. -/
def ended (w : World) (c : Config) (signal : Signal) (stats : LinkStats) : List Entry :=
  writtenFor w c [Service.signalEntry signal, Service.closedEntry stats, finishEntry]

/-- Runs what was asked for. -/
def invoke (w : World) (i : Invocation) : Outcome :=
  match i.command with
  | .healthcheck endpoint port => healthcheck w i endpoint port
  | .config shown => withConfig fun c => showConfig w c shown
  | .run => withConfig (serve w)
where
  withConfig (next : Config → Outcome) : Outcome :=
    match Config.load w.surroundings.files i.configPath w.env ⟨i.level, i.healthPort⟩ with
    | .ok c => next c
    | .error e =>
      .finished 1
        (written w (i.level.getD .info) .json
          [errorEntry s!"Failed to load configuration: Configuration error: {e.message}"]) ""

/-- Runs a command line. -/
def run (w : World) (args : List String) : Outcome :=
  match CommandLine.parse w.env args with
  | .error .usage => .finished 2 [] ""
  | .error .version => .finished 0 [] s!"tracker {Service.version}\n"
  | .error .help => .finished 0 [] ""
  | .ok i => invoke w i

end Program
end SceneRelay
