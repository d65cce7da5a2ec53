import SceneRelay.Config.Load
import SceneRelay.Log.Filter
import SceneRelay.Text.Digits

/-! Command lines: a command with its options, and options that may stand before or after it. -/
namespace SceneRelay

/-- A port that a service without privileges may serve on. -/
abbrev HealthPort := { port : UInt16 // Config.minHealthPort ≤ port }

/-- What the program is to do. -/
inductive Command where
  | run
  | healthcheck (endpoint : String) (port : Option UInt16)
  | config (shown : Bool)
  deriving DecidableEq, Repr

/-- A command line that was understood. -/
structure Invocation where
  configPath : String
  level : Option LogLevel
  healthPort : Option HealthPort
  command : Command
  deriving DecidableEq, Repr

/-- Why a command line is no invocation. -/
inductive Stop where
  | usage
  | version
  | help
  deriving DecidableEq, Repr

namespace CommandLine

inductive Flag where
  | config
  | logLevel
  | healthPort
  | endpoint
  | port
  | shown
  | version
  | help
  deriving DecidableEq, Repr

namespace Flag

def long : Flag → String
  | config => "config"
  | logLevel => "log-level"
  | healthPort => "healthcheck-port"
  | endpoint => "endpoint"
  | port => "port"
  | shown => "show"
  | version => "version"
  | help => "help"

def short? : Flag → Option Char
  | config => some 'c'
  | logLevel => some 'l'
  | version => some 'V'
  | help => some 'h'
  | _ => none

def takesValue : Flag → Bool
  | config | logLevel | healthPort | endpoint | port => true
  | shown | version | help => false

end Flag

/-- The flags that every command takes. -/
def sharedFlags : List Flag := [.config, .logLevel, .healthPort, .help]

/-- The options read before or after the name of a command. -/
structure Options where
  config : Option String := none
  logLevel : Option LogLevel := none
  healthPort : Option HealthPort := none
  endpoint : Option String := none
  port : Option UInt16 := none
  shown : Bool := false
  deriving DecidableEq, Repr

/-- A whole number with an optional sign. -/
def integer? (s : String) : Option Int :=
  let value? (digits : List Char) : Option Nat :=
    if digits ≠ [] ∧ digits.all Char.isDigit then some (Text.decimalValue digits) else none
  match s.toList with
  | '-' :: digits => (value? digits).map fun n => -(n : Int)
  | '+' :: digits => (value? digits).map Int.ofNat
  | digits => (value? digits).map Int.ofNat

def port? (s : String) : Option UInt16 :=
  (integer? s).bind fun n => if 0 ≤ n ∧ n < 65536 then some n.toNat.toUInt16 else none

def healthPort? (s : String) : Option HealthPort :=
  (port? s).bind fun p => if h : Config.minHealthPort ≤ p then some ⟨p, h⟩ else none

/-- A level, its name in small letters. -/
def logLevel? (s : String) : Option LogLevel := LogLevel.all.find? (·.setting = s)

def configPath? (s : String) : Option String := if s = "" then none else some s

/-- An option that was not there yet. -/
def once (old : Option α) (value : Option α) : Except Stop (Option α) :=
  if old.isSome ∨ value.isNone then .error .usage else .ok value

/-- The options with one more flag; a flag can be given once. -/
def Options.set (o : Options) (f : Flag) (value : String) : Except Stop Options :=
  match f with
  | .config => do
    let config ← once o.config (configPath? value)
    return { o with config }
  | .logLevel => do
    let logLevel ← once o.logLevel (logLevel? value)
    return { o with logLevel }
  | .healthPort => do
    let healthPort ← once o.healthPort (healthPort? value)
    return { o with healthPort }
  | .endpoint => do
    let endpoint ← once o.endpoint (some value)
    return { o with endpoint }
  | .port => do
    let port ← once o.port (port? value)
    return { o with port }
  | .shown => if o.shown then .error .usage else .ok { o with shown := true }
  | .version => .error .version
  | .help => .error .help

/-- The options read so far, and the flag that still waits for its value. -/
abbrev Reading := Options × Option Flag

/-- A flag by its long name, with its value after an equals sign if it is given there. -/
def readLong (flags : List Flag) (o : Options) (name : List Char) : Except Stop Reading :=
  let before := name.takeWhile (· ≠ '=')
  match flags.find? (·.long.toList = before), name.drop before.length with
  | none, _ => .error .usage
  | some f, [] =>
    if f.takesValue then .ok (o, some f)
    else do
      let o ← o.set f ""
      return (o, none)
  | some f, _ :: value =>
    if f.takesValue then do
      let o ← o.set f (String.ofList value)
      return (o, none)
    else .error .usage

/-- Flags by their letters; what follows the letter of one that takes a value is the value. -/
def readShort (flags : List Flag) (o : Options) : List Char → Except Stop Reading
  | [] => .ok (o, none)
  | c :: cs =>
    match flags.find? (·.short? = some c) with
    | none => .error .usage
    | some f =>
      if f.takesValue then
        match cs with
        | [] => .ok (o, some f)
        | '=' :: value => do
          let o ← o.set f (String.ofList value)
          return (o, none)
        | value => do
          let o ← o.set f (String.ofList value)
          return (o, none)
      else do
        let o ← o.set f ""
        readShort flags o cs

/-- Reads options up to the first word that is none, and gives that word with what follows it. -/
def readOptions (flags : List Flag) :
    Reading → List String → Except Stop (Options × Option (String × List String))
  | (o, none), [] => .ok (o, none)
  | (_, some _), [] => .error .usage
  | (o, some f), arg :: rest =>
    match arg.toList with
    | '-' :: _ :: _ => .error .usage
    | _ => do
      let o ← o.set f arg
      readOptions flags (o, none) rest
  | (o, none), arg :: rest =>
    match arg.toList with
    | ['-', '-'] => if rest.isEmpty then .ok (o, none) else .error .usage
    | '-' :: '-' :: name => do
      let reading ← readLong flags o name
      readOptions flags reading rest
    | '-' :: c :: cs => do
      let reading ← readShort flags o (c :: cs)
      readOptions flags reading rest
    | _ => .ok (o, some (arg, rest))

/-- Reads the options of a command, after which nothing may follow. -/
def readCommand (flags : List Flag) (args : List String) : Except Stop Options := do
  match ← readOptions (sharedFlags ++ flags) ({}, none) args with
  | (o, none) => return o
  | (_, some _) => .error .usage

def defaultEndpoint : String := "/readyz"

/-- A command by its name, with the options that follow the name. -/
def command (name : String) (args : List String) : Except Stop (Options × Command) :=
  match name with
  | "run" => do
    let o ← readCommand [] args
    return (o, .run)
  | "healthcheck" => do
    let o ← readCommand [.endpoint, .port] args
    return (o, .healthcheck (o.endpoint.getD defaultEndpoint) o.port)
  | "config" => do
    let o ← readCommand [.shown] args
    return (o, .config o.shown)
  | "help" =>
    match args with
    | [] => .error .help
    | [topic] =>
      .error (if topic ∈ ["run", "healthcheck", "config", "help"] then .help else .usage)
    | _ => .error .usage
  | _ => .error .usage

/-- A variable in place of an option; one that is set must have a good value. -/
def fromEnvironment (env : Environment) (name : String) (read : String → Option α) :
    Except Stop (Option α) :=
  match env name with
  | none => .ok none
  | some value => (read value).elim (.error .usage) fun a => .ok (some a)

/-- The value of an option that may stand before the command (`outer`) and after it (`inner`, none if
there is no command): the inner one wins. The variable is read unless both places have a value. -/
def effective (env : Environment) (name : String) (read : String → Option α)
    (outer : Option α) (inner : Option (Option α)) : Except Stop (Option α) :=
  let given := (inner.bind id).or outer
  if outer.isSome ∧ inner.all Option.isSome then .ok given
  else do
    let fallback ← fromEnvironment env name read
    return given.or fallback

def defaultConfigPath : String := "config/tracker.toml"

/-- Understands a command line; without a command the service runs. -/
def parse (env : Environment) (args : List String) : Except Stop Invocation := do
  let (outer, rest) ← readOptions (.version :: sharedFlags) ({}, none) args
  let inner ← rest.mapM fun r => command r.1 r.2
  let options := inner.map (·.1)
  let path ← effective env "TRACKER_CONFIG" configPath? outer.config (options.map (·.config))
  let level ← effective env "LOG_LEVEL" logLevel? outer.logLevel (options.map (·.logLevel))
  let healthPort ←
    effective env "HEALTHCHECK_PORT" healthPort? outer.healthPort (options.map (·.healthPort))
  return { configPath := path.getD defaultConfigPath, level, healthPort,
           command := (inner.map (·.2)).getD .run }

end CommandLine
end SceneRelay
