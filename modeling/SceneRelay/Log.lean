/-! Log records: a level, a message, and named values beside it. -/
namespace SceneRelay

inductive LogLevel where
  | trace
  | debug
  | info
  | warn
  | error
  deriving DecidableEq, Repr

def LogLevel.name : LogLevel → String
  | trace => "TRACE"
  | debug => "DEBUG"
  | info => "INFO"
  | warn => "WARN"
  | error => "ERROR"

/-- A level as it is written in settings. -/
def LogLevel.setting (l : LogLevel) : String := l.name.map Char.toLower

/-- Information, warnings and errors are for the operator, the rest for developers. -/
def LogLevel.isReported : LogLevel → Bool
  | trace | debug => false
  | info | warn | error => true

inductive LogValue where
  | text (s : String)
  | number (n : Nat)
  | flag (b : Bool)
  deriving DecidableEq, Repr

structure LogRecord where
  level : LogLevel
  message : String
  fields : List (String × LogValue) := []
  deriving DecidableEq, Repr

end SceneRelay
