import SceneRelay.Log

/-! Which log records are written: levels by target, and the forms of a line. -/
namespace SceneRelay

namespace LogLevel

def all : List LogLevel := [trace, debug, info, warn, error]

/-- The more a level is about details, the higher. -/
def verbosity : LogLevel → Nat
  | error => 1
  | warn => 2
  | info => 3
  | debug => 4
  | trace => 5

/-- The level of a name in letters of either case. -/
def ofName? (s : String) : Option LogLevel :=
  all.find? fun l => l.setting = s.map Char.toLower

/-- The level of a setting; a name that is unknown stands for information. -/
def ofSetting (s : String) : LogLevel := (ofName? s).getD info

end LogLevel

/-- The forms in which log records are written. -/
inductive LogFormat where
  | json
  | pretty
  | compact
  deriving DecidableEq, Repr

namespace LogFormat

def name : LogFormat → String
  | json => "Json"
  | pretty => "Pretty"
  | compact => "Compact"

/-- The form of a setting, in letters of either case; every other name stands for JSON. -/
def ofSetting (s : String) : LogFormat :=
  match s.map Char.toLower with
  | "pretty" => pretty
  | "compact" => compact
  | _ => json

end LogFormat

/-- Records of targets that begin with `target` are written up to a level, or not at all. -/
structure LogDirective where
  target : List Char
  level : Option LogLevel
  deriving DecidableEq, Repr

/-- Directives of which the one with the longest target counts. -/
structure LogFilter where
  directives : List LogDirective
  deriving DecidableEq, Repr

namespace LogFilter

/-- Libraries that say too much below warnings. -/
def quietTargets : List String := ["rumqttc", "warp", "hyper", "tokio"]

/-- The text of the filter for a level. -/
def textFor (level : LogLevel) : String :=
  quietTargets.foldl (fun text target => s!"{text},{target}=warn") level.setting

/-- A level by name or number; none inside if nothing is written. -/
def level? (s : List Char) : Option (Option LogLevel) :=
  match (String.ofList s).map Char.toLower with
  | "off" | "0" => some none
  | "1" => some (some .error)
  | "2" => some (some .warn)
  | "3" => some (some .info)
  | "4" => some (some .debug)
  | "5" => some (some .trace)
  | name => (LogLevel.ofName? name).map some

def isTarget (s : List Char) : Bool :=
  !s.isEmpty && s.all fun c => c.isAlphanum || c = '_' || c = ':' || c = '-'

/-- A level for all targets, a target with its level, or a target of which everything is written. -/
def directive? (s : List Char) : Option LogDirective :=
  match level? s with
  | some level => some ⟨[], level⟩
  | none =>
    let target := s.takeWhile (· ≠ '=')
    if !isTarget target then none
    else
      match s.drop target.length with
      | [] | ['='] => some ⟨target, some .trace⟩
      | _ :: level => (level? level).map (⟨target, ·⟩)

/-- The filter of a text: directives with commas between them. Those that are not well formed do not
count; without any, only errors are written. -/
def ofText (s : String) : LogFilter :=
  match (s.splitOn ",").filterMap fun part => directive? part.toList with
  | [] => ⟨[⟨[], some .error⟩]⟩
  | directives => ⟨directives⟩

/-- The better of two directives: the one with the longer target, of equals the later. -/
def better (a b : LogDirective) : LogDirective :=
  if a.target.length ≤ b.target.length then b else a

/-- The directive for a target, if there is one. -/
def find? (f : LogFilter) (target : String) : Option LogDirective :=
  match f.directives.filter fun d => d.target.isPrefixOf target.toList with
  | [] => none
  | d :: ds => some (ds.foldl better d)

def admits (f : LogFilter) (target : String) (level : LogLevel) : Bool :=
  ((f.find? target).bind (·.level)).any fun l => level.verbosity ≤ l.verbosity

/-- The filter that the environment asks for, otherwise the one for a level. -/
def chosen (asked : Option String) (level : LogLevel) : LogFilter :=
  ofText ((asked.filter (· ≠ "")).getD (textFor level))

/-- The record that tells of a second installation of logging, which changes nothing. -/
def reinstalled : LogRecord := ⟨.debug, "Global subscriber already installed", []⟩

end LogFilter
end SceneRelay
