import SceneRelay.Toml

/-! Writing configuration text: the plainest quoted form that a string allows, a blank line before
each further header. -/
namespace SceneRelay.Toml

/-- What decides the form of a string: its longest runs of quotes, backslashes, line breaks, and
other control characters than tab. -/
structure Traits where
  doubles : Nat
  singles : Nat
  backslash : Bool
  lineBreak : Bool
  control : Bool

/-- The length of the longest run of `q`, the run before the text being `now` long. -/
def longestRun (q : Char) (now : Nat) : List Char → Nat
  | [] => now
  | c :: cs => if c = q then longestRun q (now + 1) cs else max now (longestRun q 0 cs)

/-- Control characters of ASCII; tab and line break are looked at apart. -/
def isControl (c : Char) : Bool := (c < ' ' && c ≠ '\t' && c ≠ '\n') || c == '\x7f'

def traits (cs : List Char) : Traits where
  doubles := longestRun '"' 0 cs
  singles := longestRun '\'' 0 cs
  backslash := cs.contains '\\'
  lineBreak := cs.contains '\n'
  control := cs.any isControl

def hexUpper (n : Nat) : Char := (Nat.digitChar n).toUpper

/-- The written form of a character in a double-quoted string, quotes and line breaks apart. -/
def escapeChar (c : Char) : List Char :=
  match c with
  | '\x08' => ['\\', 'b']
  | '\t' => ['\\', 't']
  | '\x0c' => ['\\', 'f']
  | '\r' => ['\\', 'r']
  | '\\' => ['\\', '\\']
  | c =>
    if isControl c then ['\\', 'u', '0', '0', hexUpper (c.toNat / 16), hexUpper (c.toNat % 16)]
    else [c]

/-- The characters between double quotes. On several lines two quotes in a row stand for
themselves and the third is escaped; `run` counts the quotes before. -/
def escaped (lines : Bool) : Nat → List Char → List Char
  | _, [] => []
  | run, '"' :: cs =>
    if lines ∧ run < 2 then '"' :: escaped lines (run + 1) cs
    else '\\' :: '"' :: escaped lines 0 cs
  | _, '\n' :: cs => (if lines then ['\n'] else ['\\', 'n']) ++ escaped lines 0 cs
  | _, c :: cs => escapeChar c ++ escaped lines 0 cs

/-- Three quotes on both sides, a line break after the first ones if there is one inside. -/
def inLines (q : Char) (lineBreak : Bool) (body : List Char) : List Char :=
  q :: q :: q :: ((if lineBreak then ['\n'] else []) ++ body ++ [q, q, q])

/-- The written form of a string. -/
def renderString (s : String) : List Char :=
  let cs := s.toList
  let t := traits cs
  if !t.control && !t.backslash && t.doubles = 0 && !t.lineBreak then
    '"' :: (escaped false 0 cs ++ ['"'])
  else if !t.control && t.singles = 0 && !t.lineBreak then '\'' :: (cs ++ ['\''])
  else if !t.control && !t.backslash && t.doubles ≤ 2 then
    inLines '"' t.lineBreak (escaped true 0 cs)
  else if !t.control && t.singles ≤ 2 then inLines '\'' t.lineBreak cs
  else if t.lineBreak then inLines '"' true (escaped true 0 cs)
  else '"' :: (escaped false 0 cs ++ ['"'])

/-- The written form of a value that a configuration has. -/
def renderValue : Toml → List Char
  | .string s => renderString s
  | .integer n => (toString n).toList
  | .boolean b => if b then "true".toList else "false".toList
  | _ => []

/-- Parts of a key that need no quotes. -/
def renderPath (path : List String) : List Char := (".".intercalate path).toList

def renderStatement : Statement → List Char
  | .header path => '[' :: (renderPath path ++ [']', '\n'])
  | .element path => '[' :: '[' :: (renderPath path ++ [']', ']', '\n'])
  | .assignment path v => renderPath path ++ [' ', '=', ' '] ++ renderValue v ++ ['\n']

/-- A section of a document: a header and its assignments. -/
def renderSection (path : List String) (pairs : List (String × Toml)) : List Char :=
  renderStatement (.header path) ++
    pairs.flatMap fun p => renderStatement (.assignment [p.1] p.2)

end SceneRelay.Toml
