import SceneRelay.Toml.Scalar
import SceneRelay.Toml.Quoted

/-! Reading configuration text: keys, values, statements, and the document they make up. -/
namespace SceneRelay.Toml

def isInlineBlank (c : Char) : Bool := c == ' ' || c == '\t'

def skipInline (cs : List Char) : List Char := cs.dropWhile isInlineBlank

/-- Blanks, line breaks and comments are passed over; `comment` says that one is being passed. -/
def skipTrivia (comment : Bool) : List Char → Option (List Char)
  | [] => some []
  | '\n' :: cs => skipTrivia false cs
  | '\r' :: '\n' :: cs => skipTrivia false cs
  | c :: cs =>
    if comment then (if isPlain c then skipTrivia true cs else none)
    else if isInlineBlank c then skipTrivia false cs
    else if c = '#' then skipTrivia true cs
    else some (c :: cs)

/-- Blanks and a comment up to the end of the line, which is passed too. -/
def finishLine (comment : Bool) : List Char → Option (List Char)
  | [] => some []
  | '\n' :: cs => some cs
  | '\r' :: '\n' :: cs => some cs
  | c :: cs =>
    if comment then (if isPlain c then finishLine true cs else none)
    else if isInlineBlank c then finishLine false cs
    else if c = '#' then finishLine true cs
    else none

def isBare (c : Char) : Bool := c.isAlphanum || c == '_' || c == '-'

/-- One part of a key: quoted on one line, or bare. -/
def simpleKey? : List Char → Option (String × List Char)
  | '"' :: cs => basicBody [] cs
  | '\'' :: cs => literalBody [] cs
  | cs =>
    let name := cs.takeWhile isBare
    if name.isEmpty then none else some (String.ofList name, cs.dropWhile isBare)

/-- Containers in each other and parts of a key stay below this number. -/
def depthLimit : Nat := 80

/-- The parts of a dotted key, at most `fuel`, and what follows them and blanks. -/
def key? : Nat → List Char → Option (List String × List Char)
  | 0, _ => none
  | fuel + 1, cs => do
    let (name, cs) ← simpleKey? (skipInline cs)
    match skipInline cs with
    | '.' :: cs =>
      let (names, cs) ← key? fuel cs
      return (name :: names, cs)
    | cs => return ([name], cs)

def isScalarChar (c : Char) : Bool := c.isAlphanum || c ∈ ['_', '+', '-', '.', ':']

/-- The characters of a number, a truth value or a time; a date takes a time after a blank. -/
def splitScalar (cs : List Char) : List Char × List Char :=
  let run := cs.takeWhile isScalarChar
  let rest := cs.dropWhile isScalarChar
  match date? run, rest with
  | some [], ' ' :: c :: rest =>
    if c.isDigit then
      (run ++ ' ' :: (c :: rest).takeWhile isScalarChar, (c :: rest).dropWhile isScalarChar)
    else (run, ' ' :: c :: rest)
  | _, _ => (run, rest)

/-- The items of an array after the first bracket or a comma; `fuel` bounds their number. -/
def arrayItems (item : List Char → Option (Toml × List Char)) :
    Nat → List Toml → List Char → Option (List Toml × List Char)
  | 0, _, _ => none
  | fuel + 1, done, cs => do
    match ← skipTrivia false cs with
    | ']' :: cs => return (done.reverse, cs)
    | cs =>
      let (v, cs) ← item cs
      match ← skipTrivia false cs with
      | ',' :: cs => arrayItems item fuel (v :: done) cs
      | ']' :: cs => return ((v :: done).reverse, cs)
      | _ => none

/-- A key, an equals sign and a value. -/
def pair? (item : List Char → Option (Toml × List Char)) (cs : List Char) :
    Option ((List String × Toml) × List Char) := do
  let (path, cs) ← key? (depthLimit - 1) cs
  match cs with
  | '=' :: cs =>
    let (v, cs) ← item (skipInline cs)
    return ((path, v), cs)
  | _ => none

/-- The pairs of an inline table up to its closing brace, which no comma may precede. -/
def inlinePairs (item : List Char → Option (Toml × List Char)) :
    Nat → List (List String × Toml) → List Char → Option (List (List String × Toml) × List Char)
  | 0, _, _ => none
  | fuel + 1, done, cs => do
    let (p, cs) ← pair? item cs
    match skipInline cs with
    | ',' :: cs => inlinePairs item fuel (p :: done) cs
    | '}' :: cs => return ((p :: done).reverse, cs)
    | _ => none

/-- A value with at most `depth` containers in each other, and what follows it. -/
def value? : Nat → List Char → Option (Toml × List Char)
  | depth, cs =>
    match cs with
    | '"' :: _ => (quoted? cs).map fun (s, cs) => (.string s, cs)
    | '\'' :: _ => (quoted? cs).map fun (s, cs) => (.string s, cs)
    | '[' :: cs =>
      match depth with
      | 0 => none
      | depth + 1 =>
        (arrayItems (value? depth) (cs.length + 1) [] cs).map fun (items, cs) => (.array items, cs)
    | '{' :: cs =>
      match depth with
      | 0 => none
      | depth + 1 =>
        match skipInline cs with
        | '}' :: cs => some (.table .inline [], cs)
        | _ => do
          let (pairs, cs) ← inlinePairs (value? depth) (cs.length + 1) [] cs
          let v ← ofPairs? pairs
          return (v, cs)
    | cs =>
      let (run, rest) := splitScalar cs
      (scalar? run).map fun v => (v, rest)

/-- A header between brackets that are already open, with `close` still to come. -/
def headerPath? (close : List Char) (cs : List Char) : Option (List String × List Char) := do
  let (path, cs) ← key? (depthLimit - 1) cs
  if close.isPrefixOf cs then return (path, cs.drop close.length) else none

/-- One statement, without the end of its line. -/
def statement? : List Char → Option (Statement × List Char)
  | '[' :: '[' :: cs => (headerPath? [']', ']'] cs).map fun (path, cs) => (.element path, cs)
  | '[' :: cs => (headerPath? [']'] cs).map fun (path, cs) => (.header path, cs)
  | cs => (pair? (value? (depthLimit - 1)) cs).map fun (p, cs) => (.assignment p.1 p.2, cs)

/-- The statements of a text, at most `fuel`. -/
def statements? : Nat → List Char → Option (List Statement)
  | 0, _ => none
  | fuel + 1, cs => do
    match ← skipTrivia false cs with
    | [] => return []
    | cs =>
      let (s, cs) ← statement? cs
      let cs ← finishLine false cs
      return s :: (← statements? fuel cs)

/-- A byte order mark at the start does not count. -/
def skipMark : List Char → List Char
  | '\ufeff' :: cs => cs
  | cs => cs

/-- The top table of a document. -/
def parse? (text : String) : Option Entries := do
  let cs := skipMark text.toList
  ofStatements? (← statements? (cs.length + 1) cs)

end SceneRelay.Toml
