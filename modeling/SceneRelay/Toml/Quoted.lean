import SceneRelay.Text.Digits

/-! The four quoted forms of a string, with one quote or three of either kind, and their reading. -/
namespace SceneRelay.Toml

/-- Characters that may stand for themselves on a line. -/
def isPlain (c : Char) : Bool := c == '\t' || (' ' ≤ c && c ≠ '\x7f')

/-- The character that a one-letter escape stands for. -/
def unescape? : Char → Option Char
  | 'b' => some '\x08'
  | 't' => some '\t'
  | 'n' => some '\n'
  | 'f' => some '\x0c'
  | 'r' => some '\r'
  | '"' => some '"'
  | '\\' => some '\\'
  | _ => none

/-- The character with a code point written in hexadecimal digits. -/
def codePoint? (digits : List Char) : Option Char := do
  let n ← Text.hexNumber? digits
  if n.isValidChar then some (Char.ofNat n) else none

/-- The rest of a string in double quotes, with the characters of `done` in reverse before it. -/
def basicBody (done : List Char) : List Char → Option (String × List Char)
  | [] => none
  | '"' :: rest => some (String.ofList done.reverse, rest)
  | '\\' :: 'u' :: a :: b :: c :: d :: rest =>
    match codePoint? [a, b, c, d] with
    | some x => basicBody (x :: done) rest
    | none => none
  | '\\' :: 'U' :: a :: b :: c :: d :: e :: f :: g :: h :: rest =>
    match codePoint? [a, b, c, d, e, f, g, h] with
    | some x => basicBody (x :: done) rest
    | none => none
  | '\\' :: e :: rest =>
    match unescape? e with
    | some c => basicBody (c :: done) rest
    | none => none
  | c :: rest => if isPlain c then basicBody (c :: done) rest else none

/-- The rest of a string in single quotes. -/
def literalBody (done : List Char) : List Char → Option (String × List Char)
  | [] => none
  | '\'' :: rest => some (String.ofList done.reverse, rest)
  | c :: rest => if isPlain c then literalBody (c :: done) rest else none

/-- A backslash before this ends its line: only blanks stand before the next line break. -/
def endsLine : List Char → Bool
  | ' ' :: cs => endsLine cs
  | '\t' :: cs => endsLine cs
  | '\n' :: _ => true
  | '\r' :: '\n' :: _ => true
  | _ => false

/-- The rest of a string in three double quotes. While `skipping`, after a backslash that ends its
line, blanks and line breaks do not count. Up to two quotes may stand before the closing three. -/
def basicLines (skipping : Bool) (done : List Char) : List Char → Option (String × List Char)
  | [] => none
  | '"' :: '"' :: '"' :: '"' :: '"' :: rest =>
    some (String.ofList ('"' :: '"' :: done).reverse, rest)
  | '"' :: '"' :: '"' :: '"' :: rest => some (String.ofList ('"' :: done).reverse, rest)
  | '"' :: '"' :: '"' :: rest => some (String.ofList done.reverse, rest)
  | '\\' :: 'u' :: a :: b :: c :: d :: rest =>
    match codePoint? [a, b, c, d] with
    | some x => basicLines false (x :: done) rest
    | none => none
  | '\\' :: 'U' :: a :: b :: c :: d :: e :: f :: g :: h :: rest =>
    match codePoint? [a, b, c, d, e, f, g, h] with
    | some x => basicLines false (x :: done) rest
    | none => none
  | '\\' :: e :: rest =>
    match unescape? e with
    | some c => basicLines false (c :: done) rest
    | none => if endsLine (e :: rest) then basicLines true done (e :: rest) else none
  | '\r' :: '\n' :: rest => basicLines skipping (if skipping then done else '\n' :: done) rest
  | '\n' :: rest => basicLines skipping (if skipping then done else '\n' :: done) rest
  | c :: rest =>
    if skipping ∧ (c = ' ' ∨ c = '\t') then basicLines true done rest
    else if isPlain c then basicLines false (c :: done) rest else none

/-- The rest of a string in three single quotes. -/
def literalLines (done : List Char) : List Char → Option (String × List Char)
  | [] => none
  | '\'' :: '\'' :: '\'' :: '\'' :: '\'' :: rest =>
    some (String.ofList ('\'' :: '\'' :: done).reverse, rest)
  | '\'' :: '\'' :: '\'' :: '\'' :: rest => some (String.ofList ('\'' :: done).reverse, rest)
  | '\'' :: '\'' :: '\'' :: rest => some (String.ofList done.reverse, rest)
  | '\r' :: '\n' :: rest => literalLines ('\n' :: done) rest
  | '\n' :: rest => literalLines ('\n' :: done) rest
  | c :: rest => if isPlain c then literalLines (c :: done) rest else none

/-- A line break right after three opening quotes does not count. -/
def skipBreak : List Char → List Char
  | '\r' :: '\n' :: cs => cs
  | '\n' :: cs => cs
  | cs => cs

/-- A string in one of the four forms, and what follows it. -/
def quoted? : List Char → Option (String × List Char)
  | '"' :: '"' :: '"' :: cs => basicLines false [] (skipBreak cs)
  | '"' :: cs => basicBody [] cs
  | '\'' :: '\'' :: '\'' :: cs => literalLines [] (skipBreak cs)
  | '\'' :: cs => literalBody [] cs
  | _ => none

end SceneRelay.Toml
