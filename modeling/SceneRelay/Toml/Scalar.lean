import SceneRelay.Toml
import SceneRelay.Binary64
import SceneRelay.Text.Digits

/-! Numbers, truth values and points in time as they are written in a configuration document. -/
namespace SceneRelay.Toml

/-- The digits of groups divided by single underscores; none if a group is empty. -/
def groups? (isDigit : Char → Bool) : List Char → Option (List Char)
  | [] => none
  | [c] => if isDigit c then some [c] else none
  | c :: '_' :: rest => if isDigit c then (groups? isDigit rest).map (c :: ·) else none
  | c :: rest => if isDigit c then (groups? isDigit rest).map (c :: ·) else none

/-- A sign, taken off. -/
def splitSign : List Char → Bool × List Char
  | '-' :: cs => (true, cs)
  | '+' :: cs => (false, cs)
  | cs => (false, cs)

/-- Decimal digits that do not begin with an idle zero. -/
def wholeDigits? (cs : List Char) : Option (List Char) :=
  match groups? Char.isDigit cs with
  | some ('0' :: _ :: _) => none
  | digits => digits

/-- The integers have 64 bits. -/
def word? (n : Int) : Option Toml :=
  if -(twoTo 63 : Int) ≤ n ∧ n < twoTo 63 then some (.integer n) else none

/-- Digits in the base of a mark such as `0x`. -/
def based? (base : Nat) (isDigit : Char → Bool) (cs : List Char) : Option Toml := do
  let digits ← groups? isDigit cs
  let n ← digits.foldlM (fun n c => (Text.hexValue? c).map (base * n + ·)) 0
  word? n

def integer? : List Char → Option Toml
  | '0' :: 'x' :: cs => based? 16 (fun c => (Text.hexValue? c).isSome) cs
  | '0' :: 'o' :: cs => based? 8 (fun c => '0' ≤ c && c ≤ '7') cs
  | '0' :: 'b' :: cs => based? 2 (fun c => c == '0' || c == '1') cs
  | cs => do
    let (negative, cs) := splitSign cs
    let digits ← wholeDigits? cs
    let n : Int := Text.decimalValue digits
    word? (if negative then -n else n)

/-- The exponent after `e` or `E`. -/
def exponent? : List Char → Option Int
  | [] => some 0
  | e :: cs =>
    if e = 'e' ∨ e = 'E' then do
      let (negative, cs) := splitSign cs
      let digits ← groups? Char.isDigit cs
      let n : Int := Text.decimalValue digits
      return if negative then -n else n
    else none

def isExponentMark (c : Char) : Bool := c == 'e' || c == 'E'

/-- A float; above the largest double it is refused, below the smallest it is not. -/
def float? (cs : List Char) : Option Toml := do
  let (negative, cs) := splitSign cs
  if cs = ['i', 'n', 'f'] ∨ cs = ['n', 'a', 'n'] then return .float
  let whole ← wholeDigits? (cs.takeWhile fun c => c ≠ '.' && !isExponentMark c)
  let rest := cs.dropWhile fun c => c ≠ '.' && !isExponentMark c
  let fraction ← match rest with
    | '.' :: rest => groups? Char.isDigit (rest.takeWhile fun c => !isExponentMark c)
    | _ => some []
  let power := rest.dropWhile fun c => !isExponentMark c
  if fraction.isEmpty ∧ power.isEmpty then none
  let exponent ← exponent? power
  let x := Binary64.ofDecimal negative (Text.decimalValue (whole ++ fraction))
    (exponent - fraction.length)
  if negative ∨ x.isFinite then return .float else none

/-- The value of two digits within a range. -/
def two? (low high : Nat) (a b : Char) : Option Nat :=
  let n := Text.decimalValue [a, b]
  if a.isDigit ∧ b.isDigit ∧ low ≤ n ∧ n ≤ high then some n else none

def isLeapYear (year : Nat) : Bool := year % 4 == 0 && (year % 100 != 0 || year % 400 == 0)

def daysIn (year month : Nat) : Nat :=
  if month = 2 then (if isLeapYear year then 29 else 28)
  else if month ∈ [4, 6, 9, 11] then 30 else 31

/-- A day of the calendar and what follows it. -/
def date? : List Char → Option (List Char)
  | a :: b :: c :: d :: '-' :: e :: f :: '-' :: g :: h :: rest =>
    if [a, b, c, d].all Char.isDigit then do
      let month ← two? 1 12 e f
      let _ ← two? 1 (daysIn (Text.decimalValue [a, b, c, d]) month) g h
      return rest
    else none
  | _ => none

/-- A time of the day with optional fraction of the second, and what follows it. -/
def clock? : List Char → Option (List Char)
  | a :: b :: ':' :: c :: d :: ':' :: e :: f :: rest => do
    let _ ← two? 0 23 a b
    let _ ← two? 0 59 c d
    let _ ← two? 0 60 e f
    match rest with
    | '.' :: rest =>
      if (rest.takeWhile Char.isDigit).isEmpty then none else return rest.dropWhile Char.isDigit
    | rest => return rest
  | _ => none

/-- Nothing, `Z`, or the distance from it in hours and minutes. -/
def isOffset : List Char → Bool
  | [] => true
  | [z] => z == 'Z' || z == 'z'
  | [sign, a, b, ':', c, d] =>
    (sign == '+' || sign == '-') && (two? 0 23 a b).isSome && (two? 0 59 c d).isSome
  | _ => false

/-- A time, a date, or both with the letter T or a blank between them. -/
def time? (cs : List Char) : Option Toml :=
  match date? cs with
  | some [] => some .time
  | some (t :: rest) =>
    if t = 'T' ∨ t = 't' ∨ t = ' ' then
      match clock? rest with
      | some rest => if isOffset rest then some .time else none
      | none => none
    else none
  | none =>
    match clock? cs with
    | some [] => some .time
    | _ => none

/-- The value of a run of characters that is no string, array or table. -/
def scalar? (cs : List Char) : Option Toml :=
  if cs = ['t', 'r', 'u', 'e'] then some (.boolean true)
  else if cs = ['f', 'a', 'l', 's', 'e'] then some (.boolean false)
  else (time? cs).orElse fun _ => (float? cs).orElse fun _ => integer? cs

end SceneRelay.Toml
