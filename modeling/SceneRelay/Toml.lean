/-! Configuration documents: tables of values, and how headers and dotted keys build them. -/
namespace SceneRelay

/-- How a table came to be, which decides who may still add to it. -/
inductive TableForm where
  | implied  -- on the way to a longer header
  | dotted   -- on the way of a dotted key
  | headed   -- by its own header
  | inline   -- between braces
  deriving DecidableEq, Repr

/-- A value; floats and points in time carry nothing that a configuration reads. -/
inductive Toml where
  | string (s : String)
  | integer (n : Int)
  | boolean (b : Bool)
  | float
  | time
  | array (items : List Toml)
  | table (form : TableForm) (entries : List (String × Toml))
  | tables (elements : List (List (String × Toml)))
  deriving Repr, Inhabited

namespace Toml

/-- The named values of a table. -/
abbrev Entries := List (String × Toml)

/-- Puts a value over the one a key has. -/
def replace (key : String) (value : Toml) : Entries → Entries
  | [] => []
  | (k, v) :: rest => if k = key then (k, value) :: rest else (k, v) :: replace key value rest

/-- Adds a key that is not there yet. -/
def insertNew (key : String) (value : Toml) (entries : Entries) : Option Entries :=
  match entries.lookup key with
  | none => some (entries ++ [(key, value)])
  | some _ => none

/-- Changes the last of some tables. -/
def inLast (f : Entries → Option Entries) : List Entries → Option (List Entries)
  | [] => none
  | [t] => (f t).map ([·])
  | t :: ts => (inLast f ts).map (t :: ·)

/-- Gives `key` a value in the table that a dotted way leads to. The last table of the way must
have been made by such keys. -/
def assignAlong : List String → String → Toml → Entries → Option Entries
  | [], key, value, entries => insertNew key value entries
  | p :: way, key, value, entries =>
    match entries.lookup p with
    | none => (assignAlong way key value []).map fun sub => entries ++ [(p, .table .dotted sub)]
    | some (.table form sub) =>
      if form = .dotted ∨ form = .implied ∧ way ≠ [] then
        (assignAlong way key value sub).map fun sub => replace p (.table form sub) entries
      else none
    | some (.tables ts) =>
      if way = [] then none
      else (inLast (assignAlong way key value) ts).map fun ts => replace p (.tables ts) entries
    | some _ => none

/-- Gives the value at a dotted key, the last part of which must be new. -/
def assign (path : List String) (value : Toml) (entries : Entries) : Option Entries :=
  match path.getLast? with
  | some key => assignAlong path.dropLast key value entries
  | none => none

/-- Changes the table that a header way leads to, making the tables that are missing on the way. -/
def along : List String → (Entries → Option Entries) → Entries → Option Entries
  | [], f, entries => f entries
  | p :: way, f, entries =>
    match entries.lookup p with
    | none => (along way f []).map fun sub => entries ++ [(p, .table .implied sub)]
    | some (.table form sub) =>
      if form = .inline then none
      else (along way f sub).map fun sub => replace p (.table form sub) entries
    | some (.tables ts) => (inLast (along way f) ts).map fun ts => replace p (.tables ts) entries
    | some _ => none

/-- A header for a table: it must be new or only implied so far. -/
def openTable (key : String) (entries : Entries) : Option Entries :=
  match entries.lookup key with
  | none => some (entries ++ [(key, .table .headed [])])
  | some (.table .implied sub) => some (replace key (.table .headed sub) entries)
  | some _ => none

/-- A header for one more element of an array of tables. -/
def openElement (key : String) (entries : Entries) : Option Entries :=
  match entries.lookup key with
  | none => some (entries ++ [(key, .tables [[]])])
  | some (.tables ts) => some (replace key (.tables (ts ++ [[]])) entries)
  | some _ => none

/-- An inline table of dotted keys and values. -/
def ofPairs? (pairs : List (List String × Toml)) : Option Toml :=
  (pairs.foldlM (fun entries p => assign p.1 p.2 entries) []).map (.table .inline)

/-- A line of a document that says something. -/
inductive Statement where
  | header (path : List String)
  | element (path : List String)
  | assignment (path : List String) (value : Toml)
  deriving Repr

/-- The document so far and the way to the table that keys go to. -/
structure Draft where
  current : List String := []
  entries : Entries := []

def Draft.add (d : Draft) : Statement → Option Draft
  | .header path => do
    let key ← path.getLast?
    return ⟨path, ← along path.dropLast (openTable key) d.entries⟩
  | .element path => do
    let key ← path.getLast?
    return ⟨path, ← along path.dropLast (openElement key) d.entries⟩
  | .assignment path value => do
    return ⟨d.current, ← along d.current (assign path value) d.entries⟩

/-- The top table that the statements of a document build. -/
def ofStatements? (statements : List Statement) : Option Entries :=
  (statements.foldlM Draft.add {}).map Draft.entries

end Toml
end SceneRelay
