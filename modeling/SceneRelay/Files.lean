/-! Files by their path: what reading one gives, and directory trees in which paths are looked up. -/
namespace SceneRelay

/-- Why a file cannot be read. -/
inductive FileError where
  | missing
  | isDirectory
  | notDirectory
  deriving DecidableEq, Repr

namespace FileError

def message : FileError → String
  | missing => "No such file or directory (os error 2)"
  | isDirectory => "Is a directory (os error 21)"
  | notDirectory => "Not a directory (os error 20)"

/-- Nothing is at the path at all. -/
def isAbsence : FileError → Bool
  | missing => true
  | isDirectory => false
  | notDirectory => true

end FileError

/-- What reading each path gives. -/
abbrev Files := String → Except FileError ByteArray

/-- The entries of a tree by the names on the way to them; a directory has no content. -/
structure FileTree where
  entries : List (List String × Option ByteArray)

namespace FileTree

def ofEntries (entries : List (String × Option ByteArray)) : FileTree :=
  ⟨entries.map fun e => (e.1.splitOn "/", e.2)⟩

/-- The content at the end of a way, none for a directory; a directory may be there without an
entry of its own. -/
def find? (t : FileTree) (way : List String) : Except FileError (Option ByteArray) :=
  match t.entries.lookup way with
  | some content => .ok content
  | none => if t.entries.any fun e => way.isPrefixOf e.1 then .ok none else .error .missing

/-- Follows names from a directory; a dot stays, two dots lead up. -/
def walk (t : FileTree) (way : List String) : List String → Except FileError (Option ByteArray)
  | [] => if way = [] then .ok none else t.find? way
  | name :: names => do
    if way ≠ [] ∧ (← t.find? way).isSome then .error .notDirectory
    else if name = "" ∨ name = "." then t.walk way names
    else if name = ".." then
      if way = [] then .error .missing else t.walk way.dropLast names
    else t.walk (way ++ [name]) names

/-- Reads paths from the top of the tree; nothing but the tree is there. -/
def read (t : FileTree) : Files := fun path =>
  if path = "" then .error .missing
  else if path.startsWith "/" then
    if path.toList.all (· = '/') then .error .isDirectory else .error .missing
  else
    match t.walk [] (path.splitOn "/") with
    | .ok (some content) => .ok content
    | .ok none => .error .isDirectory
    | .error e => .error e

end FileTree
end SceneRelay
