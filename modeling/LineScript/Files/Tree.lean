import LineScript.Text.Utf8

/-!
# File trees

A file tree is a list of entries, each at a location: the names on the way from the root. All that
can be observed of a tree is `get?`, the entry at a location.
-/

namespace LineScript.Files

/-- The names on the way from the root to an entry. -/
abbrev Location := List String

inductive Entry where
  | file (content : Text.Bytes)
  | dir
  deriving DecidableEq, Repr

structure FileTree where
  entries : List (Location × Entry)

namespace FileTree

def get? (t : FileTree) (l : Location) : Option Entry :=
  t.entries.lookup l

def isFile (t : FileTree) (l : Location) : Bool :=
  match t.get? l with
  | some (.file _) => true
  | _ => false

def isDir (t : FileTree) (l : Location) : Bool :=
  t.get? l == some .dir

/-- Put an entry at a location in place of the one that is there. -/
def put (t : FileTree) (l : Location) (e : Entry) : FileTree :=
  ⟨(l, e) :: t.entries.filter (·.1 != l)⟩

/-- Remove all entries at and below a location. -/
def prune (t : FileTree) (l : Location) : FileTree :=
  ⟨t.entries.filter fun (k, _) => !l.isPrefixOf k⟩

/-- The entries below a location, with the way from there. -/
def below (t : FileTree) (l : Location) : List (Location × Entry) :=
  t.entries.filterMap fun (k, e) =>
    if l.isPrefixOf k && k != l then some (k.drop l.length, e) else none

def graft (t : FileTree) (l : Location) (entries : List (Location × Entry)) : FileTree :=
  entries.foldl (fun t (k, e) => t.put (l ++ k) e) t

/-- The tree that holds nothing but the working directory. -/
def empty (work : Location) : FileTree :=
  ⟨[(work, .dir), ([], .dir)]⟩

end FileTree

end LineScript.Files
