import LineScript.Value

/-!
# Samples

What a benchmark gives back: values of the language, containers of samples, and objects of other kinds,
of which only the kind and the written form are known.
-/

namespace LineScript

inductive Buffer where
  | array
  | view
  deriving DecidableEq, Repr

inductive Sample where
  | value (v : Value)
  | buffer (kind : Buffer) (b : Text.Bytes)
  | list (items : List Sample)
  | tuple (items : List Sample)
  | set (frozen : Bool) (items : List Sample)
  | dict (entries : List (Sample × Sample))
  | record (fields : List (String × Sample))
  /-- An object that is known by its kind and its written form. -/
  | written (kind text : String)
  /-- An object that is known by its class alone. -/
  | object (module className : String)

instance : Inhabited Sample := ⟨.value .none⟩

namespace Sample

def int (n : Int) : Sample := .value (.int n)

def str (s : String) : Sample := .value (.str s)

def bool (b : Bool) : Sample := .value (.bool b)

def nothing : Sample := .value .none

def upto (n : Int) : Sample :=
  .list ((List.range n.toNat).map fun (i : Nat) => int i)

def lastName (name : String) : String :=
  (name.splitOn ".").getLast?.getD name

def kindName : Sample → String
  | .value v => v.kind.name
  | .buffer .array _ => "bytearray"
  | .buffer .view _ => "memoryview"
  | .list _ => "list"
  | .tuple _ => "tuple"
  | .set false _ => "set"
  | .set true _ => "frozenset"
  | .dict _ => "dict"
  | .record _ => "Record"
  | .written kind _ => kind
  | .object _ className => lastName className

/-! ## Written forms -/

mutual

def shown : Sample → String
  | .value v => v.shown?.getD ""
  | .buffer .array b => "bytearray(" ++ Text.quotedBytes b ++ ")"
  | .buffer .view _ => "<memory>"
  | .list items => "[" ++ ", ".intercalate (shownItems items) ++ "]"
  | .tuple [item] => "(" ++ shown item ++ ",)"
  | .tuple items => "(" ++ ", ".intercalate (shownItems items) ++ ")"
  | .set false [] => "set()"
  | .set true [] => "frozenset()"
  | .set frozen items =>
    let body := "\x7b" ++ ", ".intercalate (shownItems items) ++ "\x7d"
    if frozen then "frozenset(" ++ body ++ ")" else body
  | .dict entries => "\x7b" ++ ", ".intercalate (shownEntries entries) ++ "\x7d"
  | .record fields => "Record(" ++ ", ".intercalate (shownFields fields) ++ ")"
  | .written _ text => text
  | .object module className => "<" ++ module ++ "." ++ className ++ " object>"

def shownItems : List Sample → List String
  | [] => []
  | s :: rest => shown s :: shownItems rest

def shownEntries : List (Sample × Sample) → List String
  | [] => []
  | (k, v) :: rest => (shown k ++ ": " ++ shown v) :: shownEntries rest

def shownFields : List (String × Sample) → List String
  | [] => []
  | (k, v) :: rest => (k ++ "=" ++ shown v) :: shownFields rest

end

/-- The printed form of a sample: a text stands for itself. -/
def text : Sample → String
  | .value v => v.text?.getD ""
  | s => s.shown

end Sample

end LineScript
