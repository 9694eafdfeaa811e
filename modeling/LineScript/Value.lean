import LineScript.Number.Decimal
import LineScript.Text.Quoted

/-!
# Values

What an expression evaluates to, which values count as true, and the two written forms of a value:
as it is printed, and as it stands inside a larger value.
-/

namespace LineScript

/-- The functions every script can call. -/
inductive Builtin where
  | int
  | float
  | str
  | len
  | abs
  | max
  | min
  | round
  | readfile
  | writefile
  | input
  deriving DecidableEq, Repr

namespace Builtin

def all : List Builtin :=
  [.int, .float, .str, .len, .abs, .max, .min, .round, .readfile, .writefile, .input]

/-- The name by which a script calls the builtin. -/
def name : Builtin → String
  | .int => "int"
  | .float => "float"
  | .str => "str"
  | .len => "len"
  | .abs => "abs"
  | .max => "max"
  | .min => "min"
  | .round => "round"
  | .readfile => "readfile"
  | .writefile => "writefile"
  | .input => "input"

def ofName? (s : String) : Option Builtin :=
  all.find? (·.name == s)

end Builtin

/-- A value of the language. Builtins are values too, and `table` is the empty table that the two
global registers hold. -/
inductive Value where
  | none
  | bool (b : Bool)
  | int (n : Int)
  | float (x : Float)
  | complex (re im : Float)
  | str (s : String)
  | bytes (b : Text.Bytes)
  | ellipsis
  | table
  | builtin (f : Builtin)

instance : Inhabited Value := ⟨.none⟩

/-! ## Kinds -/

/-- The kinds of values that messages tell apart. -/
inductive Kind where
  | none
  | bool
  | int
  | float
  | complex
  | str
  | bytes
  | ellipsis
  | table
  | builtin
  | constructor
  | routine
  deriving DecidableEq, Repr

def Kind.name : Kind → String
  | .none => "NoneType"
  | .bool => "bool"
  | .int => "int"
  | .float => "float"
  | .complex => "complex"
  | .str => "str"
  | .bytes => "bytes"
  | .ellipsis => "ellipsis"
  | .table => "dict"
  | .builtin => "builtin_function_or_method"
  | .constructor => "type"
  | .routine => "function"

/-- The kind of a builtin: a conversion, a plain function, or one that reaches outside. -/
def Builtin.kind : Builtin → Kind
  | .int | .float | .str => .constructor
  | .len | .abs | .max | .min | .round => .builtin
  | .readfile | .writefile | .input => .routine

namespace Value

def kind : Value → Kind
  | .none => .none
  | .bool _ => .bool
  | .int _ => .int
  | .float _ => .float
  | .complex _ _ => .complex
  | .str _ => .str
  | .bytes _ => .bytes
  | .ellipsis => .ellipsis
  | .table => .table
  | .builtin f => f.kind

/-- Which values a condition accepts: all but nothing, false, the zeros and the empty ones. -/
def truthy : Value → Bool
  | .none => false
  | .bool b => b
  | .int n => n != 0
  | .float x => x != 0.0
  | .complex re im => re != 0.0 || im != 0.0
  | .str s => !s.isEmpty
  | .bytes b => !b.isEmpty
  | .ellipsis => true
  | .table => false
  | .builtin _ => true

/-! ## Written forms -/

def boolText (b : Bool) : String :=
  if b then "True" else "False"

def builtinText (f : Builtin) : String :=
  match f.kind with
  | .constructor => "<class '" ++ f.name ++ "'>"
  | .builtin => "<built-in function " ++ f.name ++ ">"
  | _ => "<function <lambda>>"

/-- The written form inside a larger value. Only an integer with too many digits has none. -/
def shown? : Value → Option String
  | .none => some "None"
  | .bool b => some (boolText b)
  | .int n => if Number.hasText n then some (Number.decimalText n) else Option.none
  | .float x => some (Number.floatText x)
  | .complex re im => some (Number.complexText re im)
  | .str s => some (Text.quoted s)
  | .bytes b => some (Text.quotedBytes b)
  | .ellipsis => some "Ellipsis"
  | .table => some "\x7b\x7d"
  | .builtin f => some (builtinText f)

/-- The printed form: a text stands for itself, and all else is written as inside a larger value. -/
def text? : Value → Option String
  | .str s => some s
  | v => v.shown?

end Value

end LineScript
