import LineScript.Value

/-!
# Expressions

The expressions that a script may hold. Operators and forms that the grammar admits but evaluation
refuses are kept by name only, so that the refusal can say what it refuses.
-/

namespace LineScript

/-- Operators between two operands; the second group is refused. -/
inductive BinaryOp where
  | add
  | sub
  | mul
  | div
  | mod
  | pow
  | floorDiv
  | matMul
  | shiftLeft
  | shiftRight
  | bitOr
  | bitXor
  | bitAnd
  deriving DecidableEq, Repr

/-- Operators before an operand; the last two are refused. -/
inductive UnaryOp where
  | plus
  | minus
  | not
  | invert
  deriving DecidableEq, Repr

inductive BoolOp where
  | and
  | or
  deriving DecidableEq, Repr

/-- The links of a comparison; the last four are refused. -/
inductive CompareOp where
  | eq
  | ne
  | lt
  | le
  | gt
  | ge
  | is
  | isNot
  | isIn
  | notIn
  deriving DecidableEq, Repr

/-- Forms of expressions that evaluation refuses. -/
inductive Form where
  | lambda
  | conditional
  | dict
  | set
  | listComprehension
  | setComprehension
  | dictComprehension
  | generator
  | await
  | yield
  | yieldFrom
  | formatted
  | attribute
  | subscript
  | starred
  | list
  | tuple
  | named
  deriving DecidableEq, Repr

/-- An expression. A call by name keeps its positional arguments; a call of anything else is refused
before its arguments matter. -/
inductive Expr where
  | const (v : Value)
  | name (id : String)
  | binary (op : BinaryOp) (left right : Expr)
  | unary (op : UnaryOp) (operand : Expr)
  | boolean (op : BoolOp) (operands : List Expr)
  | compare (first : Expr) (ops : List CompareOp) (rest : List Expr)
  | call (function : String) (args : List Expr)
  | callOther
  | refused (form : Form)

instance : Inhabited Expr := ⟨.callOther⟩

/-! ## Names of the refused parts -/

/-- The name of a binary operator's class. -/
def BinaryOp.className : BinaryOp → String
  | .add => "Add"
  | .sub => "Sub"
  | .mul => "Mult"
  | .div => "Div"
  | .mod => "Mod"
  | .pow => "Pow"
  | .floorDiv => "FloorDiv"
  | .matMul => "MatMult"
  | .shiftLeft => "LShift"
  | .shiftRight => "RShift"
  | .bitOr => "BitOr"
  | .bitXor => "BitXor"
  | .bitAnd => "BitAnd"

/-- The name of a unary operator's class. -/
def UnaryOp.className : UnaryOp → String
  | .plus => "UAdd"
  | .minus => "USub"
  | .not => "Not"
  | .invert => "Invert"

def CompareOp.className : CompareOp → String
  | .eq => "Eq"
  | .ne => "NotEq"
  | .lt => "Lt"
  | .le => "LtE"
  | .gt => "Gt"
  | .ge => "GtE"
  | .is => "Is"
  | .isNot => "IsNot"
  | .isIn => "In"
  | .notIn => "NotIn"

def Form.className : Form → String
  | .lambda => "Lambda"
  | .conditional => "IfExp"
  | .dict => "Dict"
  | .set => "Set"
  | .listComprehension => "ListComp"
  | .setComprehension => "SetComp"
  | .dictComprehension => "DictComp"
  | .generator => "GeneratorExp"
  | .await => "Await"
  | .yield => "Yield"
  | .yieldFrom => "YieldFrom"
  | .formatted => "JoinedStr"
  | .attribute => "Attribute"
  | .subscript => "Subscript"
  | .starred => "Starred"
  | .list => "List"
  | .tuple => "Tuple"
  | .named => "NamedExpr"

end LineScript
