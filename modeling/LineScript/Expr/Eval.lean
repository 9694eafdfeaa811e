import LineScript.Expr.Grammar
import LineScript.Session
import LineScript.Value.Format
import LineScript.Value.Function

/-!
# Evaluation of expressions

The meaning of an expression, given the meaning of a call. Both operands of an operator are evaluated
before an operator that is not supported is refused; a comparison stops at its first false link; the
boolean operators evaluate all their operands and give a truth value.
-/

namespace LineScript

/-- The meaning of a call of a function by name. -/
abbrev Caller := String → List Value → Run Value

/-! ## Operators -/

def BinaryOp.apply (op : BinaryOp) (a b : Value) : Result Value :=
  match op with
  | .add => a.add b
  | .sub => a.sub b
  | .mul => a.mul b
  | .div => a.div b
  | .mod => a.mod b
  | .pow => a.pow b
  | op => .error (.key (.operator op.className))

def UnaryOp.apply (op : UnaryOp) (a : Value) : Result Value :=
  match op with
  | .plus => a.affirm
  | .minus => a.negate
  | op => .error (.key (.operator op.className))

def CompareOp.apply (op : CompareOp) (a b : Value) : Result Bool :=
  match op with
  | .eq => .ok (a.equal b)
  | .ne => .ok (!a.equal b)
  | .lt | .le | .gt | .ge => Value.ordered op a b
  | op => .error (.key (.operator op.className))

/-- Whether all values, or any of them, count as true. -/
def BoolOp.apply : BoolOp → List Value → Bool
  | .and, vs => vs.all Value.truthy
  | .or, vs => vs.any Value.truthy

/-! ## Names -/

/-- The value of a name: a variable, a global register, or a builtin. -/
def Session.lookup (s : Session) (id : String) : Result Value :=
  match s.vars.get? id with
  | some v => .ok v
  | none =>
    match s.globals.get? id with
    | some v => .ok v
    | none =>
      match Builtin.ofName? id with
      | some f => .ok (.builtin f)
      | none => .error (.name (.identifier id))

def Session.lookupGlobal (s : Session) (id : String) : Result Value :=
  match s.globals.get? id with
  | some v => .ok v
  | none => .error (.key (.text id))

/-! ## Expressions -/

mutual

def Expr.eval (call : Caller) : Expr → Run Value
  | .const v => pure v
  | .name id => fun s => Run.ofResult (s.lookup id) s
  | .binary op left right => do
    let a ← left.eval call
    let b ← right.eval call
    Run.ofResult (op.apply a b)
  | .unary op operand => do
    let a ← operand.eval call
    Run.ofResult (op.apply a)
  | .boolean op operands => do
    let vs ← Expr.evalAll call operands
    return .bool (op.apply vs)
  | .compare first ops rest => do
    let a ← first.eval call
    return .bool (← Expr.evalChain call a ops rest)
  | .call function args => do
    let vs ← Expr.evalAll call args
    call function vs
  | .callOther => Run.fail (.value .refusedCall)
  | .refused form => Run.fail (.value (.refusedForm form))

/-- The values of several expressions, from left to right. -/
def Expr.evalAll (call : Caller) : List Expr → Run (List Value)
  | [] => pure []
  | e :: es => do
    let v ← e.eval call
    let vs ← Expr.evalAll call es
    return v :: vs

/-- Whether all links of a comparison hold; the operands after a false one are not evaluated. -/
def Expr.evalChain (call : Caller) (left : Value) : List CompareOp → List Expr → Run Bool
  | op :: ops, e :: es => do
    let right ← e.eval call
    if ← Run.ofResult (op.apply left right) then Expr.evalChain call right ops es else return false
  | _, _ => pure true

end

/-! ## Texts -/

/-- Whether a text begins and ends with the same quote. A quote alone does both. -/
def isQuoted (s : String) : Bool :=
  (Text.startsWith s "\"" && Text.endsWith s "\"") || (Text.startsWith s "'" && Text.endsWith s "'")

/-- A text without its first and last character. -/
def unquoted (s : String) : String :=
  String.ofList (s.toList.drop 1).dropLast

/-- The value of a text that is no expression: the variable of that name, or the text itself. -/
def Session.lookupText (s : Session) (text : String) : Value :=
  (s.vars.get? text).getD (.str text)

/-- The value of a text: quoted text stands for what is in the quotes, an expression for its value, and
any other text for a variable or itself. -/
def evalText (call : Caller) (text : String) : Run Value :=
  let text := Text.strip text
  if isQuoted text then pure (.str (unquoted text))
  else
    match Expr.parse? text with
    | some e => e.eval call
    | none => fun s => (.done (s.lookupText text), s)

end LineScript
