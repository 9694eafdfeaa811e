import LineScript.Value.Compare
import LineScript.Value.Convert

/-!
# The builtins that only compute

Conversions, lengths, extremes and rounding: what these builtins give depends on their arguments
alone. The three that reach files and input are not here.
-/

namespace LineScript.Value

/-- `int`, with a base if a second argument is given. -/
def intOf : List Value → Result Value
  | [] => .ok (.int 0)
  | [v] => toInteger v
  | [v, base] => toIntegerInBase v base
  | args => .error (.type (.takesAtMost "int" 2 args.length))

/-- `float` -/
def floatOf : List Value → Result Value
  | [] => .ok (.float 0.0)
  | [v] => toFloat v
  | args => .error (.type (.expectedAtMost "float" 1 args.length))

def printed (v : Value) : Result String :=
  match v.text? with
  | some s => .ok s
  | Option.none => .error (.value (.digitLimit Option.none))

/-- A parameter of `str` that must be a text without the character of number zero. -/
def textParameter (parameter : String) : Value → Result String
  | .str s => if s.contains '\x00' then .error (.value .nullCharacter) else .ok s
  | v => .error (.type (.decodingParameter parameter v.kind))

/-- Decode a value, which must be bytes. -/
def decodeValue (v : Value) (encoding : String) (onError : OnError) : Result Value :=
  match v with
  | .bytes b => decoded b encoding onError
  | v => .error (.type (.decoding v.kind))

/-- `str`, with an encoding and a rule for errors if further arguments are given. -/
def strOf : List Value → Result Value
  | [] => .ok (.str "")
  | [v] => (printed v).map .str
  | [v, encoding] => do decodeValue v (← textParameter "encoding" encoding) .strict
  | [v, encoding, errors] => do
    let encoding ← textParameter "encoding" encoding
    let errors ← textParameter "errors" errors
    decodeValue v encoding (.ofName errors)
  | args => .error (.type (.takesAtMost "str" 3 args.length))

/-- `len` -/
def lenOf : List Value → Result Value
  | [.str s] => .ok (.int s.length)
  | [.bytes b] => .ok (.int b.length)
  | [.table] => .ok (.int 0)
  | [v] => .error (.type (.noLength v.kind))
  | args => .error (.type (.exactlyOne "len" args.length))

def absolute (v : Value) : Result Value :=
  match v.numeric? with
  | some (.int n) => .ok (.int n.natAbs)
  | some (.float x) => .ok (.float x.abs)
  | some (.complex re im) =>
    match Number.hypotenuse re im with
    | some x => .ok (.float x)
    | Option.none => .error (.overflow .absolute)
  | Option.none => .error (.type (.operand "abs()" v.kind))

/-- `abs` -/
def absOf : List Value → Result Value
  | [v] => absolute v
  | args => .error (.type (.exactlyOne "abs" args.length))

def items : Value → Result (List Value)
  | .str s => .ok (s.toList.map fun c => .str c.toString)
  | .bytes b => .ok (b.map fun x => .int x.toNat)
  | .table => .ok []
  | v => .error (.type (.notIterable v.kind))

/-- The first of several values that no later one surpasses. -/
def extreme (op : CompareOp) (best : Value) : List Value → Result Value
  | [] => .ok best
  | v :: vs => do
    if ← ordered op v best then extreme op v vs else extreme op best vs

/-- `max` and `min`: the extreme of several arguments, or of the items of a single one. -/
def extremeOf (function : String) (op : CompareOp) : List Value → Result Value
  | [] => .error (.type (.expectedAtLeast function 0))
  | [v] => do
    match ← items v with
    | [] => throw (.value (.emptySequence function))
    | x :: xs => extreme op x xs
  | v :: vs => extreme op v vs

/-- `round` -/
def roundOf : List Value → Result Value
  | [] => .error (.type .roundsNothing)
  | [v] => rounded v .none
  | [v, places] => rounded v places
  | args => .error (.type (.takesAtMost "round" 2 args.length))

end LineScript.Value

namespace LineScript

/-- What a builtin that only computes gives; nothing for the others. -/
def Builtin.compute? : Builtin → List Value → Option (Result Value)
  | .int, args => some (Value.intOf args)
  | .float, args => some (Value.floatOf args)
  | .str, args => some (Value.strOf args)
  | .len, args => some (Value.lenOf args)
  | .abs, args => some (Value.absOf args)
  | .max, args => some (Value.extremeOf "max" .gt args)
  | .min, args => some (Value.extremeOf "min" .lt args)
  | .round, args => some (Value.roundOf args)
  | .readfile, _ | .writefile, _ | .input, _ => none

end LineScript
