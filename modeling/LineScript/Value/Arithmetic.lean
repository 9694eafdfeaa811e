import LineScript.Fault

/-!
# Arithmetic on values

Sums, differences, products, quotients, remainders, powers and signs. Integers are exact; an operand
of a wider kind makes the other one wider. Texts and bytes can be joined and repeated.
-/

namespace LineScript.Value

/-! ## Numbers among the values -/

inductive Numeric where
  | int (n : Int)
  | float (x : Float)
  | complex (re im : Float)

/-- The number that a value is; the truth values are 0 and 1. -/
def numeric? : Value → Option Numeric
  | .bool b => some (.int (if b then 1 else 0))
  | .int n => some (.int n)
  | .float x => some (.float x)
  | .complex re im => some (.complex re im)
  | _ => Option.none

def widen (n : Int) : Result Float :=
  match Number.ofInt? n with
  | some x => .ok x
  | Option.none => .error (.overflow .integerToFloat)

/-- Two numbers made of one kind, the wider of the two. -/
inductive Pair where
  | ints (a b : Int)
  | floats (x y : Float)
  | complexes (a b : Float × Float)

def Pair.of : Numeric → Numeric → Result Pair
  | .int a, .int b => .ok (.ints a b)
  | .int a, .float y => return .floats (← widen a) y
  | .float x, .int b => return .floats x (← widen b)
  | .float x, .float y => .ok (.floats x y)
  | .int a, .complex c d => return .complexes (← widen a, 0.0) (c, d)
  | .float x, .complex c d => .ok (.complexes (x, 0.0) (c, d))
  | .complex a b, .int c => return .complexes (a, b) (← widen c, 0.0)
  | .complex a b, .float y => .ok (.complexes (a, b) (y, 0.0))
  | .complex a b, .complex c d => .ok (.complexes (a, b) (c, d))

/-- Two values as numbers of one kind; any others are refused under the operator's symbol. -/
def pairFor (symbol : String) (a b : Value) : Result Pair :=
  match a.numeric?, b.numeric? with
  | some x, some y => Pair.of x y
  | _, _ => .error (.type (.operands symbol a.kind b.kind))

def ofComplex (c : Float × Float) : Value :=
  .complex c.1 c.2

/-! ## Sums, differences, products -/

/-- The sum of numbers; texts and bytes are joined to their like. -/
def add (a b : Value) : Result Value :=
  match a, b with
  | .str s, .str t => .ok (.str (s ++ t))
  | .str _, b => .error (.type (.joinText b.kind))
  | .bytes s, .bytes t => .ok (.bytes (s ++ t))
  | .bytes _, b => .error (.type (.joinBytes b.kind))
  | a, b => do
    match ← pairFor "+" a b with
    | .ints m n => return .int (m + n)
    | .floats x y => return .float (x + y)
    | .complexes u v => return ofComplex (u.1 + v.1, u.2 + v.2)

def sub (a b : Value) : Result Value := do
  match ← pairFor "-" a b with
  | .ints m n => return .int (m - n)
  | .floats x y => return .float (x - y)
  | .complexes u v => return ofComplex (u.1 - v.1, u.2 - v.2)

def complexMul (u v : Float × Float) : Float × Float :=
  (u.1 * v.1 - u.2 * v.2, u.1 * v.2 + u.2 * v.1)

/-- The numbers of 64 bits with a sign. -/
def fitsIndex (n : Int) : Bool :=
  -Int.pow 2 63 ≤ n && n < Int.pow 2 63

/-- Repetitions longer than this are refused for want of memory. -/
def lengthLimit : Nat := Nat.pow 2 36

/-- A list repeated, none for a negative count; `tooLong` if its length is no index. -/
def repeated (tooLong : OverflowFault) (xs : List α) (count : Int) : Result (List α) :=
  if !fitsIndex count then .error (.overflow (.index .int))
  else
    let length := xs.length * count.toNat
    if length == 0 then .ok []
    else if Nat.pow 2 63 ≤ length then .error (.overflow tooLong)
    else if lengthLimit < length then .error .memory
    else .ok (List.replicate count.toNat xs).flatten

/-- Repeat a text or bytes; any other value is no sequence. -/
def repeatSequence? (s count : Value) : Option (Result Value) :=
  match s, count.numeric? with
  | .str s, some (.int n) =>
    some ((repeated .repeatedText s.toList n).map fun cs => .str (String.ofList cs))
  | .bytes b, some (.int n) => some ((repeated .repeatedBytes b n).map .bytes)
  | .str _, _ | .bytes _, _ => some (.error (.type (.repetition count.kind)))
  | _, _ => Option.none

/-- The product of numbers; a sequence times an integer is repeated. -/
def mul (a b : Value) : Result Value :=
  match repeatSequence? a b with
  | some r => r
  | Option.none =>
    match repeatSequence? b a with
    | some r => r
    | Option.none => do
      match ← pairFor "*" a b with
      | .ints m n => return .int (m * n)
      | .floats x y => return .float (x * y)
      | .complexes u v => return ofComplex (complexMul u v)

/-! ## Quotients and remainders -/

/-- The quotient of complex numbers, scaled by the larger part of the divisor; none for zero. -/
def complexDiv? (u v : Float × Float) : Option (Float × Float) :=
  let absRe := if v.1 < 0.0 then -v.1 else v.1
  let absIm := if v.2 < 0.0 then -v.2 else v.2
  if absIm ≤ absRe then
    if absRe == 0.0 then Option.none
    else
      let ratio := v.2 / v.1
      let denom := v.1 + v.2 * ratio
      some ((u.1 + u.2 * ratio) / denom, (u.2 - u.1 * ratio) / denom)
  else if absRe ≤ absIm then
    let ratio := v.1 / v.2
    let denom := v.1 * ratio + v.2
    some ((u.1 * ratio + u.2) / denom, (u.2 * ratio - u.1) / denom)
  else some (Number.notANumber, Number.notANumber)

/-- The quotient, which is never an integer. -/
def div (a b : Value) : Result Value := do
  match ← pairFor "/" a b with
  | .ints m n =>
    if n == 0 then throw (.zero .division)
    match Number.ofRatio? ((m < 0) != (n < 0)) m.natAbs n.natAbs with
    | some x => return .float x
    | Option.none => throw (.overflow .quotient)
  | .floats x y =>
    if y == 0.0 then throw (.zero .floatDivision)
    return .float (x / y)
  | .complexes u v =>
    match complexDiv? u v with
    | some c => return ofComplex c
    | Option.none => throw (.zero .complexDivision)

/-- Whether a value is a complex number. -/
def isComplex : Value → Bool
  | .complex _ _ => true
  | _ => false

/-- The remainder of numbers, which has the sign of the divisor. Complex numbers have none. -/
def numericMod (a b : Value) : Result Value := do
  if a.isComplex || b.isComplex then throw (.type (.operands "%" a.kind b.kind))
  match ← pairFor "%" a b with
  | .ints m n =>
    if n == 0 then throw (.zero .modulo)
    return .int (m.fmod n)
  | .floats x y =>
    if y == 0.0 then throw (.zero .floatModulo)
    return .float (Number.floorRemainder x y)
  | .complexes _ _ => throw (.type (.operands "%" a.kind b.kind))

/-! ## Powers -/

/-- Whether a finite double is an odd integer. -/
def isOddInteger (x : Float) : Bool :=
  match Number.shape x with
  | .finite d =>
    let (n, den) := d.toFraction
    n % den == 0 && (n / den) % 2 != 0
  | _ => false

/-- A power by repeated squaring. `fuel` bounds the number of bits of the exponent. -/
def complexSquaring : Nat → Nat → Float × Float → Float × Float → Float × Float
  | 0, _, r, _ => r
  | fuel + 1, n, r, p =>
    if n == 0 then r
    else complexSquaring fuel (n / 2) (if n % 2 == 1 then complexMul r p else r) (complexMul p p)

/-- A power of a complex number with a small integer exponent. -/
def complexPowInt (u : Float × Float) (n : Int) : Option (Float × Float) :=
  let p := complexSquaring 64 n.natAbs (1.0, 0.0) u
  if 0 < n then some p else complexDiv? (1.0, 0.0) p

/-- A power of a complex number by its length and angle. -/
def complexPowPolar (u v : Float × Float) : Option (Float × Float) :=
  if v.1 == 0.0 && v.2 == 0.0 then some (1.0, 0.0)
  else if u.1 == 0.0 && u.2 == 0.0 then
    if v.2 != 0.0 || v.1 < 0.0 then Option.none else some (0.0, 0.0)
  else
    let length := (Number.hypotenuse u.1 u.2).getD (Number.infinity false)
    let angle := Float.atan2 u.2 u.1
    let size := Float.pow length v.1
    let phase := angle * v.1
    let (size, phase) :=
      if v.2 != 0.0 then (size / Float.exp (angle * v.2), phase + v.2 * Float.log length)
      else (size, phase)
    -- An infinite angle has no direction.
    if phase.isInf then Option.none
    else some (size * Float.cos phase, size * Float.sin phase)

def complexPow (u v : Float × Float) : Result Value :=
  let small := v.2 == 0.0 && v.1 == v.1.floor && v.1.abs ≤ 100.0
  let exponent := match Number.shape v.1 with
    | .finite d => d.truncate
    | _ => 0
  match if small then complexPowInt u exponent else complexPowPolar u v with
  | Option.none => .error (.zero .complexPower)
  | some c =>
    if c.1.isInf || c.2.isInf then .error (.overflow .complexPower) else .ok (ofComplex c)

/-- The power of doubles. A negative base with a broken exponent gives a complex number. -/
def floatPow (x y : Float) : Result Value :=
  if y == 0.0 then .ok (.float 1.0)
  else if x.isNaN then .ok (.float x)
  else if y.isNaN then .ok (.float (if x == 1.0 then 1.0 else y))
  else if y.isInf then
    if x.abs == 1.0 then .ok (.float 1.0)
    else if (0.0 < y) == (1.0 < x.abs) then .ok (.float y.abs)
    else .ok (.float 0.0)
  else if x.isInf then
    if 0.0 < y then .ok (.float (if isOddInteger y then x else x.abs))
    else .ok (.float (if isOddInteger y then Number.signedZero (Number.isNegative x) else 0.0))
  else if x == 0.0 then
    if y < 0.0 then .error (.zero .power)
    else .ok (.float (if isOddInteger y then x else 0.0))
  else if x < 0.0 && y != y.floor then complexPow (x, 0.0) (y, 0.0)
  else
    let negate := x < 0.0 && isOddInteger y
    let base := x.abs
    if base == 1.0 then .ok (.float (if negate then -1.0 else 1.0))
    else
      let p := Float.pow base y
      if p.isInf then .error (.overflow .power) else .ok (.float (if negate then -p else p))

/-- Powers with more bits than this are refused for want of memory. -/
def bitLimit : Nat := Nat.pow 2 33

/-- The power of integers: exact, unless the exponent is negative. -/
def intPow (m n : Int) : Result Value := do
  if n < 0 then return ← floatPow (← widen m) (← widen n)
  if m.natAbs ≤ 1 then
    return .int (if m == 0 then (if n == 0 then 1 else 0) else if n % 2 == 0 then 1 else m)
  if bitLimit < Nat.log2 m.natAbs * n.toNat then throw .memory
  return .int (Int.pow m n.toNat)

def pow (a b : Value) : Result Value := do
  match ← pairFor "** or pow()" a b with
  | .ints m n => intPow m n
  | .floats x y => floatPow x y
  | .complexes u v => complexPow u v

/-! ## Signs -/

def negate (a : Value) : Result Value :=
  match a.numeric? with
  | some (.int n) => .ok (.int (-n))
  | some (.float x) => .ok (.float (-x))
  | some (.complex re im) => .ok (.complex (-re) (-im))
  | Option.none => .error (.type (.operand "unary -" a.kind))

def affirm (a : Value) : Result Value :=
  match a.numeric? with
  | some (.int n) => .ok (.int n)
  | some (.float x) => .ok (.float x)
  | some (.complex re im) => .ok (.complex re im)
  | Option.none => .error (.type (.operand "unary +" a.kind))

end LineScript.Value
