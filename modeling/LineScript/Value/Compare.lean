import LineScript.Value.Arithmetic

/-!
# Comparisons of values

Equality holds between any two values and never fails; order is defined between numbers that are not
complex, between texts, and between bytes.
-/

namespace LineScript.Value

/-- Equality of numbers, exact also between integers and doubles. -/
def numericEq : Numeric → Numeric → Bool
  | .int m, .int n => m == n
  | .int m, .float y => Number.compareInt m y == some .eq
  | .float x, .int n => Number.compareInt n x == some .eq
  | .float x, .float y => x == y
  | .int m, .complex c d => d == 0.0 && Number.compareInt m c == some .eq
  | .complex a b, .int n => b == 0.0 && Number.compareInt n a == some .eq
  | .float x, .complex c d => d == 0.0 && x == c
  | .complex a b, .float y => b == 0.0 && a == y
  | .complex a b, .complex c d => a == c && b == d

def equal : Value → Value → Bool
  | .none, .none => true
  | .str s, .str t => s == t
  | .bytes s, .bytes t => s == t
  | .ellipsis, .ellipsis => true
  | .table, .table => true
  | .builtin f, .builtin g => f == g
  | a, b =>
    match a.numeric?, b.numeric? with
    | some x, some y => numericEq x y
    | _, _ => false

/-- The order of two lists by their first difference. -/
def compareLists (xs ys : List Nat) : Ordering :=
  match xs, ys with
  | [], [] => .eq
  | [], _ :: _ => .lt
  | _ :: _, [] => .gt
  | x :: xs, y :: ys => if x < y then .lt else if y < x then .gt else compareLists xs ys

/-- How two values are ordered: nothing if their kinds have no order, and no ordering if one of them
is not a number. -/
def compare? (a b : Value) : Option (Option Ordering) :=
  match a, b with
  | .str s, .str t => some (some (compareLists (s.toList.map Char.toNat) (t.toList.map Char.toNat)))
  | .bytes s, .bytes t => some (some (compareLists (s.map UInt8.toNat) (t.map UInt8.toNat)))
  | a, b =>
    match a.numeric?, b.numeric? with
    | some (.int m), some (.int n) => some (some (compare m n))
    | some (.int m), some (.float y) => some (Number.compareInt m y)
    | some (.float x), some (.int n) => some ((Number.compareInt n x).map Ordering.swap)
    | some (.float x), some (.float y) => some (Number.compareFloat x y)
    | _, _ => Option.none

/-- The symbol of a comparison that asks for an order. -/
def orderSymbol : CompareOp → String
  | .lt => "<"
  | .le => "<="
  | .gt => ">"
  | .ge => ">="
  | op => op.className

/-- Whether an ordering satisfies the operator. -/
def holdsFor : CompareOp → Ordering → Bool
  | .lt, o => o == .lt
  | .le, o => o != .gt
  | .gt, o => o == .gt
  | .ge, o => o != .lt
  | _, _ => false

def ordered (op : CompareOp) (a b : Value) : Result Bool :=
  match compare? a b with
  | some (some o) => .ok (holdsFor op o)
  | some Option.none => .ok false
  | Option.none => .error (.type (.unordered (orderSymbol op) a.kind b.kind))

end LineScript.Value
