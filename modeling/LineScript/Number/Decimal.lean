import LineScript.Number.Binary64
import LineScript.Text.Quoted

/-!
# Decimal texts of numbers

The written forms of integers and doubles: the fewest digits that read back, a fixed number of
places, an exponent with a fixed number of digits, and the choice between the last two.
-/

namespace LineScript.Number

/-! ## Integers -/

/-- Integers with more digits than this have no decimal text. -/
def digitLimit : Nat := 4300

/-- Whether an integer is small enough to have a decimal text. -/
def hasText (n : Int) : Bool :=
  -- Ten is more than `2 ^ 3`, so few bits settle most cases without the power.
  Nat.log2 n.natAbs < 3 * digitLimit || n.natAbs < Nat.pow 10 digitLimit

/-- The decimal text of an integer, whatever its size. -/
def decimalText (n : Int) : String :=
  let ds := String.ofList (Nat.toDigits 10 n.natAbs)
  if n < 0 then "-" ++ ds else ds

/-! ## Decimal grids -/

/-- The number `digits * 10 ^ exponent`. -/
structure Decimal where
  digits : Nat
  exponent : Int
  deriving DecidableEq, Repr

/-- The decimal without trailing zeros. `fuel` bounds their number. -/
def Decimal.reduce : Nat → Decimal → Decimal
  | 0, d => d
  | fuel + 1, d =>
    if d.digits % 10 == 0 && d.digits != 0 then reduce fuel ⟨d.digits / 10, d.exponent + 1⟩ else d

/-- Whether `10 ^ e ≤ num / den`. -/
def powerBelow (num den : Nat) (e : Int) : Bool :=
  let (n, d) := scale num den 10 (-e)
  d ≤ n

/-- The greatest power of ten not above `num / den`, for a positive fraction: an estimate from the
binary logarithms is off by at most one. -/
def decimalExponent (num den : Nat) : Int :=
  let guess := ((Nat.log2 num : Int) - Nat.log2 den) * 30103 / 100000
  if powerBelow num den (guess + 1) then guess + 1
  else if powerBelow num den guess then guess
  else guess - 1

/-- `num / den` in units of `10 ^ e`, rounded to the nearest unit, a half to the even one. -/
def roundTo (num den : Nat) (e : Int) : Nat :=
  let (n, d) := scale num den 10 (-e)
  roundDiv n d

/-! ## The fewest digits that read back -/

/-- The reals that round to a double: from `low / den` to `high / den`, ends included if `closed`.
The double itself is `mid / den`. -/
structure Interval where
  low : Nat
  mid : Nat
  high : Nat
  den : Nat
  closed : Bool

/-- The interval of a positive double. Below a power of two the neighbour is nearer than above. -/
def Dyadic.interval (x : Dyadic) : Interval :=
  let below := if x.mantissa == Nat.pow 2 52 && x.exponent != leastExponent then 1 else 2
  let (unit, den) := scale 1 1 2 (x.exponent - 2)
  ⟨(4 * x.mantissa - below) * unit, 4 * x.mantissa * unit, (4 * x.mantissa + 2) * unit, den,
    x.mantissa % 2 == 0⟩

/-- Whether `n / d` lies in the interval, for a denominator `d` that is a multiple of its own. -/
def Interval.holds (i : Interval) (n d : Nat) : Bool :=
  let low := i.low * (d / i.den)
  let high := i.high * (d / i.den)
  (low < n && n < high) || (i.closed && (n == low || n == high))

/-- The point of the grid `10 ^ e` next to the middle of the interval that lies in it; of two, the
nearer, and of two equally near the even one. -/
def Interval.gridPoint? (i : Interval) (e : Int) : Option Nat :=
  let (unit, factor) := scale 1 1 10 e
  let n := i.mid * factor
  let step := unit * i.den
  let den := i.den * factor
  let below := n / step
  let hitsBelow := i.holds (below * step) den
  let hitsAbove := i.holds ((below + 1) * step) den
  let nearest := roundDiv n step
  if hitsBelow && hitsAbove then some nearest
  else if hitsBelow then some below
  else if hitsAbove then some (below + 1)
  else none

/-- Try finer and finer grids, beginning with the one of exponent `e`. The last one is taken as it is, with
a unit for what would vanish. -/
def Interval.shortestFrom (i : Interval) : Nat → Int → Decimal
  | 0, e => ⟨max 1 (roundTo i.mid i.den e), e⟩
  | fuel + 1, e =>
    match i.gridPoint? e with
    | some n => ⟨n, e⟩
    | none => i.shortestFrom fuel (e - 1)

/-- The fewest digits that read back as a positive double; seventeen always do. -/
def Dyadic.shortest (x : Dyadic) : Decimal :=
  let i := x.interval
  (i.shortestFrom 17 (decimalExponent i.mid i.den)).reduce 20

/-! ## Notation -/

/-- An exponent of ten with its sign and at least two digits. -/
def exponentText (e : Int) : List Char :=
  'e' :: (if e < 0 then '-' else '+') :: Text.digits 10 2 e.natAbs

/-- Digits with `places` of them behind the point. -/
def pointed (ds : List Char) (places : Nat) (keepPoint : Bool) : List Char :=
  let ds := List.replicate (places + 1 - ds.length) '0' ++ ds
  let whole := ds.take (ds.length - places)
  if places == 0 && !keepPoint then whole else whole ++ '.' :: ds.drop (ds.length - places)

/-- A decimal in positional notation if its first digit stands between the fourth place behind the
point and the sixteenth before it, else with an exponent. `pointZero` is written behind a whole
number. -/
def Decimal.text (d : Decimal) (pointZero : List Char) : List Char :=
  let ds := Nat.toDigits 10 d.digits
  let first := (ds.length : Int) - 1 + d.exponent
  if -4 ≤ first && first < 16 then
    if 0 ≤ d.exponent then ds ++ List.replicate d.exponent.toNat '0' ++ pointZero
    else pointed ds (-d.exponent).toNat false
  else pointed ds (ds.length - 1) false ++ exponentText first

/-- Put a minus sign in front of a negative number. -/
def signed (negative : Bool) (cs : List Char) : List Char :=
  if negative then '-' :: cs else cs

def shortestText (pointZero : List Char) (x : Float) : List Char :=
  match shape x with
  | .notANumber => ['n', 'a', 'n']
  | .infinite negative => signed negative ['i', 'n', 'f']
  | .finite d =>
    if d.mantissa == 0 then signed d.negative ('0' :: pointZero)
    else signed d.negative (d.shortest.text pointZero)

/-- The text of a double, which shows that it is none of the integers. -/
def floatText (x : Float) : String :=
  String.ofList (shortestText ['.', '0'] x)

/-- The text of a complex number: the real part is left out if it is the positive zero. -/
def complexText (re im : Float) : String :=
  let imag := shortestText [] im
  if re.toBits == 0 then String.ofList (imag ++ ['j'])
  else
    let plus := if imag.head? == some '-' then [] else ['+']
    String.ofList ('(' :: shortestText [] re ++ plus ++ imag ++ ['j', ')'])

/-! ## Fixed places and exponents -/

/-- A nonnegative fraction with a fixed number of places. -/
def fixedText (num den places : Nat) (keepPoint : Bool) : List Char :=
  pointed (Nat.toDigits 10 (roundTo num den (-(places : Int)))) places keepPoint

/-- The digits of a nonnegative fraction, one before the point and `places` behind it, and the
exponent of the first. -/
def leading (num den places : Nat) : Nat × Int :=
  if num == 0 then (0, 0)
  else
    let e := decimalExponent num den
    let n := roundTo num den (e - places)
    if n == Nat.pow 10 (places + 1) then (n / 10, e + 1) else (n, e)

/-- A nonnegative fraction with an exponent. -/
def scientificText (num den places : Nat) (keepPoint : Bool) : List Char :=
  let (n, e) := leading num den places
  pointed (Nat.toDigits 10 n) places keepPoint ++ exponentText e

/-- Remove the zeros at the end of the places, and the point if nothing is left behind it. -/
def dropZeros (cs : List Char) : List Char :=
  if cs.contains '.' then
    match cs.reverse.dropWhile (· == '0') with
    | '.' :: rest => rest.reverse
    | rest => rest.reverse
  else cs

/-- A nonnegative fraction with a given number of digits, positional if its exponent is not below
`-4` and below that number. Zeros at the end are kept if asked for. -/
def generalText (num den precision : Nat) (keepZeros : Bool) : List Char :=
  let precision := max precision 1
  let (n, e) := leading num den (precision - 1)
  let trimmed := fun cs => if keepZeros then cs else dropZeros cs
  if -4 ≤ e && e < precision then
    trimmed (fixedText num den ((precision : Int) - 1 - e).toNat keepZeros)
  else trimmed (pointed (Nat.toDigits 10 n) (precision - 1) keepZeros) ++ exponentText e

/-- A double with a fixed number of places. -/
def placesText (places : Nat) (x : Float) : String :=
  match shape x with
  | .notANumber => "nan"
  | .infinite negative => String.ofList (signed negative ['i', 'n', 'f'])
  | .finite d => String.ofList (signed d.negative (fixedText d.toFraction.1.natAbs d.toFraction.2 places false))

/-- A double rounded to a number of places behind the point. -/
def roundPlaces (places : Nat) (x : Float) : Float :=
  match shape x with
  | .finite d =>
    ofDecimal d.negative (roundTo d.toFraction.1.natAbs d.toFraction.2 (-(places : Int))) (-(places : Int))
  | _ => x

/-- A double rounded to a number of digits. Zero has no sign then. -/
def roundDigits (count : Nat) (x : Float) : Float :=
  match shape x with
  | .finite d =>
    if d.mantissa == 0 then 0.0
    else
      let (n, e) := leading d.toFraction.1.natAbs d.toFraction.2 (count - 1)
      ofDecimal d.negative n (e - ((count - 1 : Nat) : Int))
  | _ => x

end LineScript.Number
