/-!
# Double precision numbers

A finite double is a sign, a mantissa and a power of two. This module takes doubles apart, rounds a
quotient of natural numbers to the nearest double, and computes on doubles what needs the exact
value: conversion from and to integers, comparison with integers, and the remainder.
-/

namespace LineScript.Number

/-- The quotient rounded to the nearest natural number, a half to the even one. -/
def roundDiv (num den : Nat) : Nat :=
  let q := num / den
  let r := num % den
  if den < 2 * r || (2 * r == den && q % 2 == 1) then q + 1 else q

/-- `num / den * base ^ power` as a fraction. -/
def scale (num den base : Nat) (power : Int) : Nat × Nat :=
  if 0 ≤ power then (num * Nat.pow base power.toNat, den)
  else (num, den * Nat.pow base (-power).toNat)

/-! ## Taking a double apart -/

/-- The number `± mantissa * 2 ^ exponent`. -/
structure Dyadic where
  negative : Bool
  mantissa : Nat
  exponent : Int
  deriving DecidableEq, Repr

inductive Shape where
  | finite (value : Dyadic)
  | infinite (negative : Bool)
  | notANumber
  deriving DecidableEq, Repr

/-- The exponent of the smallest positive double. -/
def leastExponent : Int := -1074

/-- What the bits of a double stand for. -/
def shapeOfBits (bits : Nat) : Shape :=
  let negative := bits / Nat.pow 2 63 % 2 == 1
  let biased : Nat := bits / Nat.pow 2 52 % 2048
  let fraction : Nat := bits % Nat.pow 2 52
  if biased == 2047 then (if fraction == 0 then .infinite negative else .notANumber)
  else if biased == 0 then .finite ⟨negative, fraction, leastExponent⟩
  else .finite ⟨negative, Nat.pow 2 52 + fraction, (biased : Int) - 1075⟩

def shape (x : Float) : Shape :=
  shapeOfBits x.toBits.toNat

def infinity (negative : Bool) : Float :=
  Float.ofBits (if negative then 0xFFF0000000000000 else 0x7FF0000000000000)

def notANumber : Float :=
  Float.ofBits 0x7FF8000000000000

/-- Whether the sign bit is set, also for zero. -/
def isNegative (x : Float) : Bool :=
  x.toBits.toNat / Nat.pow 2 63 % 2 == 1

def signedZero (negative : Bool) : Float :=
  Float.ofBits (if negative then 0x8000000000000000 else 0)

/-! ## Rounding to a double -/

/-- The exponent at which the quotient of two positive numbers has a mantissa of 53 bits, or the
least exponent if that is greater. -/
def quotientExponent (num den : Nat) : Int :=
  let guess := (Nat.log2 num : Int) - Nat.log2 den - 53
  let (n, d) := scale num den 2 (-guess)
  let exact := if Nat.pow 2 53 ≤ n / d then guess + 1 else guess
  max exact leastExponent

/-- The bits of `mantissa * 2 ^ exponent` for a mantissa of at most `2 ^ 53`, unless it is too
large. -/
def bitsOfParts (mantissa : Nat) (exponent : Int) : Option Nat :=
  let (m, e) := if mantissa == Nat.pow 2 53 then (Nat.pow 2 52, exponent + 1) else (mantissa, exponent)
  if m < Nat.pow 2 52 then some m
  else
    let biased := (e + 1075).toNat
    if 2047 ≤ biased then none else some (biased * Nat.pow 2 52 + (m - Nat.pow 2 52))

/-- The double nearest to `± num / den`, a half to the even mantissa; nothing if it is too large. -/
def ofRatio? (negative : Bool) (num den : Nat) : Option Float :=
  if num == 0 then some (signedZero negative)
  else
    let e := quotientExponent num den
    let (n, d) := scale num den 2 (-e)
    (bitsOfParts (roundDiv n d) e).map fun bits =>
      Float.ofBits (UInt64.ofNat (if negative then Nat.pow 2 63 + bits else bits))

/-- The double nearest to `± digits * 10 ^ exponent`; infinite if it is too large. Far exponents are
decided without computing the power. -/
def ofDecimal (negative : Bool) (digits : Nat) (exponent : Int) : Float :=
  if digits == 0 then signedZero negative
  else
    let places := (Nat.log2 digits : Int) * 30103 / 100000 + exponent
    if 400 < places then infinity negative
    else if places < -400 then signedZero negative
    else
      let (n, d) := scale digits 1 10 exponent
      (ofRatio? negative n d).getD (infinity negative)

/-- The double nearest to an integer; nothing if it is too large. -/
def ofInt? (n : Int) : Option Float :=
  ofRatio? (n < 0) n.natAbs 1

/-! ## Integers and doubles -/

/-- A finite double as a fraction of integers with a positive denominator. -/
def Dyadic.toFraction (d : Dyadic) : Int × Nat :=
  let (n, den) := scale d.mantissa 1 2 d.exponent
  (if d.negative then -(n : Int) else n, den)

/-- The integer part of a finite double. -/
def Dyadic.truncate (d : Dyadic) : Int :=
  let (n, den) := scale d.mantissa 1 2 d.exponent
  if d.negative then -((n / den : Nat) : Int) else ((n / den : Nat) : Int)

/-- The nearest integer to a finite double, a half to the even one. -/
def Dyadic.round (d : Dyadic) : Int :=
  let (n, den) := scale d.mantissa 1 2 d.exponent
  if d.negative then -(roundDiv n den : Int) else roundDiv n den

/-- Compare an integer with a double; nothing if the double is not a number. -/
def compareInt (n : Int) (x : Float) : Option Ordering :=
  match shape x with
  | .notANumber => none
  | .infinite negative => some (if negative then .gt else .lt)
  | .finite d =>
    let (num, den) := d.toFraction
    some (compare (n * den) num)

/-- Compare two doubles; nothing if one is not a number. -/
def compareFloat (x y : Float) : Option Ordering :=
  if x < y then some .lt else if y < x then some .gt else if x == y then some .eq else none

/-! ## Remainder -/

/-- The remainder of the absolute values of two finite doubles, the second not zero, with the sign
of the first. It is always a double. -/
def finiteRemainder (x y : Dyadic) : Float :=
  let e := min x.exponent y.exponent
  let a := x.mantissa * Nat.pow 2 (x.exponent - e).toNat
  let b := y.mantissa * Nat.pow 2 (y.exponent - e).toNat
  let (n, d) := scale (a % b) 1 2 e
  (ofRatio? x.negative n d).getD (signedZero x.negative)

/-- The remainder of a division that rounds toward zero. -/
def truncatedRemainder (x y : Float) : Float :=
  match shape x, shape y with
  | .finite a, .finite b => if b.mantissa == 0 then notANumber else finiteRemainder a b
  | .finite _, .infinite _ => x
  | _, _ => notANumber

/-- The remainder with the sign of the divisor, which is not zero. -/
def floorRemainder (x y : Float) : Float :=
  let r := truncatedRemainder x y
  if r == 0.0 then signedZero (isNegative y)
  else if (y < 0.0) != (r < 0.0) then r + y
  else r

/-- One step of Newton's method after another, downward from a guess above the root. -/
def descendToRoot : Nat → Nat → Nat → Nat
  | 0, _, guess => guess
  | fuel + 1, n, guess =>
    let next := (guess + n / guess) / 2
    if next < guess then descendToRoot fuel n next else guess

/-- The integer part of the square root. -/
def rootFloor (n : Nat) : Nat :=
  descendToRoot (Nat.log2 n + 8) n (Nat.pow 2 (Nat.log2 n / 2 + 1))

/-- The length of the hypotenuse over two finite sides, rounded once; nothing if it is too large.
The root is taken to 128 further bits, with a last bit that says whether it was exact, so that it
rounds to a double as the exact root does. -/
def finiteHypotenuse (x y : Dyadic) : Option Float :=
  let e := min x.exponent y.exponent
  let a := x.mantissa * Nat.pow 2 (x.exponent - e).toNat
  let b := y.mantissa * Nat.pow 2 (y.exponent - e).toNat
  let square := (a * a + b * b) * Nat.pow 2 256
  let r := rootFloor square
  let root := if r * r == square then 2 * r else 2 * r + 1
  let (n, d) := scale root 1 2 (e - 129)
  ofRatio? false n d

/-- The length of the hypotenuse; nothing if it is too large. -/
def hypotenuse (x y : Float) : Option Float :=
  match shape x, shape y with
  | .infinite _, _ => some (infinity false)
  | _, .infinite _ => some (infinity false)
  | .finite a, .finite b => finiteHypotenuse a b
  | _, _ => some notANumber

end LineScript.Number
