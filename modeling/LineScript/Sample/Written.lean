import LineScript.Json
import LineScript.Sample
import LineScript.Text.Blank

/-!
# Objects known by their written form

Exact decimals and fractions, dates and times, spans of time, identifiers and paths: each is a sample
that holds its kind and its written form.
-/

namespace LineScript.Sample

/-! ## Decimals -/

/-- Digits with a point: positional if no digit is missing before the units and at most six places
precede the first digit, and with an exponent otherwise. -/
def decimalNotation (digits : List Char) (exponent : Int) : List Char :=
  let adjusted := exponent + digits.length
  let positional := exponent ≤ 0 && -6 < adjusted
  let point : Int := if positional then adjusted else 1
  let body :=
    if point ≤ 0 then '0' :: '.' :: List.replicate (-point).toNat '0' ++ digits
    else if digits.length ≤ point.toNat then
      digits ++ List.replicate (point.toNat - digits.length) '0'
    else digits.take point.toNat ++ '.' :: digits.drop point.toNat
  if adjusted == point then body
  else
    let e := adjusted - point
    body ++ 'E' :: (if e < 0 then [] else ['+']) ++ (Number.decimalText e).toList

/-- The canonical form of a decimal's text. -/
def decimalForm (s : String) : String :=
  let cs := (Text.trim s.toList).filter (· != '_')
  let (negative, cs) := match cs with
    | '-' :: rest => (true, rest)
    | '+' :: rest => (false, rest)
    | rest => (false, rest)
  let sign := if negative then "-" else ""
  let lower := (String.ofList cs).toLower
  if lower == "inf" || lower == "infinity" then sign ++ "Infinity"
  else if lower.startsWith "nan" then sign ++ "NaN" ++ String.ofList (cs.drop 3)
  else if lower.startsWith "snan" then sign ++ "sNaN" ++ String.ofList (cs.drop 4)
  else
    let (mantissa, tail) := cs.span fun c => c != 'e' && c != 'E'
    let (whole, fraction) := mantissa.span (· != '.')
    let places := fraction.drop 1
    let power : Int := match tail.drop 1 with
      | '-' :: ds => -(Json.decimalValue ds : Int)
      | '+' :: ds => Json.decimalValue ds
      | ds => Json.decimalValue ds
    let digits := Nat.toDigits 10 (Json.decimalValue (whole ++ places))
    sign ++ String.ofList (decimalNotation digits (power - places.length))

def decimal (s : String) : Sample :=
  .written "Decimal" ("Decimal('" ++ decimalForm s ++ "')")

/-- A fraction in lowest terms with a positive denominator. -/
def fraction (numerator denominator : Int) : Sample :=
  let g : Int := Int.gcd numerator denominator
  let (n, d) := if denominator < 0 then (-numerator, -denominator) else (numerator, denominator)
  .written "Fraction" s!"Fraction({n / g}, {d / g})"

/-! ## Dates and times -/

def applied (name : String) (parts : List Int) : String :=
  name ++ "(" ++ ", ".intercalate (parts.map Number.decimalText) ++ ")"

/-- Numbers up to a count, with zeros for those that are missing. -/
def filled (count : Nat) (parts : List Int) : List Int :=
  parts ++ List.replicate (count - parts.length) 0

/-- Take a zero away from the end, at most `n` times. -/
def dropLastZeros : Nat → List Int → List Int
  | 0, parts => parts
  | n + 1, parts => if parts.getLast? == some 0 then dropLastZeros n parts.dropLast else parts

def date (parts : List Int) : Sample :=
  .written "date" (applied "datetime.date" parts)

/-- A time of the day: the seconds and their fraction are left out if they are zero. -/
def time (parts : List Int) : Sample :=
  .written "time" (applied "datetime.time" (dropLastZeros 2 (filled 4 parts)))

def datetime (parts : List Int) : Sample :=
  .written "datetime" (applied "datetime.datetime" (dropLastZeros 2 (filled 7 parts)))

/-- A span of time from days, seconds, microseconds, milliseconds, minutes, hours and weeks. Only the
days can be negative in its written form. -/
def span (parts : List Int) : Sample :=
  let scales : List Int := [86400000000, 1000000, 1, 1000, 60000000, 3600000000, 604800000000]
  let total := (List.zipWith (· * ·) parts scales).foldl (· + ·) 0
  let days := total.fdiv 86400000000
  let rest := total.fmod 86400000000
  let shown := [("days", days), ("seconds", rest / 1000000), ("microseconds", rest % 1000000)].filterMap
    fun (name, n) => if n == 0 then none else some (name ++ "=" ++ Number.decimalText n)
  let body := if shown.isEmpty then "0" else ", ".intercalate shown
  .written "timedelta" ("datetime.timedelta(" ++ body ++ ")")

/-! ## Identifiers and paths -/

/-- An identifier of 32 digits in five groups. -/
def identifier (digits : String) : Sample :=
  let cs := digits.toList
  let part := fun i n => String.ofList ((cs.drop i).take n)
  let groups := [part 0 8, part 8 4, part 12 4, part 16 4, part 20 12]
  .written "UUID" ("UUID('" ++ "-".intercalate groups ++ "')")

/-- A path without empty names and dots. Two slashes at the beginning stay two. -/
def purePath (path : String) : Sample :=
  let names := (path.splitOn "/").filter fun s => s != "" && s != "."
  let slashes := path.toList.takeWhile (· == '/')
  let root := if slashes.length == 2 then "//" else if slashes.isEmpty then "" else "/"
  let body := root ++ "/".intercalate names
  .written "PurePosixPath" ("PurePosixPath(" ++ Text.quoted (if body.isEmpty then "." else body) ++ ")")

end LineScript.Sample
