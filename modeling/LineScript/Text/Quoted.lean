import LineScript.Text.Digit
import LineScript.Text.Printable
import LineScript.Text.Utf8

/-!
# Quoted texts

The written form of a text inside a larger value or a message: in quotes, with escapes for the
quote, the backslash, the line ends and tabs, and every character that does not print. Single
quotes are taken unless the text holds one and holds no double quote.
-/

namespace LineScript.Text

/-- The digits of `n` in the given base, at least `width` of them. -/
def digits (base width n : Nat) : List Char :=
  let ds := Nat.toDigits base n
  List.replicate (width - ds.length) '0' ++ ds

/-- The number of a character after a backslash: two, four or eight digits of base 16. -/
def numbered (n : Nat) : List Char :=
  if n < 0x100 then '\\' :: 'x' :: digits 16 2 n
  else if n < 0x10000 then '\\' :: 'u' :: digits 16 4 n
  else '\\' :: 'U' :: digits 16 8 n

def quoteFor (cs : List Char) : Char :=
  if cs.contains '\'' && !cs.contains '"' then '"' else '\''

/-- One character inside quotes; `plain` says which characters stand for themselves. -/
def escaped (plain : Char → Bool) (quote c : Char) : List Char :=
  if c == quote || c == '\\' then ['\\', c]
  else if c == '\n' then ['\\', 'n']
  else if c == '\r' then ['\\', 'r']
  else if c == '\t' then ['\\', 't']
  else if plain c then [c]
  else numbered c.toNat

def enquote (plain : Char → Bool) (cs : List Char) : List Char :=
  let quote := quoteFor cs
  quote :: cs.flatMap (escaped plain quote) ++ [quote]

def quoted (s : String) : String :=
  String.ofList (enquote isPrintable s.toList)

/-- Bytes in quotes after the letter `b`; a byte that is no plain character is numbered. -/
def quotedBytes (bytes : Bytes) : String :=
  let cs := bytes.map fun b => Char.ofNat b.toNat
  String.ofList ('b' :: enquote (fun c => decide (32 ≤ c.toNat) && decide (c.toNat < 127)) cs)

end LineScript.Text
