/-!
# Blanks

Which characters count as blank, and the removal of blanks at the ends of a text. Line ends are
blanks too; the zero width marks are not.
-/

namespace LineScript.Text

/-- The blank characters: tab to carriage return, the four information separators, the space, and
the space separators and line ends of the other scripts. -/
def isBlank (c : Char) : Bool :=
  let n := c.toNat
  (9 ≤ n && n ≤ 13) || (28 ≤ n && n ≤ 32) || n == 0x85 || n == 0xA0 || n == 0x1680 ||
    (0x2000 ≤ n && n ≤ 0x200A) || n == 0x2028 || n == 0x2029 || n == 0x202F || n == 0x205F ||
    n == 0x3000

def trimStart (cs : List Char) : List Char :=
  cs.dropWhile isBlank

def trimEnd (cs : List Char) : List Char :=
  (cs.reverse.dropWhile isBlank).reverse

def trim (cs : List Char) : List Char :=
  trimEnd (trimStart cs)

/-- Remove the blanks at both ends of a text. -/
def strip (s : String) : String :=
  String.ofList (trim s.toList)

/-- What follows `start` in `cs`, if `cs` begins with it. -/
def after? : List Char → List Char → Option (List Char)
  | [], cs => some cs
  | p :: ps, c :: cs => if p = c then after? ps cs else none
  | _ :: _, [] => none

/-- Whether a text begins with another. -/
def startsWith (s start : String) : Bool :=
  (after? start.toList s.toList).isSome

def endsWith (s tail : String) : Bool :=
  (after? tail.toList.reverse s.toList.reverse).isSome

end LineScript.Text
