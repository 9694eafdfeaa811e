import LineScript.Value.Convert

/-!
# Formatted texts

A text with directives (`%d`, `%5.2f`, `%s`, …) and a value make a new text; bytes with directives
make new bytes. There is a single value to take, so a second directive that asks for one fails, and so
does a value that no directive takes.
-/

namespace LineScript.Format

/-! ## Directives -/

structure Flags where
  left : Bool := false
  sign : Bool := false
  blank : Bool := false
  alternate : Bool := false
  zero : Bool := false

/-- The flag that a character stands for. -/
def Flags.add? (f : Flags) : Char → Option Flags
  | '-' => some { f with left := true }
  | '+' => some { f with sign := true }
  | ' ' => some { f with blank := true }
  | '#' => some { f with alternate := true }
  | '0' => some { f with zero := true }
  | _ => none

/-- A directive: its flags, width and precision, its letter and the letter's index in the text, and
whether the letter stands right behind a digit of the width or the precision. -/
structure Directive where
  flags : Flags
  width : Option Nat
  precision : Option Nat
  letter : Char
  index : Nat
  afterNumber : Bool

/-- Whether the template is a text or bytes. -/
inductive Target where
  | text
  | bytes
  deriving DecidableEq

/-- The value to take, and whether it has been taken. -/
structure Supply where
  value : Value
  taken : Bool

def Supply.take (s : Supply) : Result (Value × Supply) :=
  if s.taken then .error (.type .tooFewFormatted) else .ok (s.value, { s with taken := true })

/-- Whether keys can be looked up in a value. -/
def isMapping (target : Target) : Value → Bool
  | .table => true
  | .bytes _ => target == .text
  | _ => false

/-- What stands between the percent sign and the letter: text to read, and the index of its next
character. -/
structure Cursor where
  rest : List Char
  index : Nat

def Cursor.next (c : Cursor) : Result (Char × Cursor) :=
  match c.rest with
  | [] => .error (.value .incompleteFormat)
  | x :: rest => .ok (x, ⟨rest, c.index + 1⟩)

/-- The text up to the bracket that closes a key, if there is one. -/
def closesKey : Nat → List Char → Option (List Char)
  | _, [] => none
  | depth, c :: cs =>
    if c == ')' then
      if depth == 0 then some [] else (closesKey (depth - 1) cs).map (c :: ·)
    else if c == '(' then (closesKey (depth + 1) cs).map (c :: ·)
    else (closesKey depth cs).map (c :: ·)

/-- A key in a directive is looked up at once, and no value that has keys holds any. -/
def lookUpKey (target : Target) (v : Value) (rest : List Char) : Fault :=
  if !isMapping target v then .type .needsMapping
  else
    match closesKey 0 rest with
    | none => .value .incompleteKey
    | some key =>
      match v with
      | .bytes _ => .type .byteIndex
      | _ =>
        match target with
        | .text => .key (.text (String.ofList key))
        | .bytes => .key (.bytes (key.map fun c => c.toNat.toUInt8))

/-- Read flags, and give the first character that is none. `fuel` bounds their number. -/
def readFlags : Nat → Flags → Cursor → Result (Flags × Char × Cursor)
  | 0, _, _ => .error (.value .incompleteFormat)
  | fuel + 1, flags, cursor => do
    let (c, cursor) ← cursor.next
    match flags.add? c with
    | some flags => readFlags fuel flags cursor
    | none => return (flags, c, cursor)

/-- Read the digits of a number that begins with `n`, and give the first character that is none. -/
def readDigits (limit : Nat) (tooBig : ValueFault) : Nat → Nat → Cursor → Result (Nat × Char × Cursor)
  | 0, _, _ => .error (.value .incompleteFormat)
  | fuel + 1, n, cursor => do
    let (c, cursor) ← cursor.next
    if c.isDigit then
      let d := c.toNat - '0'.toNat
      if (limit - d) / 10 < n then throw (.value tooBig)
      readDigits limit tooBig fuel (10 * n + d) cursor
    else return (n, c, cursor)

/-- An integer taken from the supply for a width or a precision. -/
def takeInteger (s : Supply) : Result (Int × Supply) := do
  let (v, s) ← s.take
  match v with
  | .int n => return (n, s)
  | .bool b => return (if b then 1 else 0, s)
  | _ => throw (.type .starWantsInteger)

/-- The width: nothing, a number, or a star. -/
def readWidth (flags : Flags) (c : Char) (cursor : Cursor) (s : Supply) :
    Result (Flags × Option Nat × Char × Cursor × Supply) := do
  if c == '*' then
    let (n, s) ← takeInteger s
    if !Value.fitsIndex n then throw (.overflow .size)
    let flags := if n < 0 then { flags with left := true } else flags
    let (c, cursor) ← cursor.next
    return (flags, some n.natAbs, c, cursor, s)
  else if c.isDigit then
    let (n, c, cursor) ←
      readDigits (Nat.pow 2 63 - 1) .widthTooBig (cursor.rest.length + 1) (c.toNat - '0'.toNat) cursor
    return (flags, some n, c, cursor, s)
  else return (flags, none, c, cursor, s)

/-- The precision: nothing, or a point and a number or a star. -/
def readPrecision (target : Target) (c : Char) (cursor : Cursor) (s : Supply) :
    Result (Option Nat × Char × Cursor × Supply) := do
  if c != '.' then return (none, c, cursor, s)
  let (c, cursor) ← cursor.next
  if c == '*' then
    let (n, s) ← takeInteger s
    if !(-Int.pow 2 31 ≤ n && n < Int.pow 2 31) then throw (.overflow .shortSize)
    let (c, cursor) ← cursor.next
    return (some n.toNat, c, cursor, s)
  else if c.isDigit then
    let tooBig := match target with | .text => .precisionTooBig | .bytes => .bytePrecisionTooBig
    let (n, c, cursor) ←
      readDigits (Nat.pow 2 31 - 1) tooBig (cursor.rest.length + 1) (c.toNat - '0'.toNat) cursor
    return (some n, c, cursor, s)
  else return (some 0, c, cursor, s)

/-- Read a directive after its percent sign. -/
def readDirective (target : Target) (cursor : Cursor) (s : Supply) :
    Result (Directive × Cursor × Supply) := do
  if cursor.rest.head? == some '(' then throw (lookUpKey target s.value cursor.rest.tail)
  let (flags, c, cursor) ← readFlags (cursor.rest.length + 1) {} cursor
  let body := c :: cursor.rest
  let start := cursor.index
  let (flags, width, c, cursor, s) ← readWidth flags c cursor s
  let (precision, c, cursor, s) ← readPrecision target c cursor s
  let (c, cursor) ← if c == 'h' || c == 'l' || c == 'L' then cursor.next else .ok (c, cursor)
  let afterNumber := (body.take (cursor.index - start)).getLast?.any Char.isDigit
  return (⟨flags, width, precision, c, cursor.index - 1, afterNumber⟩, cursor, s)

/-! ## Layout -/

/-- Characters to the right of spaces, or to the left if asked for. -/
def justify (left : Bool) (width : Nat) (cs : List Char) : List Char :=
  let pad := List.replicate (width - cs.length) ' '
  if left then cs ++ pad else pad ++ cs

def layText (d : Directive) (cs : List Char) : List Char :=
  let cs := match d.precision with
    | some p => if d.letter == 'c' then cs else cs.take p
    | none => cs
  justify d.flags.left (d.width.getD 0) cs

/-- Lay out a number: its sign, the mark of its base, its digits. Zeros fill the width behind the sign
and the mark, spaces before them. -/
def layNumber (d : Directive) (negative : Bool) (mark body : List Char) : List Char :=
  let sign := if negative then ['-'] else if d.flags.sign then ['+'] else if d.flags.blank then [' ']
    else []
  let front := sign ++ mark
  if d.flags.zero && !d.flags.left then
    front ++ List.replicate (d.width.getD 0 - front.length - body.length) '0' ++ body
  else justify d.flags.left (d.width.getD 0) (front ++ body)

/-! ## Conversions -/

/-- The integer that a value counts as in an integer directive. -/
def integerFor (d : Directive) (v : Value) : Result Int :=
  let exact := d.letter == 'o' || d.letter == 'x' || d.letter == 'X'
  match v.numeric? with
  | some (.int n) => .ok n
  | some (.float x) =>
    if exact then .error (.type (.formatsInteger d.letter v.kind)) else Value.truncated x
  | _ =>
    .error (.type (if exact then .formatsInteger d.letter v.kind else .formatsReal d.letter v.kind))

/-- An integer directive. The precision is the least number of digits. -/
def formatInteger (d : Directive) (v : Value) : Result (List Char) := do
  let n ← integerFor d v
  let base := if d.letter == 'o' then 8 else if d.letter == 'x' || d.letter == 'X' then 16 else 10
  if base == 10 && !Number.hasText n then throw (.value (.digitLimit none))
  let ds := Nat.toDigits base n.natAbs
  let ds := if d.letter == 'X' then ds.map Char.toUpper else ds
  let ds := List.replicate (d.precision.getD 0 - ds.length) '0' ++ ds
  let mark := if d.flags.alternate && base != 10 then ['0', d.letter] else []
  return layNumber d (n < 0) mark ds

/-- The double that a value counts as in a real directive. -/
def realFor (target : Target) (v : Value) : Result Float :=
  match v.numeric?, target with
  | some (.int n), .text => Value.widen n
  | some (.int n), .bytes =>
    match Number.ofInt? n with
    | some x => .ok x
    | none => .error (.type (.realRequired v.kind))
  | some (.float x), _ => .ok x
  | _, .text => .error (.type (.notReal v.kind))
  | _, .bytes => .error (.type (.realRequired v.kind))

/-- The digits of a double by the letter of the directive, without its sign. -/
def realDigits (d : Directive) (x : Number.Dyadic) : List Char :=
  let (n, den) := x.toFraction
  let precision := d.precision.getD 6
  match d.letter.toLower with
  | 'e' => Number.scientificText n.natAbs den precision d.flags.alternate
  | 'f' => Number.fixedText n.natAbs den precision d.flags.alternate
  | _ => Number.generalText n.natAbs den precision d.flags.alternate

/-- A real directive; an upper case letter makes all letters upper case. -/
def formatReal (target : Target) (d : Directive) (v : Value) : Result (List Char) := do
  let x ← realFor target v
  let (negative, body) := match Number.shape x with
    | .finite y => (y.negative, realDigits d y)
    | .infinite negative => (negative, ['i', 'n', 'f'])
    | .notANumber => (false, ['n', 'a', 'n'])
  return layNumber d negative [] (if d.letter.isUpper then body.map Char.toUpper else body)

/-- The written form of a value; characters beyond the plain ones may have to be numbered. -/
def shownText (plainOnly : Bool) (v : Value) : Result (List Char) :=
  match v.shown? with
  | some s =>
    let cs := s.toList
    .ok (if plainOnly then cs.flatMap fun c => if c.toNat < 128 then [c] else Text.numbered c.toNat
      else cs)
  | none => .error (.value (.digitLimit none))

def printedText (v : Value) : Result (List Char) :=
  match v.text? with
  | some s => .ok s.toList
  | none => .error (.value (.digitLimit none))

def formatChar (v : Value) : Result (List Char) :=
  match v with
  | .str s => if s.length == 1 then .ok s.toList else .error (.type .formatsChar)
  | v =>
    match v.numeric? with
    | some (.int n) =>
      if n < 0 || 0x10FFFF < n then .error (.overflow .charRange) else .ok [Text.charOf n.toNat]
    | _ => .error (.type .formatsChar)

def formatByte (v : Value) : Result (List Char) :=
  match v with
  | .bytes b => if b.length == 1 then .ok (Value.byteChars b) else .error (.type .formatsByte)
  | v =>
    match v.numeric? with
    | some (.int n) =>
      if n < 0 || 255 < n then .error (.overflow .byteRange) else .ok [Char.ofNat n.toNat]
    | _ => .error (.type .formatsByte)

/-- Fill in a directive whose letter is one of the letters common to texts and bytes. -/
def fillNumber? (target : Target) (d : Directive) (v : Value) : Option (Result (List Char)) :=
  if ['d', 'i', 'u', 'o', 'x', 'X'].contains d.letter then some (formatInteger d v)
  else if ['e', 'E', 'f', 'F', 'g', 'G'].contains d.letter then some (formatReal target d v)
  else none

def fillText (d : Directive) (v : Value) : Result (List Char) :=
  match fillNumber? .text d v with
  | some r => r
  | none =>
    match d.letter with
    | 's' => (printedText v).map (layText d)
    | 'r' => (shownText false v).map (layText d)
    | 'a' => (shownText true v).map (layText d)
    | 'c' => (formatChar v).map (layText d)
    | c => .error (.value (.formatLetter c d.index))

/-- Fill in a directive of bytes. A letter beyond the plain characters can be named only right behind a
number. -/
def fillBytes (d : Directive) (v : Value) : Result (List Char) :=
  match fillNumber? .bytes (if d.letter == 'i' then { d with letter := 'd' } else d) v with
  | some r => r
  | none =>
    match d.letter with
    | 's' | 'b' =>
      match v with
      | .bytes b => .ok (layText d (Value.byteChars b))
      | v => .error (.type (.formatsBytes v.kind))
    | 'r' | 'a' => (shownText true v).map (layText d)
    | 'c' => (formatByte v).map (layText d)
    | c =>
      if 128 ≤ c.toNat && !d.afterNumber then .error (.overflow .charArgument)
      else .error (.value (.formatByteLetter c d.index))

def fill : Target → Directive → Value → Result (List Char)
  | .text, d, v => fillText d v
  | .bytes, d, v => fillBytes d v

/-! ## Templates -/

/-- Fill in a template. `fuel` bounds the number of its parts. -/
def expand (target : Target) : Nat → Cursor → Supply → Result (List Char × Supply)
  | 0, _, s => .ok ([], s)
  | fuel + 1, cursor, s =>
    match cursor.rest with
    | [] => .ok ([], s)
    | '%' :: '%' :: rest => do
      let (more, s) ← expand target fuel ⟨rest, cursor.index + 2⟩ s
      return ('%' :: more, s)
    | '%' :: rest => do
      let (d, cursor, s) ← readDirective target ⟨rest, cursor.index + 1⟩ s
      let (v, s) ← s.take
      let front ← fill target d v
      let (more, s) ← expand target fuel cursor s
      return (front ++ more, s)
    | c :: rest => do
      let (more, s) ← expand target fuel ⟨rest, cursor.index + 1⟩ s
      return (c :: more, s)

/-- Fill in a template with a value. A value with keys need not be taken. -/
def template (target : Target) (cs : List Char) (v : Value) : Result (List Char) := do
  let (out, s) ← expand target (cs.length + 1) ⟨cs, 0⟩ ⟨v, false⟩
  if !s.taken && !isMapping target v then
    throw (.type (.tooManyFormatted (match target with | .text => "string" | .bytes => "bytes")))
  return out

end LineScript.Format

namespace LineScript.Value

/-- The remainder of numbers; a text or bytes on the left is a template. -/
def mod (a b : Value) : Result Value :=
  match a with
  | .str s => (Format.template .text s.toList b).map fun cs => .str (String.ofList cs)
  | .bytes s =>
    (Format.template .bytes (byteChars s) b).map fun cs => .bytes (cs.map fun c => c.toNat.toUInt8)
  | a => numericMod a b

end LineScript.Value
