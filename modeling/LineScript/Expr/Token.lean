import LineScript.Text.Blank
import LineScript.Text.Identifier
import LineScript.Value

/-!
# Tokens of an expression

An expression's text is cut into words, numbers, quoted texts and operators. Line ends count only
outside brackets; a line outside brackets may not be indented; brackets must match. Text that cannot
be cut has no tokens.
-/

namespace LineScript.Expr

/-- A quoted text as it stands: the marks in front of it, and what is between the quotes. -/
structure Quotation where
  bytes : Bool
  raw : Bool
  formatted : Bool
  body : List Char
  deriving DecidableEq, Repr

inductive Token where
  | word (text : String)
  | number (v : Value)
  | quotation (q : Quotation)
  | op (text : String)
  | newline

/-! ## Numbers -/

/-- The characters that can belong to a word before it is looked at as a whole. -/
def isWordChar (c : Char) : Bool :=
  Text.isPlainWord c || 128 ≤ c.toNat

/-- Words that may follow a number without a blank. -/
def wordsAfterNumber : List String :=
  ["and", "else", "for", "if", "in", "is", "or", "not"]

/-- Whether a number may end before `cs`. -/
def endsNumber (cs : List Char) : Bool :=
  match cs with
  | [] => true
  | c :: _ => !isWordChar c || wordsAfterNumber.any fun w => (Text.after? w.toList cs).isSome

/-- A run of digits with single underscores before digits, which are left out. `acc` holds the
digits read, last first. -/
def digitRun (isDigit : Char → Bool) (acc : List Char) : List Char → Option (List Char × List Char)
  | [] => some (acc.reverse, [])
  | '_' :: cs =>
    match cs with
    | c :: _ => if isDigit c then digitRun isDigit acc cs else none
    | [] => none
  | c :: cs => if isDigit c then digitRun isDigit (c :: acc) cs else some (acc.reverse, c :: cs)

/-- The number that digits of a base spell. -/
def digitsValue (base : Nat) (ds : List Char) : Nat :=
  ds.foldl (fun n c => base * n + (Text.asciiDigit? c).getD 0) 0

def isDigitOf (base : Nat) (c : Char) : Bool :=
  match Text.asciiDigit? c with
  | some d => d < base
  | none => false

/-- The digits after `0x`, `0o` or `0b`. -/
def basedNumber (base : Nat) (cs : List Char) : Option (Value × List Char) := do
  let (ds, rest) ← digitRun (isDigitOf base) [] cs
  if ds.isEmpty || !endsNumber rest then none
  else some (.int (digitsValue base ds), rest)

/-- The exponent of a number: the text after the digits may begin with `e`, a sign and digits. If no
digit follows, the number ends before the `e`. -/
def exponentPart (cs : List Char) : Option (Option Int × List Char) :=
  match cs with
  | [] => some (none, [])
  | e :: rest =>
    if e != 'e' && e != 'E' then some (none, cs)
    else
      let (sign, hasSign, ds) := match rest with
        | '+' :: ds => ((1 : Int), true, ds)
        | '-' :: ds => (-1, true, ds)
        | ds => (1, false, ds)
      match ds with
      | d :: _ =>
        if d.isDigit then do
          let (digits, rest) ← digitRun Char.isDigit [] ds
          some (some (sign * digitsValue 10 digits), rest)
        else if hasSign then none
        else some (none, cs)
      | [] => if hasSign then none else some (none, cs)

/-- What stands behind the digits of a decimal number: an imaginary mark, or nothing. -/
def finishDecimal (whole fraction : List Char) (point : Bool) (exponent : Option Int)
    (rest : List Char) : Option (Value × List Char) :=
  let mantissa := digitsValue 10 (whole ++ fraction)
  let value := Number.ofDecimal false mantissa (exponent.getD 0 - fraction.length)
  match rest with
  | 'j' :: rest | 'J' :: rest =>
    if endsNumber rest then some (.complex 0.0 value, rest) else none
  | rest =>
    if !endsNumber rest then none
    else if point || exponent.isSome then some (.float value, rest)
    else if whole.head? == some '0' then
      if mantissa == 0 then some (.int 0, rest) else none
    else if Number.digitLimit < whole.length then none
    else some (.int mantissa, rest)

/-- A decimal number, whole or with a point, an exponent, an imaginary mark. -/
def decimalNumber (cs : List Char) : Option (Value × List Char) := do
  let (whole, rest) ← digitRun Char.isDigit [] cs
  let (point, rest) := match rest with
    | '.' :: rest => (true, rest)
    | rest => (false, rest)
  let startsWithDigit := match rest with
    | d :: _ => d.isDigit
    | [] => false
  let (fraction, rest) ←
    if point && startsWithDigit then digitRun Char.isDigit [] rest else some ([], rest)
  let (exponent, rest) ← exponentPart rest
  finishDecimal whole fraction point exponent rest

/-- A number at the front of `cs`, which begins with a digit or with a point before one. -/
def number (cs : List Char) : Option (Value × List Char) :=
  match cs with
  | '0' :: 'x' :: rest | '0' :: 'X' :: rest => basedNumber 16 rest
  | '0' :: 'o' :: rest | '0' :: 'O' :: rest => basedNumber 8 rest
  | '0' :: 'b' :: rest | '0' :: 'B' :: rest => basedNumber 2 rest
  | _ => decimalNumber cs

/-! ## Quotations -/

/-- The text up to the closing quote, and what follows it. A line end closes nothing. -/
def singleQuoted (quote : Char) (acc : List Char) : List Char → Option (List Char × List Char)
  | [] => none
  | '\\' :: c :: cs => singleQuoted quote (c :: '\\' :: acc) cs
  | c :: cs =>
    if c == quote then some (acc.reverse, cs)
    else if c == '\n' then none
    else singleQuoted quote (c :: acc) cs

/-- The text up to three closing quotes, and what follows them. -/
def tripleQuoted (quote : Char) (acc : List Char) : List Char → Option (List Char × List Char)
  | [] => none
  | '\\' :: c :: cs => tripleQuoted quote (c :: '\\' :: acc) cs
  | c :: cs =>
    match c == quote, cs with
    | true, d :: e :: rest =>
      if d == quote && e == quote then some (acc.reverse, rest) else tripleQuoted quote (c :: acc) cs
    | _, _ => tripleQuoted quote (c :: acc) cs

/-- The body of a quotation that begins with `quote`, which has been read. -/
def quotationBody (quote : Char) (cs : List Char) : Option (List Char × List Char) :=
  match cs with
  | a :: b :: rest =>
    if a == quote && b == quote then tripleQuoted quote [] rest
    else singleQuoted quote [] cs
  | _ => singleQuoted quote [] cs

/-- The marks that may stand in front of a quotation. -/
structure Marks where
  bytes : Bool := false
  raw : Bool := false
  plain : Bool := false
  formatted : Bool := false

/-- Add a letter to the marks, if the two go together. -/
def Marks.add? (m : Marks) (c : Char) : Option Marks :=
  if (c == 'b' || c == 'B') && !(m.bytes || m.plain || m.formatted) then some { m with bytes := true }
  else if (c == 'u' || c == 'U') && !(m.bytes || m.plain || m.raw || m.formatted) then
    some { m with plain := true }
  else if (c == 'r' || c == 'R') && !(m.raw || m.plain) then some { m with raw := true }
  else if (c == 'f' || c == 'F') && !(m.formatted || m.bytes || m.plain) then
    some { m with formatted := true }
  else none

/-- The marks and the opening quote at the front of a text, if it begins with a quotation. -/
def openQuotation (m : Marks) : List Char → Option (Marks × Char × List Char)
  | [] => none
  | c :: cs =>
    if c == '"' || c == '\'' then some (m, c, cs)
    else
      match m.add? c with
      | some m => openQuotation m cs
      | none => none

/-! ## Operators -/

/-- The operators, longer ones before their beginnings. -/
def operators : List String :=
  ["...", "**=", "//=", "<<=", ">>=", "!=", "->", ":=", "**", "//", "<<", ">>", "<=", ">=", "==",
   "<>", "+=", "-=", "*=", "/=", "%=", "&=", "|=", "^=", "@=", "+", "-", "*", "/", "%", "@", "&", "|",
   "^", "~", "<", ">", "(", ")", "[", "]", "\x7b", "\x7d", ",", ":", ".", ";", "="]

/-- The operator at the front of a text. -/
def operator? (cs : List Char) : Option (String × List Char) :=
  operators.findSome? fun o => (Text.after? o.toList cs).map fun rest => (o, rest)

def maxNesting : Nat := 200

/-- The closing bracket of an opening one. -/
def closing? : String → Option String
  | "(" => some ")"
  | "[" => some "]"
  | "\x7b" => some "\x7d"
  | _ => none

def isClosing (o : String) : Bool :=
  o == ")" || o == "]" || o == "\x7d"

/-- The closing brackets still to come after an operator. -/
def nest? (expected : List String) (o : String) : Option (List String) :=
  match closing? o with
  | some c => if expected.length < maxNesting then some (c :: expected) else none
  | none =>
    if isClosing o then
      match expected with
      | e :: rest => if e == o then some rest else none
      | [] => none
    else some expected

/-! ## Cutting the text -/

def isGap (c : Char) : Bool :=
  c == ' ' || c == '\t' || c == '\x0c'

/-- Skip a backslash that ends a line; a further line must follow. -/
def continueLine? : List Char → Option (List Char)
  | '\n' :: c :: cs => some (c :: cs)
  | _ => none

/-- The column of the first character of a line that is no gap, and the text from there. A form feed
starts the count again, and of several lines joined by backslashes the first indented one counts.
`fuel` bounds the number of characters. -/
def indentation : Nat → Nat → Nat → List Char → Option (Nat × List Char)
  | 0, _, _, _ => none
  | fuel + 1, column, joined, cs =>
    match cs with
    | ' ' :: cs => indentation fuel (column + 1) joined cs
    | '\t' :: cs => indentation fuel ((column / 8 + 1) * 8) joined cs
    | '\x0c' :: cs => indentation fuel 0 joined cs
    | '\\' :: cs =>
      match continueLine? cs with
      | some cs => indentation fuel column (if joined != 0 then joined else column) cs
      | none => none
    | cs => some (if joined != 0 then joined else column, cs)

/-- Whether nothing but a comment stands on the rest of the line. -/
def isVoidLine : List Char → Bool
  | '\n' :: _ => true
  | '#' :: _ => true
  | _ => false

/-- The text from the end of the line on. -/
def skipComment (cs : List Char) : List Char :=
  cs.dropWhile (· != '\n')

/-- Where the cutting stands: the closing brackets to come, whether a line has just begun, and
whether the line holds no token. -/
structure Cursor where
  expected : List String
  lineStart : Bool
  void : Bool

/-- Take the next token, if there is one, and move on. Nothing if the text cannot be cut. -/
def nextToken (cursor : Cursor) (cs : List Char) : Option (List Token × Cursor × List Char) :=
  if cursor.lineStart then do
    let (column, rest) ← indentation (cs.length + 1) 0 0 cs
    let void := isVoidLine rest
    if !void && cursor.expected.isEmpty && column != 0 then none
    else some ([], { cursor with lineStart := false, void := void }, rest)
  else
    match cs with
    | [] => none
    | c :: rest =>
      if isGap c then some ([], cursor, rest.dropWhile isGap)
      else if c == '#' then some ([], cursor, skipComment rest)
      else if c == '\n' then
        let token := if cursor.void || !cursor.expected.isEmpty then [] else [Token.newline]
        some (token, { cursor with lineStart := true }, rest)
      else if c == '\\' then (continueLine? rest).map fun rest => ([], cursor, rest)
      else
        match openQuotation {} cs with
        | some (marks, quote, rest) =>
          (quotationBody quote rest).map fun (body, rest) =>
            ([.quotation ⟨marks.bytes, marks.raw, marks.formatted, body⟩], cursor, rest)
        | none =>
          let pointNumber := c == '.' && (rest.head?.map Char.isDigit).getD false
          if c.isDigit || pointNumber then
            (number cs).map fun (v, rest) => ([.number v], cursor, rest)
          else if isWordChar c then
            let (w, rest) := cs.span isWordChar
            if Text.isIdentifier w then some ([.word (String.ofList w)], cursor, rest) else none
          else do
            let (o, rest) ← operator? cs
            let expected ← nest? cursor.expected o
            some ([.op o], { cursor with expected := expected }, rest)

/-- Cut the text after a cursor. `fuel` bounds the number of steps: each but the one at a line's start
takes a character, and no two of those follow one another. -/
def tokensFrom : Nat → Cursor → List Char → Option (List Token)
  | 0, _, _ => none
  | fuel + 1, cursor, cs =>
    if cs.isEmpty then (if cursor.expected.isEmpty then some [] else none)
    else do
      let (front, cursor, rest) ← nextToken cursor cs
      let more ← tokensFrom fuel cursor rest
      some (front ++ more)

/-- The tokens of a text. A text that holds the character of number zero has none. -/
def tokens? (cs : List Char) : Option (List Token) :=
  if cs.contains '\x00' then none
  else
    let cs := Text.unifyNewlines cs
    tokensFrom (2 * cs.length + 2) ⟨[], true, false⟩ cs

end LineScript.Expr
