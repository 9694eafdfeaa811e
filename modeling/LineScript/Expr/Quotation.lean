import LineScript.Expr.Basic
import LineScript.Expr.Token
import LineScript.Text.Name

/-!
# Reading quotations

What a row of quotations stands for: the escapes are resolved and the parts joined. Parts that hold
fields are only checked: each field must hold an expression, whose grammar is a parameter here.
-/

namespace LineScript.Expr

/-! ## Escapes -/

/-- The number that exactly `count` digits of base 16 spell, and what follows them. -/
def hexDigits (count : Nat) (cs : List Char) : Option (Nat × List Char) :=
  let ds := cs.take count
  if ds.length == count && ds.all (isDigitOf 16) then some (digitsValue 16 ds, cs.drop count) else none

/-- Up to three digits of base 8. -/
def octalDigits (cs : List Char) : Nat × List Char :=
  let ds := (cs.take 3).takeWhile (isDigitOf 8)
  (digitsValue 8 ds, cs.drop ds.length)

/-- The control character that a letter names after a backslash. -/
def namedEscape? : Char → Option Char
  | '\\' => some '\\'
  | '\'' => some '\''
  | '"' => some '"'
  | 'a' => some '\x07'
  | 'b' => some '\x08'
  | 'f' => some '\x0c'
  | 'n' => some '\n'
  | 'r' => some '\r'
  | 't' => some '\t'
  | 'v' => some '\x0b'
  | _ => none

/-- The character whose name stands in braces, and what follows them. -/
def namedChar? : List Char → Option (Char × List Char)
  | '\x7b' :: cs =>
    match cs.dropWhile (· != '\x7d') with
    | [] => none
    | _ :: rest => (Text.Name.code? (cs.takeWhile (· != '\x7d'))).map fun n => (Text.charOf n, rest)
  | _ => none

/-- What stands for a backslash and the text after it: the characters meant, and the rest. `wide`
admits the escapes that name characters beyond the bytes, and a last backslash stands for itself. -/
def escape (wide : Bool) (cs : List Char) : Option (List Char × List Char) :=
  match cs with
  | [] => some (['\\'], [])
  | '\n' :: rest => some ([], rest)
  | c :: rest =>
    match namedEscape? c with
    | some d => some ([d], rest)
    | none =>
      if isDigitOf 8 c then
        let (n, rest) := octalDigits cs
        some ([Text.charOf (if wide then n else n % 256)], rest)
      else if c == 'x' then (hexDigits 2 rest).map fun (n, rest) => ([Text.charOf n], rest)
      else if wide && c == 'u' then (hexDigits 4 rest).map fun (n, rest) => ([Text.charOf n], rest)
      else if wide && c == 'U' then
        match hexDigits 8 rest with
        | some (n, rest) => if n < 0x110000 then some ([Text.charOf n], rest) else none
        | none => none
      else if wide && c == 'N' then (namedChar? rest).map fun (d, rest) => ([d], rest)
      else some (['\\', c], rest)

/-- Resolve the escapes of a text. `fuel` bounds its length. -/
def unescapeFrom (wide : Bool) : Nat → List Char → Option (List Char)
  | _, [] => some []
  | 0, _ :: _ => none
  | fuel + 1, c :: cs =>
    if c == '\\' then do
      let (front, rest) ← escape wide cs
      (unescapeFrom wide fuel rest).map (front ++ ·)
    else (unescapeFrom wide fuel cs).map (c :: ·)

def unescape (wide : Bool) (cs : List Char) : Option (List Char) :=
  unescapeFrom wide cs.length cs

/-! ## Fields -/

/-- The closing bracket of an opening one. -/
def closingChar? : Char → Option Char
  | '(' => some ')'
  | '[' => some ']'
  | '\x7b' => some '\x7d'
  | _ => none

/-- Where the text of a field's expression stands: the closing brackets to come, and the quote of a
quotation inside it. -/
structure FieldCursor where
  expected : List Char
  quote : Option (Char × Bool)

/-- Whether `c` before `next` is a comparison of two characters. -/
def isTwoCharComparison (c : Char) (next : Option Char) : Bool :=
  (c == '!' || c == '=' || c == '<' || c == '>') && next == some '='

/-- Whether three quotes `q` stand at the front. -/
def startsTriple (q : Char) (cs : List Char) : Bool :=
  cs.take 3 == [q, q, q]

/-- The cursor after the front of a field's text, and how many characters that is; nothing if the text
may not go on so. -/
def FieldCursor.advance (cursor : FieldCursor) (c : Char) (cs : List Char) :
    Option (FieldCursor × Nat) :=
  match cursor.quote with
  | some (q, triple) =>
    if c == '\\' then none
    else if c != q then some (cursor, 1)
    else if !triple then some ({ cursor with quote := none }, 1)
    else if startsTriple q (c :: cs) then some ({ cursor with quote := none }, 3)
    else some (cursor, 1)
  | none =>
    if c == '\\' || c == '#' then none
    else if c == '\'' || c == '"' then
      let triple := startsTriple c (c :: cs)
      some ({ cursor with quote := some (c, triple) }, if triple then 3 else 1)
    else
      match closingChar? c with
      | some close =>
        if maxNesting ≤ cursor.expected.length then none
        else some ({ cursor with expected := close :: cursor.expected }, 1)
      | none =>
        if c == ')' || c == ']' || c == '\x7d' then
          match cursor.expected with
          | close :: outer => if c == close then some ({ cursor with expected := outer }, 1) else none
          | [] => none
        else if cursor.expected.isEmpty && isTwoCharComparison c cs.head? then some (cursor, 2)
        else some (cursor, 1)

/-- Whether the expression of a field ends before `c`. -/
def FieldCursor.endsAt (cursor : FieldCursor) (c : Char) (cs : List Char) : Bool :=
  cursor.quote.isNone && cursor.expected.isEmpty && !isTwoCharComparison c cs.head? &&
    (c == '!' || c == ':' || c == '\x7d' || c == '=')

/-- The text of a field's expression, up to the mark that ends it. `acc` holds the characters read,
last first, and `fuel` bounds the number of those to come. -/
def fieldText : Nat → FieldCursor → List Char → List Char → Option (List Char × List Char)
  | 0, _, _, _ => none
  | _ + 1, _, _, [] => none
  | fuel + 1, cursor, acc, c :: cs =>
    if cursor.endsAt c cs then some (acc.reverse, c :: cs)
    else do
      let (cursor, count) ← cursor.advance c cs
      fieldText fuel cursor (((c :: cs).take count).reverse ++ acc) ((c :: cs).drop count)

/-- Literal text up to a brace: the text read, the brace and what follows it. A backslash and the
character after it belong together, and a brace after a backslash counts as any other. The braces
around the name of a character belong to the text; `named` says that such a name has begun. -/
def literalText (raw : Bool) : Bool → List Char → List Char → Option (List Char × Option Char × List Char)
  | _, acc, [] => some (acc.reverse, none, [])
  | true, acc, c :: cs => literalText raw (c != '\x7d') (c :: acc) cs
  | false, acc, '\\' :: 'N' :: '\x7b' :: cs =>
    if raw then some (('N' :: '\\' :: acc).reverse, some '\x7b', cs)
    else literalText raw true ('\x7b' :: 'N' :: '\\' :: acc) cs
  | false, acc, '\\' :: c :: cs =>
    if c == '\x7b' || c == '\x7d' then some (('\\' :: acc).reverse, some c, cs)
    else literalText raw false (c :: '\\' :: acc) cs
  | false, acc, c :: cs =>
    if c == '\x7b' || c == '\x7d' then some (acc.reverse, some c, cs)
    else literalText raw false (c :: acc) cs

/-- The conversion mark of a field, if there is one. -/
def skipConversion : List Char → Option (List Char)
  | '!' :: c :: rest => if c == 's' || c == 'r' || c == 'a' then some rest else none
  | '!' :: [] => none
  | cs => some cs

/-- The sign that repeats a field's text, if there is one. -/
def skipEquals : List Char → List Char
  | '=' :: rest => rest.dropWhile fun c => c == ' ' || ('\t' ≤ c && c ≤ '\r')
  | cs => cs

/-- Check texts with fields, and give what follows them: nothing, or the closing brace of the field
whose layout they are. Level 0 is the quotation itself, where a doubled brace stands for one; level 1
is the layout of one of its fields; a deeper one holds no fields. `valid` says which texts are
expressions, and `fuel` bounds the number of parts. -/
def formattedParts (valid : List Char → Bool) (raw : Bool) : Nat → Nat → List Char →
    Option (List Char)
  | 0, _, _ => none
  | fuel + 1, level, cs => do
    let (literal, brace, rest) ← literalText raw false [] cs
    let doubled := level == 0 && brace.isSome && rest.head? == brace
    let literal := if doubled then literal ++ brace.toList else literal
    let _ ← if raw then some literal else unescape true literal
    if doubled then formattedParts valid raw fuel level rest.tail
    else
      match brace with
      | none => some []
      | some '\x7b' =>
        if 2 ≤ level then none
        else do
          let (text, rest) ← fieldText (rest.length + 1) ⟨[], none⟩ [] rest
          if !valid text then none
          else do
            let rest ← skipConversion (skipEquals rest)
            let rest ← match rest with
              | ':' :: layout => formattedParts valid raw fuel (level + 1) layout
              | rest => some rest
            match rest with
            | '\x7d' :: rest => formattedParts valid raw fuel level rest
            | _ => none
      | some c => if level == 0 then none else some (c :: rest)

/-- Whether a quotation with fields is well formed. -/
def isFormatted (valid : List Char → Bool) (q : Quotation) : Bool :=
  match formattedParts valid q.raw (q.body.length + 1) 0 q.body with
  | some rest => rest.isEmpty
  | none => false

/-! ## Joining -/

/-- The characters of a quotation without fields. Bytes admit plain characters only. -/
def Quotation.chars? (q : Quotation) : Option (List Char) :=
  if q.bytes && q.body.any (128 ≤ ·.toNat) then none
  else if q.raw then some q.body
  else unescape (!q.bytes) q.body

/-- What a row of quotations stands for: bytes, a text, or a text with fields. -/
def joinQuotations (valid : List Char → Bool) (qs : List Quotation) : Option Expr :=
  if qs.all (·.bytes) then do
    let parts ← qs.mapM Quotation.chars?
    some (.const (.bytes (parts.flatten.map fun c => c.toNat.toUInt8)))
  else if qs.any (·.bytes) then none
  else if qs.any (·.formatted) then
    if qs.all fun q => if q.formatted then isFormatted valid q else q.chars?.isSome then
      some (.refused .formatted)
    else none
  else do
    let parts ← qs.mapM Quotation.chars?
    some (.const (.str (String.ofList parts.flatten)))

end LineScript.Expr
