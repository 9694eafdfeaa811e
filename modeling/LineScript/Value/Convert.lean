import LineScript.Expr.Token
import LineScript.Text.Digit
import LineScript.Value.Arithmetic

/-!
# Conversions

Reading integers and doubles from texts, rounding, and decoding bytes: the work behind the builtins
that make one kind of value out of another.
-/

namespace LineScript.Value

/-! ## Texts of numbers -/

/-- The plain blanks: the space and the controls from tab to carriage return. -/
def isPlainBlank (c : Char) : Bool :=
  c == ' ' || ('\t' ≤ c && c ≤ '\r')

/-- A text with the digits and blanks of all scripts replaced by plain ones. A character that is
neither ends the text with a question mark. -/
def plainDigits : List Char → List Char
  | [] => []
  | c :: cs =>
    if c.toNat < 127 then c :: plainDigits cs
    else if Text.isBlank c then ' ' :: plainDigits cs
    else
      match Text.digitValue? c with
      | some d => Text.asciiDigit d :: plainDigits cs
      | Option.none => ['?']

/-- The plain form of a text; one without other characters is its own. -/
def plainForm (s : String) : List Char :=
  let cs := s.toList
  if cs.all (·.toNat < 128) then cs else plainDigits cs

/-- Why a text is no integer: it has too many digits, or it is malformed. -/
inductive IntegerFault where
  | tooLong (digits : Nat)
  | malformed

def takeSign : List Char → Bool × List Char
  | '-' :: cs => (true, cs)
  | '+' :: cs => (false, cs)
  | cs => (false, cs)

/-- The base that a mark after a zero stands for. -/
def markedBase? : List Char → Option Nat
  | '0' :: 'x' :: _ | '0' :: 'X' :: _ => some 16
  | '0' :: 'o' :: _ | '0' :: 'O' :: _ => some 8
  | '0' :: 'b' :: _ | '0' :: 'B' :: _ => some 2
  | _ => Option.none

/-- Remove the mark of the base, if there is one, and an underscore behind it. -/
def dropMark (base : Nat) (cs : List Char) : List Char :=
  if markedBase? cs == some base then
    match cs.drop 2 with
    | '_' :: rest => rest
    | rest => rest
  else cs

/-- Whether the digits of a base are whole bits, so that any number of them can be read. -/
def isBinaryBase (base : Nat) : Bool :=
  base == 2 || base == 4 || base == 8 || base == 16 || base == 32

/-- Read an integer. Base 0 takes the base from the mark in front of the digits, and digits without a
mark may then begin with zero only if they are all zeros. -/
def readInteger (base : Nat) (cs : List Char) : Except IntegerFault Int :=
  let (negative, cs) := takeSign (cs.dropWhile isPlainBlank)
  let zeroOnly := base == 0 && cs.head? == some '0' && (markedBase? cs).isNone
  let base := if base == 0 then (markedBase? cs).getD 10 else base
  let cs := dropMark base cs
  if cs.head? == some '_' then .error .malformed
  else
    match Expr.digitRun (Expr.isDigitOf base) [] cs with
    | Option.none => .error .malformed
    | some (ds, rest) =>
      if !isBinaryBase base && Number.digitLimit < ds.length then .error (.tooLong ds.length)
      else
        let n := Expr.digitsValue base ds
        if ds.isEmpty || (zeroOnly && n != 0) || !rest.all isPlainBlank then .error .malformed
        else .ok (if negative then -(n : Int) else n)

/-- Whether every underscore stands between digits. -/
def underscoresBetweenDigits : Option Char → List Char → Bool
  | _, [] => true
  | before, '_' :: rest =>
    (before.map Char.isDigit).getD false && (rest.head?.map Char.isDigit).getD false &&
      underscoresBetweenDigits (some '_') rest
  | _, c :: rest => underscoresBetweenDigits (some c) rest

def namedFloat? (negative : Bool) (cs : List Char) : Option Float :=
  let word := String.ofList (cs.map Char.toLower)
  if word == "inf" || word == "infinity" then some (Number.infinity negative)
  else if word == "nan" then some Number.notANumber
  else Option.none

/-- Read a double: digits with or without a point, and perhaps an exponent. -/
def readDecimal? (negative : Bool) (cs : List Char) : Option Float :=
  let (whole, rest) := cs.span Char.isDigit
  let (fraction, rest) := match rest with
    | '.' :: rest => rest.span Char.isDigit
    | rest => ([], rest)
  if whole.isEmpty && fraction.isEmpty then Option.none
  else
    let mantissa := Expr.digitsValue 10 (whole ++ fraction)
    let finish := fun (e : Int) => some (Number.ofDecimal negative mantissa (e - fraction.length))
    match rest with
    | [] => finish 0
    | e :: rest =>
      let (down, ds) := takeSign rest
      if (e == 'e' || e == 'E') && !ds.isEmpty && ds.all Char.isDigit then
        let n := Expr.digitsValue 10 ds
        finish (if down then -(n : Int) else n)
      else Option.none

/-- Read a double from a text, whose ends may be blank. -/
def readFloat? (cs : List Char) : Option Float :=
  let cs := ((cs.dropWhile isPlainBlank).reverse.dropWhile isPlainBlank).reverse
  if !underscoresBetweenDigits Option.none cs then Option.none
  else
    let (negative, rest) := takeSign (cs.filter (· != '_'))
    match namedFloat? negative rest with
    | some x => some x
    | Option.none => readDecimal? negative rest

/-! ## Integers -/

/-- The characters that bytes stand for, one by one. -/
def byteChars (b : Text.Bytes) : List Char :=
  b.map fun x => Char.ofNat x.toNat

/-- At most this many characters of a text are repeated in a message. -/
def shownLimit : Nat := 200

/-- Read an integer and say what was wrong with it; `shown` is the text as a message shows it. -/
def integerFrom (base : Int) (shown : String) (cs : List Char) : Result Value :=
  match readInteger base.toNat cs with
  | .ok n => .ok (.int n)
  | .error (.tooLong n) => .error (.value (.digitLimit (some n)))
  | .error .malformed =>
    .error (.value (.notAnInteger base (String.ofList (shown.toList.take shownLimit))))

def truncated (x : Float) : Result Int :=
  match Number.shape x with
  | .finite d => .ok d.truncate
  | .infinite _ => .error (.overflow .infinityToInteger)
  | .notANumber => .error (.value .notANumberToInteger)

/-- The integer that a value stands for. -/
def toInteger (v : Value) : Result Value :=
  match v with
  | .str s => integerFrom 10 (Text.quoted s) (plainForm s)
  | .bytes b => integerFrom 10 (Text.quotedBytes b) (byteChars b)
  | v =>
    match v.numeric? with
    | some (.int n) => .ok (.int n)
    | some (.float x) => (truncated x).map .int
    | _ => .error (.type (.toInteger v.kind))

/-- A value used as an index or a count. -/
def asIndex (v : Value) : Result Int :=
  match v with
  | .int n => .ok n
  | .bool b => .ok (if b then 1 else 0)
  | v => .error (.type (.notAnIndex v.kind))

/-- The integer that a text stands for in a base. -/
def toIntegerInBase (v base : Value) : Result Value := do
  let b ← asIndex base
  if (b != 0 && b < 2) || 36 < b then throw (.value .badBase)
  match v with
  | .str s => integerFrom b (Text.quoted s) (plainForm s)
  | .bytes s => integerFrom b (Text.quotedBytes s) (byteChars s)
  | _ => throw (.type .explicitBase)

/-! ## Doubles -/

/-- The double that a value stands for. -/
def toFloat (v : Value) : Result Value :=
  match v with
  | .str s =>
    match readFloat? (plainForm s) with
    | some x => .ok (.float x)
    | Option.none => .error (.value (.notAFloat (Text.quoted s)))
  | .bytes b =>
    match readFloat? (byteChars b) with
    | some x => .ok (.float x)
    | Option.none => .error (.value (.notAFloat (Text.quotedBytes b)))
  | v =>
    match v.numeric? with
    | some (.int n) => (widen n).map .float
    | some (.float x) => .ok (.float x)
    | _ => .error (.type (.toFloat v.kind))

/-! ## Rounding -/

/-- An integer rounded to a multiple of `10 ^ places`, a half to the even multiple. -/
def roundInteger (n : Int) (places : Nat) : Int :=
  if Nat.log2 n.natAbs < places then 0
  else
    let unit := Nat.pow 10 places
    let q := Number.roundDiv n.natAbs unit * unit
    if n < 0 then -(q : Int) else q

/-- A double rounded to a number of places behind the point. Places that no double has change nothing,
and places before all digits leave zero. -/
def roundFloat (x : Float) (places : Int) : Result Value :=
  match Number.shape x with
  | .finite d =>
    if 323 < places then .ok (.float x)
    else if places < -308 then .ok (.float (0.0 * x))
    else
      let (n, den) := d.toFraction
      let y := Number.ofDecimal d.negative (Number.roundTo n.natAbs den (-places)) (-places)
      if y.isInf then .error (.overflow .rounded) else .ok (.float y)
  | _ => .ok (.float x)

def roundToInteger (x : Float) : Result Value :=
  match Number.shape x with
  | .finite d => .ok (.int d.round)
  | .infinite _ => .error (.overflow .infinityToInteger)
  | .notANumber => .error (.value .notANumberToInteger)

/-- Round a number, to a number of places if one is given. -/
def rounded (v places : Value) : Result Value :=
  match v.numeric?, places with
  | some (.int n), .none => .ok (.int n)
  | some (.int n), p => do
    let p ← asIndex p
    return .int (if 0 ≤ p then n else roundInteger n (-p).toNat)
  | some (.float x), .none => roundToInteger x
  | some (.float x), p => do roundFloat x (← asIndex p)
  | _, _ => .error (.type (.notRounded v.kind))

/-! ## Decoding -/

inductive Encoding where
  | utf8
  | latin
  | ascii
  deriving DecidableEq

/-- The encoding of a name, which is taken without regard to case and separators. -/
def Encoding.ofName? (name : String) : Option Encoding :=
  let word := String.ofList ((name.toList.filter Char.isAlphanum).map Char.toLower)
  if ["utf8", "u8", "utf", "cp65001"].contains word then some .utf8
  else if ["latin1", "latin", "l1", "iso88591", "88591", "8859", "cp819"].contains word then some .latin
  else if ["ascii", "usascii", "646"].contains word then some .ascii
  else Option.none

/-- What becomes of bytes that cannot be decoded. -/
inductive OnError where
  | strict
  | ignore
  | replace
  | unknown (name : String)

def OnError.ofName : String → OnError
  | "strict" => .strict
  | "ignore" => .ignore
  | "replace" => .replace
  | name => .unknown name

/-- Decode what precedes a failure and what follows it, with `mark` in place of the bytes at fault.
`fuel` bounds the number of failures. -/
def decodeAround (mark : List Char) : Nat → Text.Bytes → List Char
  | 0, _ => []
  | fuel + 1, data =>
    match Text.Utf8.decode data with
    | .ok cs => cs
    | .error f =>
      let front := match Text.Utf8.decode (data.take f.position) with
        | .ok cs => cs
        | .error _ => []
      front ++ mark ++ decodeAround mark fuel (data.drop (f.position + f.length))

/-- Decode bytes as UTF-8. -/
def decodeUtf8 (bytes : Text.Bytes) (onError : OnError) : Result (List Char) :=
  match Text.Utf8.decode bytes with
  | .ok cs => .ok cs
  | .error f =>
    match onError with
    | .strict => .error (.decode f)
    | .ignore => .ok (decodeAround [] (bytes.length + 1) bytes)
    | .replace => .ok (decodeAround [Char.ofNat 0xFFFD] (bytes.length + 1) bytes)
    | .unknown name => .error (.errorHandler name)

/-- Decode bytes each of which is a plain character. -/
def decodeAscii (bytes : Text.Bytes) (onError : OnError) : Result (List Char) :=
  match bytes.findIdx? (128 ≤ ·) with
  | Option.none => .ok (byteChars bytes)
  | some i =>
    match onError with
    | .strict => .error (.decodePlain ((bytes[i]?).getD 0) i)
    | .ignore => .ok (byteChars (bytes.filter (· < 128)))
    | .replace =>
      .ok (bytes.map fun b => if b < 128 then Char.ofNat b.toNat else Char.ofNat 0xFFFD)
    | .unknown name => .error (.errorHandler name)

/-- Decode bytes by an encoding's name. -/
def decoded (bytes : Text.Bytes) (encoding : String) (onError : OnError) : Result Value :=
  if bytes.isEmpty then .ok (.str "")
  else
    match Encoding.ofName? encoding with
    | some .utf8 => (decodeUtf8 bytes onError).map fun cs => .str (String.ofList cs)
    | some .latin => .ok (.str (String.ofList (byteChars bytes)))
    | some .ascii => (decodeAscii bytes onError).map fun cs => .str (String.ofList cs)
    | Option.none => .error (.encoding encoding)

end LineScript.Value
