import LineScript.Number.Decimal
import LineScript.Text.Digit
import LineScript.Text.Utf8

/-!
# JSON

A value type that keeps the order of object entries, a reader, and two printers: on one line, and with
every entry on a line of its own. Printed texts are plain: every other character is escaped. Infinite
numbers and the one that is none are read and printed by name.
-/

namespace LineScript

inductive Json where
  | null
  | bool (b : Bool)
  | int (n : Int)
  | float (x : Float)
  | str (s : String)
  | list (items : List Json)
  | object (entries : List (String × Json))

instance : Inhabited Json := ⟨.null⟩

namespace Json

/-- The name of a value's kind in messages. -/
def kindName : Json → String
  | null => "NoneType"
  | bool _ => "bool"
  | int _ => "int"
  | float _ => "float"
  | str _ => "str"
  | list _ => "list"
  | object _ => "dict"

/-- Set the entry of a key, in place if it is there. -/
def setEntry (entries : List (String × Json)) (key : String) (v : Json) : List (String × Json) :=
  match entries with
  | [] => [(key, v)]
  | (k, w) :: rest => if k == key then (k, v) :: rest else (k, w) :: setEntry rest key v

def get? : Json → String → Option Json
  | object entries, key => entries.lookup key
  | _, _ => none

/-! ## Printing -/

/-- Four digits of base 16 after a mark. -/
def unitText (n : Nat) : List Char :=
  '\\' :: 'u' :: (let ds := Nat.toDigits 16 n; List.replicate (4 - ds.length) '0' ++ ds)

def escapedChar (c : Char) : List Char :=
  if c == '"' then ['\\', '"']
  else if c == '\\' then ['\\', '\\']
  else if c == '\n' then ['\\', 'n']
  else if c == '\r' then ['\\', 'r']
  else if c == '\t' then ['\\', 't']
  else if c == '\x0c' then ['\\', 'f']
  else if c == '\x08' then ['\\', 'b']
  else if 32 ≤ c.toNat && c.toNat < 127 then [c]
  else if c.toNat < 0x10000 then unitText c.toNat
  else
    let n := c.toNat - 0x10000
    unitText (0xD800 + n / 1024) ++ unitText (0xDC00 + n % 1024)

def quotedText (s : String) : String :=
  String.ofList ('"' :: s.toList.flatMap escapedChar ++ ['"'])

def floatText (x : Float) : String :=
  match Number.shape x with
  | .notANumber => "NaN"
  | .infinite negative => if negative then "-Infinity" else "Infinity"
  | .finite _ => Number.floatText x

/-- The text of a value that holds no others. -/
def atomText : Json → String
  | null => "null"
  | bool b => if b then "true" else "false"
  | int n => Number.decimalText n
  | float x => floatText x
  | str s => quotedText s
  | list _ => "[]"
  | object _ => "\x7b\x7d"

mutual

/-- Whether all integers in a value are small enough to have a text. -/
def hasText : Json → Bool
  | int n => Number.hasText n
  | list items => allHaveText items
  | object entries => entriesHaveText entries
  | _ => true

def allHaveText : List Json → Bool
  | [] => true
  | v :: vs => hasText v && allHaveText vs

def entriesHaveText : List (String × Json) → Bool
  | [] => true
  | (_, v) :: es => hasText v && entriesHaveText es

end

/-- How the parts of a container are set apart: what stands between two of them, and what stands before
the first and after the last, at a given depth. -/
structure Layout where
  between : Nat → String
  before : Nat → String
  after : Nat → String

def Layout.line : Layout :=
  ⟨fun _ => ", ", fun _ => "", fun _ => ""⟩

def indented (width depth : Nat) : String :=
  "\n" ++ String.ofList (List.replicate (width * depth) ' ')

/-- Every part on a line of its own, indented by its depth. -/
def Layout.lines (width : Nat) : Layout :=
  ⟨fun d => "," ++ indented width (d + 1), fun d => indented width (d + 1), fun d => indented width d⟩

mutual

def render (l : Layout) (depth : Nat) : Json → String
  | list (v :: vs) =>
    "[" ++ l.before depth ++ render l (depth + 1) v ++ renderItems l depth vs ++ l.after depth ++ "]"
  | object ((k, v) :: es) =>
    "\x7b" ++ l.before depth ++ quotedText k ++ ": " ++ render l (depth + 1) v ++
      renderEntries l depth es ++ l.after depth ++ "\x7d"
  | v => v.atomText

/-- The items of a list after the first. -/
def renderItems (l : Layout) (depth : Nat) : List Json → String
  | [] => ""
  | v :: vs => l.between depth ++ render l (depth + 1) v ++ renderItems l depth vs

/-- The entries of an object after the first. -/
def renderEntries (l : Layout) (depth : Nat) : List (String × Json) → String
  | [] => ""
  | (k, v) :: es =>
    l.between depth ++ quotedText k ++ ": " ++ render l (depth + 1) v ++ renderEntries l depth es

end

def text (v : Json) : String :=
  v.render .line 0

/-- The text of a value with every entry on a line of its own, indented by two blanks a level. -/
def indentedText (v : Json) : String :=
  v.render (.lines 2) 0

/-! ## Reading -/

/-- What is wrong at some place of a text that is no value. -/
inductive Cause where
  | value
  | property
  | colon
  | comma
  | unterminated
  | control
  | escape
  | unit
  | extra
  | byteOrderMark
  deriving DecidableEq, Repr

def Cause.message : Cause → String
  | .value => "Expecting value"
  | .property => "Expecting property name enclosed in double quotes"
  | .colon => "Expecting ':' delimiter"
  | .comma => "Expecting ',' delimiter"
  | .unterminated => "Unterminated string starting at"
  | .control => "Invalid control character at"
  | .escape => "Invalid \\escape"
  | .unit => "Invalid \\uXXXX escape"
  | .extra => "Extra data"
  | .byteOrderMark => "Unexpected UTF-8 BOM (decode using utf-8-sig)"

/-- Why a text is no value: something is wrong with `left` characters still to be read, an integer has
too many digits, or lists and objects are nested too deeply. -/
inductive ReadFault where
  | malformed (cause : Cause) (left : Nat)
  | tooLong (digits : Nat)
  | tooDeep
  deriving DecidableEq, Repr

/-- The wording of a cause with the line and the column of its place. -/
def placedMessage (s : String) (cause : Cause) (left : Nat) : String :=
  let before := s.toList.take (s.length - left)
  let line := before.count '\n' + 1
  let column := (before.reverse.takeWhile (· != '\n')).length + 1
  s!"{cause.message}: line {line} column {column} (char {before.length})"

abbrev Reader (α : Type) := StateT (List Char) (Except ReadFault) α

/-- Fail at a place given by the number of characters from there on. -/
def refuseAt (cause : Cause) (left : Nat) : Reader α :=
  throw (.malformed cause left)

def refuse (cause : Cause) : Reader α := do
  refuseAt cause (← get).length

def isSpace (c : Char) : Bool :=
  c == ' ' || c == '\t' || c == '\n' || c == '\r'

def skipSpace : Reader Unit :=
  modify (·.dropWhile isSpace)

/-- Take a character away if it comes next. -/
def takeChar (c : Char) : Reader Bool := do
  match ← get with
  | d :: rest => if c == d then set rest; return true else return false
  | [] => return false

def takeText (w : String) : Reader Bool := do
  let cs ← get
  if w.toList.isPrefixOf cs then
    set (cs.drop w.length)
    return true
  return false

/-- Four digits of base 16 after a mark. At least one more character must follow them. -/
def readUnit : Reader Nat := do
  let cs ← get
  let values := (cs.take 4).filterMap fun c => (Text.asciiDigit? c).filter (· < 16)
  if values.length != 4 || cs.length < 5 then refuseAt .unit (cs.length + 1)
  modify (·.drop 4)
  return values.foldl (fun n d => 16 * n + d) 0

/-- The second half of a character beyond the first plane, if it comes next. -/
def readLowHalf : Reader (Option Nat) := do
  let cs ← get
  match cs with
  | '\\' :: 'u' :: rest =>
    if rest.length < 5 then return none
    set rest
    let m ← readUnit
    if 0xDC00 ≤ m && m < 0xE000 then return some m
    set cs
    return none
  | _ => return none

/-- The character after a backslash. Two halves of a character beyond the first plane are joined.
`start` is the number of characters from the opening quote on. -/
def readEscape (start : Nat) : Reader Char := do
  match ← get with
  | [] => refuseAt .unterminated start
  | c :: rest =>
    set rest
    match c with
    | '"' => return '"'
    | '\\' => return '\\'
    | '/' => return '/'
    | 'b' => return '\x08'
    | 'f' => return '\x0c'
    | 'n' => return '\n'
    | 'r' => return '\r'
    | 't' => return '\t'
    | 'u' =>
      let n ← readUnit
      if 0xD800 ≤ n && n < 0xDC00 then
        match ← readLowHalf with
        | some m => return Text.charOf (0x10000 + (n - 0xD800) * 1024 + (m - 0xDC00))
        | none => return Text.charOf n
      return Text.charOf n
    | _ => refuseAt .escape (rest.length + 2)

/-- The characters up to the closing quote. `fuel` bounds their number. -/
def readChars (start : Nat) : Nat → Reader (List Char)
  | 0 => refuseAt .unterminated start
  | fuel + 1 => do
    match ← get with
    | [] => refuseAt .unterminated start
    | c :: rest =>
      if c.toNat < 32 then refuse .control
      set rest
      if c == '"' then return []
      let d ← if c == '\\' then readEscape start else pure c
      return d :: (← readChars start fuel)

def readText : Reader String := do
  let left := (← get).length
  return String.ofList (← readChars (left + 1) (left + 1))

def takeDigits : Reader (List Char) := do
  let (ds, rest) := (← get).span Char.isDigit
  set rest
  return ds

/-- The number that decimal digits spell. -/
def decimalValue (ds : List Char) : Nat :=
  ds.foldl (fun n c => 10 * n + (c.toNat - '0'.toNat)) 0

/-- The digits behind a point, if both are there. -/
def readFraction : Reader (Option (List Char)) := do
  match ← get with
  | '.' :: d :: rest =>
    if d.isDigit then
      set (d :: rest)
      return some (← takeDigits)
    return none
  | _ => return none

/-- The exponent, if there is one. -/
def readExponent : Reader (Option Int) := do
  let cs ← get
  match cs with
  | e :: rest =>
    if e != 'e' && e != 'E' then return none
    let (sign, ds) := match rest with
      | '-' :: ds => ((-1 : Int), ds)
      | '+' :: ds => (1, ds)
      | ds => (1, ds)
    if (ds.head?.map Char.isDigit).getD false then
      set ds
      return some (sign * decimalValue (← takeDigits))
    return none
  | [] => return none

/-- Whole digits; a zero stands alone. -/
def readWhole : Reader (List Char) := do
  match ← get with
  | '0' :: rest =>
    set rest
    return ['0']
  | _ => takeDigits

/-- The number that digits spell: an integer if there is neither a fraction nor an exponent. -/
def numberOf (negative : Bool) (whole : List Char) (fraction : Option (List Char)) (exponent : Option Int) :
    Reader Json := do
  if fraction.isNone && exponent.isNone then
    if Number.digitLimit < whole.length then throw (.tooLong whole.length)
    let n : Int := decimalValue whole
    return .int (if negative then -n else n)
  let places := fraction.getD []
  return .float
    (Number.ofDecimal negative (decimalValue (whole ++ places)) (exponent.getD 0 - places.length))

/-- A number: whole digits, and perhaps a fraction and an exponent. -/
def readNumber : Reader Json := do
  let start := (← get).length
  let negative ← takeChar '-'
  let whole ← readWhole
  if whole.isEmpty then refuseAt .value start
  let fraction ← readFraction
  let exponent ← readExponent
  numberOf negative whole fraction exponent

/-- The parts of a container up to its closing mark, with commas between them. `fuel` bounds their
number. -/
def readParts (close : Char) (part : Reader α) : Nat → Reader (List α)
  | 0 => refuse .value
  | fuel + 1 => do
    let a ← part
    skipSpace
    if ← takeChar close then return [a]
    if !(← takeChar ',') then refuse .comma
    skipSpace
    return a :: (← readParts close part fuel)

def readEntry (value : Reader Json) : Reader (String × Json) := do
  if !(← takeChar '"') then refuse .property
  let key ← readText
  skipSpace
  if !(← takeChar ':') then refuse .colon
  skipSpace
  return (key, ← value)

/-- A list after its opening mark, with a reader for its items. -/
def readList (value : Reader Json) : Reader Json := do
  let bound := (← get).length + 1
  skipSpace
  if ← takeChar ']' then return .list []
  return .list (← readParts ']' value bound)

/-- An object after its opening mark, with a reader for the values of its entries. Of two entries of one
key the later one counts, at the place of the earlier. -/
def readObject (value : Reader Json) : Reader Json := do
  let bound := (← get).length + 1
  skipSpace
  if ← takeChar '\x7d' then return .object []
  let entries ← readParts '\x7d' (readEntry value) bound
  return .object (entries.foldl (fun es (k, v) => setEntry es k v) [])

/-- A value, with readers for what follows the opening mark of a list or an object. -/
def readValueWith (list object : Reader Json) : Reader Json := do
  if ← takeChar '"' then return .str (← readText)
  else if ← takeChar '\x7b' then object
  else if ← takeChar '[' then list
  else if ← takeText "null" then return .null
  else if ← takeText "true" then return .bool true
  else if ← takeText "false" then return .bool false
  else if ← takeText "NaN" then return .float Number.notANumber
  else if ← takeText "Infinity" then return .float (Number.infinity false)
  else if ← takeText "-Infinity" then return .float (Number.infinity true)
  else readNumber

/-- A value of lists and objects that are nested in at most so many levels. -/
def readValue : Nat → Reader Json
  | 0 => readValueWith (throw .tooDeep) (throw .tooDeep)
  | levels + 1 => readValueWith (readList (readValue levels)) (readObject (readValue levels))

/-- The value that a text is, nested in at most so many levels. -/
def readWithin (levels : Nat) (s : String) : Except ReadFault Json :=
  let cs := s.toList
  let whole : Reader Json := do
    if cs.head? == some '\ufeff' then refuse .byteOrderMark
    skipSpace
    let v ← readValue levels
    skipSpace
    if !(← get).isEmpty then refuse .extra
    return v
  whole.run' cs

/-- The value that a text is. It is not nested more deeply than it is long. -/
def read (s : String) : Except ReadFault Json :=
  readWithin s.length s

end Json

end LineScript
