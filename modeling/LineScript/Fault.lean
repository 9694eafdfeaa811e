import LineScript.Expr.Basic

/-!
# Faults

Why a computation fails: one constructor for each family of failures, with its cause. The wording of
a fault is a function of its cause, `Fault.message`.
-/

namespace LineScript

/-! ## Causes -/

/-- A value of a kind that the operation does not take, or the wrong number of arguments. -/
inductive TypeFault where
  | operands (symbol : String) (left right : Kind)
  | operand (operation : String) (kind : Kind)
  | joinText (right : Kind)
  | joinBytes (right : Kind)
  | repetition (count : Kind)
  | unordered (symbol : String) (left right : Kind)
  | notIterable (kind : Kind)
  | noLength (kind : Kind)
  | notAnIndex (kind : Kind)
  | exactlyOne (function : String) (given : Nat)
  | takesAtMost (function : String) (limit given : Nat)
  | expectedAtMost (function : String) (limit given : Nat)
  | expectedAtLeast (function : String) (given : Nat)
  | roundsNothing
  | missing (parameters : List String)
  | tooMany (least most given : Nat)
  | arity (function : String) (expected given : Nat)
  | toInteger (kind : Kind)
  | explicitBase
  | toFloat (kind : Kind)
  | notRounded (kind : Kind)
  | decoding (kind : Kind)
  | decodingParameter (parameter : String) (kind : Kind)
  | notAPath (kind : Kind)
  | tooFewFormatted
  | tooManyFormatted (target : String)
  | needsMapping
  | starWantsInteger
  | formatsReal (letter : Char) (kind : Kind)
  | formatsInteger (letter : Char) (kind : Kind)
  | notReal (kind : Kind)
  | realRequired (kind : Kind)
  | formatsChar
  | formatsByte
  | formatsBytes (kind : Kind)
  | byteIndex
  | noAssignment (kind : String)
  | listIndex
  | noMembership (kind : String)
  | textIndex
  | noSubscript (kind : String)
  | statPath (kind : String)
  | unexpectedArgument (function parameter : String)
  | realFrom (kind : String)
  | notUnpacked (kind : String)
  | unformatted (kind : String)
  | notWalked (kind : String)
  | notAnInteger (kind : String)
  deriving DecidableEq, Repr

/-- A value of the right kind that the operation does not take. -/
inductive ValueFault where
  | refusedCall
  | refusedForm (form : Form)
  | digitLimit (digits : Option Nat)
  | notANumberToInteger
  | notAnInteger (base : Int) (shown : String)
  | notAFloat (shown : String)
  | badBase
  | emptySequence (function : String)
  | incompleteFormat
  | incompleteKey
  | widthTooBig
  | precisionTooBig
  | bytePrecisionTooBig
  | formatLetter (letter : Char) (index : Nat)
  | formatByteLetter (letter : Char) (index : Nat)
  | nullByte
  | nullCharacter
  | negativeDescriptor
  | tooFewParts (expected given : Nat)
  | tooManyParts (expected : Nat)
  | formatCode (letter : Char) (kind : String)
  deriving DecidableEq, Repr

inductive ZeroFault where
  | division
  | floatDivision
  | complexDivision
  | modulo
  | floatModulo
  | power
  | complexPower
  deriving DecidableEq, Repr

inductive OverflowFault where
  | infinityToInteger
  | index (kind : Kind)
  | integerToFloat
  | quotient
  | power
  | complexPower
  | rounded
  | repeatedText
  | repeatedBytes
  | charRange
  | byteRange
  | charArgument
  | size
  | shortSize
  | absolute
  deriving DecidableEq, Repr

inductive NameFault where
  | identifier (id : String)
  | function (id : String)
  deriving DecidableEq, Repr

/-- A key that a table does not hold: an operator that is not evaluated, a text, or bytes. -/
inductive KeyFault where
  | operator (className : String)
  | text (key : String)
  | bytes (key : Text.Bytes)
  deriving DecidableEq, Repr

inductive FileCause where
  | notFound
  | alreadyThere
  | notADirectory
  | isADirectory
  | nameTooLong
  deriving DecidableEq, Repr

inductive Fault where
  | type (cause : TypeFault)
  | value (cause : ValueFault)
  | zero (cause : ZeroFault)
  | overflow (cause : OverflowFault)
  | name (cause : NameFault)
  | key (cause : KeyFault)
  | missingEnd
  | index
  | decode (failure : Text.Utf8.Failure)
  | decodePlain (byte : UInt8) (position : Nat)
  | encoding (name : String)
  | errorHandler (name : String)
  | endOfInput
  | file (cause : FileCause) (path : String)
  | descriptor
  | sameFile (source destination : String)
  | copy
  | noAttribute (owner name : String)
  | noModule (name : String)
  | json (text : String)
  | memory
  /-- Data that is nested too deeply to be followed. -/
  | nesting
  /-- A failure that is named and worded by whoever caused it. -/
  | raised (kind text : String)
  deriving DecidableEq, Repr

/-! ## Wording -/

namespace TypeFault

/-- The list of missing parameters, as in a sentence. -/
def listed : List String → String
  | [] => ""
  | [a] => "'" ++ a ++ "'"
  | [a, b] => "'" ++ a ++ "' and '" ++ b ++ "'"
  | a :: rest => "'" ++ a ++ "', " ++ listed rest

/-- `one` for a single thing, `many` for any other number. -/
def plural (n : Nat) (one many : String) : String :=
  if n == 1 then one else many

def message : TypeFault → String
  | operands symbol l r =>
    s!"unsupported operand type(s) for {symbol}: '{l.name}' and '{r.name}'"
  | operand operation k => s!"bad operand type for {operation}: '{k.name}'"
  | joinText k => "can only concatenate str (not \"" ++ k.name ++ "\") to str"
  | joinBytes k => s!"can't concat {k.name} to bytes"
  | repetition k => s!"can't multiply sequence by non-int of type '{k.name}'"
  | unordered symbol l r =>
    s!"'{symbol}' not supported between instances of '{l.name}' and '{r.name}'"
  | notIterable k => s!"'{k.name}' object is not iterable"
  | noLength k => s!"object of type '{k.name}' has no len()"
  | notAnIndex k => s!"'{k.name}' object cannot be interpreted as an integer"
  | exactlyOne f n => s!"{f}() takes exactly one argument ({n} given)"
  | takesAtMost f limit n => s!"{f}() takes at most {limit} arguments ({n} given)"
  | expectedAtMost f limit n =>
    let noun := plural limit "argument" "arguments"
    s!"{f} expected at most {limit} {noun}, got {n}"
  | expectedAtLeast f n => s!"{f} expected at least 1 argument, got {n}"
  | roundsNothing => "round() missing required argument 'number' (pos 1)"
  | missing ps =>
    let noun := plural ps.length "argument" "arguments"
    s!"<lambda>() missing {ps.length} required positional {noun}: {listed ps}"
  | tooMany least most n =>
    let verb := plural n "was" "were"
    if least == most then
      let noun := plural most "argument" "arguments"
      s!"<lambda>() takes {most} positional {noun} but {n} {verb} given"
    else s!"<lambda>() takes from {least} to {most} positional arguments but {n} {verb} given"
  | arity f expected n => s!"{f} expects {expected} args, got {n}"
  | toInteger k =>
    s!"int() argument must be a string, a bytes-like object or a real number, not '{k.name}'"
  | explicitBase => "int() can't convert non-string with explicit base"
  | toFloat k => s!"float() argument must be a string or a real number, not '{k.name}'"
  | notRounded k => s!"type {k.name} doesn't define __round__ method"
  | decoding .str => "decoding str is not supported"
  | decoding k => s!"decoding to str: need a bytes-like object, {k.name} found"
  | decodingParameter p .none => s!"str() argument '{p}' must be str, not None"
  | decodingParameter p k => s!"str() argument '{p}' must be str, not {k.name}"
  | notAPath k => s!"expected str, bytes or os.PathLike object, not {k.name}"
  | tooFewFormatted => "not enough arguments for format string"
  | tooManyFormatted target => s!"not all arguments converted during {target} formatting"
  | needsMapping => "format requires a mapping"
  | starWantsInteger => "* wants int"
  | formatsReal c k => s!"%{c} format: a real number is required, not {k.name}"
  | formatsInteger c k => s!"%{c} format: an integer is required, not {k.name}"
  | notReal k => s!"must be real number, not {k.name}"
  | realRequired k => s!"float argument required, not {k.name}"
  | formatsChar => "%c requires int or char"
  | formatsByte => "%c requires an integer in range(256) or a single byte"
  | formatsBytes k =>
    s!"%b requires a bytes-like object, or an object that implements __bytes__, not '{k.name}'"
  | byteIndex => "byte indices must be integers or slices, not str"
  | noAssignment k => s!"'{k}' object does not support item assignment"
  | listIndex => "list indices must be integers or slices, not str"
  | noMembership k => s!"argument of type '{k}' is not iterable"
  | textIndex => "string indices must be integers, not 'str'"
  | noSubscript k => s!"'{k}' object is not subscriptable"
  | statPath k => s!"stat: path should be string, bytes, os.PathLike or integer, not {k}"
  | unexpectedArgument f p => s!"{f}() got an unexpected keyword argument '{p}'"
  | realFrom k => s!"float() argument must be a string or a real number, not '{k}'"
  | notUnpacked k => s!"cannot unpack non-iterable {k} object"
  | unformatted k => s!"unsupported format string passed to {k}.__format__"
  | notWalked k => s!"'{k}' object is not iterable"
  | notAnInteger k => s!"'{k}' object cannot be interpreted as an integer"

end TypeFault

namespace ValueFault

/-- A letter as it stands in a message: characters that do not print are question marks. -/
def letterText (c : Char) : String :=
  if 31 ≤ c.toNat && c.toNat < 127 then c.toString else "?"

def message : ValueFault → String
  | refusedCall => "Unsupported call expression"
  | refusedForm f => s!"Unsupported expression type: <class 'ast.{f.className}'>"
  | digitLimit digits =>
    let count := match digits with
      | some n => s!": value has {n} digits"
      | none => ""
    s!"Exceeds the limit ({Number.digitLimit} digits) for integer string conversion{count}; " ++
      "use sys.set_int_max_str_digits() to increase the limit"
  | notANumberToInteger => "cannot convert float NaN to integer"
  | notAnInteger base shown => s!"invalid literal for int() with base {base}: {shown}"
  | notAFloat shown => s!"could not convert string to float: {shown}"
  | badBase => "int() base must be >= 2 and <= 36, or 0"
  | emptySequence f => s!"{f}() arg is an empty sequence"
  | incompleteFormat => "incomplete format"
  | incompleteKey => "incomplete format key"
  | widthTooBig => "width too big"
  | precisionTooBig => "precision too big"
  | bytePrecisionTooBig => "prec too big"
  | formatLetter c i =>
    let code := String.ofList (Nat.toDigits 16 c.toNat)
    s!"unsupported format character '{letterText c}' (0x{code}) at index {i}"
  | formatByteLetter c i =>
    let code := String.ofList (Nat.toDigits 16 c.toNat)
    s!"unsupported format character '{c}' (0x{code}) at index {i}"
  | nullByte => "embedded null byte"
  | nullCharacter => "embedded null character"
  | negativeDescriptor => "negative file descriptor"
  | tooFewParts expected given =>
    s!"not enough values to unpack (expected {expected}, got {given})"
  | tooManyParts expected => s!"too many values to unpack (expected {expected})"
  | formatCode c k => s!"Unknown format code '{c}' for object of type '{k}'"

end ValueFault

def ZeroFault.message : ZeroFault → String
  | division => "division by zero"
  | floatDivision => "float division by zero"
  | complexDivision => "complex division by zero"
  | modulo => "integer modulo by zero"
  | floatModulo => "float modulo"
  | power => "0.0 cannot be raised to a negative power"
  | complexPower => "0.0 to a negative or complex power"

def OverflowFault.message : OverflowFault → String
  | infinityToInteger => "cannot convert float infinity to integer"
  | index k => s!"cannot fit '{k.name}' into an index-sized integer"
  | integerToFloat => "int too large to convert to float"
  | quotient => "integer division result too large for a float"
  | power => "(34, 'Numerical result out of range')"
  | complexPower => "complex exponentiation"
  | rounded => "rounded value too large to represent"
  | repeatedText => "repeated string is too long"
  | repeatedBytes => "repeated bytes are too long"
  | charRange => "%c arg not in range(0x110000)"
  | byteRange => "%c arg not in range(256)"
  | charArgument => "character argument not in range(0x110000)"
  | size => "Python int too large to convert to C ssize_t"
  | shortSize => "Python int too large to convert to C int"
  | absolute => "absolute value too large"

def NameFault.message : NameFault → String
  | identifier id => s!"Unknown identifier: {id}"
  | function id => s!"Unknown function: {id}"

def KeyFault.message : KeyFault → String
  | operator c => s!"<class 'ast.{c}'>"
  | text key => Text.quoted key
  | bytes key => Text.quotedBytes key

def FileCause.message : FileCause → String
  | notFound => "[Errno 2] No such file or directory"
  | alreadyThere => "[Errno 17] File exists"
  | notADirectory => "[Errno 20] Not a directory"
  | isADirectory => "[Errno 21] Is a directory"
  | nameTooLong => "[Errno 36] File name too long"

def decodeMessage (f : Text.Utf8.Failure) : String :=
  let reason := match f.reason with
    | .invalidStart => "invalid start byte"
    | .invalidContinuation => "invalid continuation byte"
    | .endOfData => "unexpected end of data"
  if f.length == 1 then
    let code := String.ofList (Text.digits 16 2 f.byte.toNat)
    s!"'utf-8' codec can't decode byte 0x{code} in position {f.position}: {reason}"
  else
    let last := f.position + f.length - 1
    s!"'utf-8' codec can't decode bytes in position {f.position}-{last}: {reason}"

namespace Fault

/-- The wording of a fault; some have none. -/
def message : Fault → Option String
  | type c => some c.message
  | value c => some c.message
  | zero c => some c.message
  | overflow c => some c.message
  | name c => some c.message
  | key c => some c.message
  | missingEnd => some "Missing 'end'"
  | index => some "list index out of range"
  | decode f => some (decodeMessage f)
  | decodePlain b p =>
    let code := String.ofList (Text.digits 16 2 b.toNat)
    some s!"'ascii' codec can't decode byte 0x{code} in position {p}: ordinal not in range(128)"
  | encoding n => some s!"unknown encoding: {n}"
  | errorHandler n => some s!"unknown error handler name '{n}'"
  | endOfInput => some "EOF when reading a line"
  | file c path => some s!"{c.message}: {path}"
  | descriptor => some "[Errno 9] Bad file descriptor"
  | sameFile a b => some s!"{a} and {b} are the same file"
  | copy => none
  | noAttribute owner n => some s!"{owner} has no attribute '{n}'"
  | noModule n => some s!"No module named '{n}'"
  | json text => some text
  | memory => none
  | nesting => none
  | raised "KeyError" text => some (Text.quoted text)
  | raised _ text => some text

def kindName : Fault → String
  | type _ => "TypeError"
  | value _ => "ValueError"
  | zero _ => "ZeroDivisionError"
  | overflow _ => "OverflowError"
  | name _ => "NameError"
  | key _ => "KeyError"
  | missingEnd => "SyntaxError"
  | index => "IndexError"
  | decode _ | decodePlain _ _ => "UnicodeDecodeError"
  | encoding _ | errorHandler _ => "LookupError"
  | endOfInput => "EOFError"
  | file .notFound _ => "FileNotFoundError"
  | file .alreadyThere _ => "FileExistsError"
  | file .notADirectory _ => "NotADirectoryError"
  | file .isADirectory _ => "IsADirectoryError"
  | file .nameTooLong _ => "OSError"
  | descriptor => "OSError"
  | sameFile _ _ => "SameFileError"
  | copy => "Error"
  | noAttribute _ _ => "AttributeError"
  | noModule _ => "ModuleNotFoundError"
  | json _ => "JSONDecodeError"
  | memory => "MemoryError"
  | nesting => "RecursionError"
  | raised kind _ => kind

/-- A fault in one line: its kind and its wording. -/
def summary (f : Fault) : String :=
  f.kindName ++ ": " ++ f.message.getD ""

end Fault

/-- A value, or the fault that took its place. -/
abbrev Result (α : Type) := Except Fault α

end LineScript
