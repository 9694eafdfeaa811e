/-!
# UTF-8

Encoding of texts as bytes, and decoding that says where and why it stops: at a byte that starts no
character, at a byte that does not continue the character begun before it, or in the middle of a
character at the end of the bytes. The last of these is no failure while more bytes may come.
-/

namespace LineScript.Text

abbrev Bytes := List UInt8

/-- The character of a number. Texts hold characters only: a number that is none, such as one half of a
surrogate pair, stands for the replacement mark. -/
def charOf (n : Nat) : Char :=
  if n.isValidChar then Char.ofNat n else Char.ofNat 0xFFFD

namespace Utf8

/-! ## Encoding -/

def encodeChar (c : Char) : Bytes :=
  let n := c.toNat
  if n < 0x80 then [n.toUInt8]
  else if n < 0x800 then [(0xC0 + n / 64).toUInt8, (0x80 + n % 64).toUInt8]
  else if n < 0x10000 then
    [(0xE0 + n / 4096).toUInt8, (0x80 + n / 64 % 64).toUInt8, (0x80 + n % 64).toUInt8]
  else
    [(0xF0 + n / 262144).toUInt8, (0x80 + n / 4096 % 64).toUInt8, (0x80 + n / 64 % 64).toUInt8,
      (0x80 + n % 64).toUInt8]

def encode (s : String) : Bytes :=
  s.toList.flatMap encodeChar

/-! ## Decoding -/

/-- Why bytes are not the encoding of a text. -/
inductive Reason where
  | invalidStart
  | invalidContinuation
  | endOfData
  deriving DecidableEq, Repr

/-- A failure of decoding: the first of the bytes at fault, where they begin, how many they are. -/
structure Failure where
  byte : UInt8
  position : Nat
  length : Nat
  reason : Reason
  deriving DecidableEq, Repr

/-- What the front of some bytes is: a character, its number of bytes and the bytes after it; a
fault of some length; or the beginning of a character that the bytes end in. -/
inductive Step where
  | char (c : Char) (width : Nat) (rest : Bytes)
  | fault (reason : Reason) (length : Nat)
  | unfinished

/-- Whether a byte may continue a character. -/
def isContinuation (b : UInt8) : Bool :=
  0x80 ≤ b && b < 0xC0

/-- Whether `b` may be the second byte after the first byte `a`: overlong forms, surrogates and
numbers beyond the last character are excluded here. -/
def isSecond (a b : UInt8) : Bool :=
  isContinuation b &&
    !((a == 0xE0 && b < 0xA0) || (a == 0xED && 0xA0 ≤ b) || (a == 0xF0 && b < 0x90) ||
      (a == 0xF4 && 0x90 ≤ b))

/-- The character that lead bits and continuation bytes spell. -/
def assemble (lead : Nat) (more : Bytes) : Char :=
  Char.ofNat (more.foldl (fun n b => 64 * n + b.toNat % 64) lead)

/-- Read the first character of non-empty bytes. -/
def step (a : UInt8) (rest : Bytes) : Step :=
  if a < 0x80 then .char (Char.ofNat a.toNat) 1 rest
  else if a < 0xC2 || 0xF5 ≤ a then .fault .invalidStart 1
  else if a < 0xE0 then
    match rest with
    | [] => .unfinished
    | b :: rest =>
      if isContinuation b then .char (assemble (a.toNat % 32) [b]) 2 rest
      else .fault .invalidContinuation 1
  else
    match rest with
    | [] => .unfinished
    | b :: rest =>
      if !isSecond a b then .fault .invalidContinuation 1
      else
        match rest with
        | [] => .unfinished
        | c :: rest =>
          if !isContinuation c then .fault .invalidContinuation 2
          else if a < 0xF0 then .char (assemble (a.toNat % 16) [b, c]) 3 rest
          else
            match rest with
            | [] => .unfinished
            | d :: rest =>
              if isContinuation d then .char (assemble (a.toNat % 8) [b, c, d]) 4 rest
              else .fault .invalidContinuation 3

/-- Decode from a position on. `fuel` bounds the number of characters and `chars` holds, last first,
those already read. The result is the text and the bytes of an unfinished last character. -/
def decodeFrom : Nat → Nat → List Char → Bytes → Except Failure (List Char × Bytes)
  | 0, _, chars, bytes => .ok (chars.reverse, bytes)
  | _ + 1, _, chars, [] => .ok (chars.reverse, [])
  | fuel + 1, position, chars, a :: rest =>
    match step a rest with
    | .char c width rest' => decodeFrom fuel (position + width) (c :: chars) rest'
    | .fault reason length => .error ⟨a, position, length, reason⟩
    | .unfinished => .ok (chars.reverse, a :: rest)

/-- Decode as far as whole characters go; the bytes of an unfinished last character are left. -/
def decodePart (bytes : Bytes) : Except Failure (List Char × Bytes) :=
  decodeFrom bytes.length 0 [] bytes

def decode (bytes : Bytes) : Except Failure (List Char) :=
  match decodePart bytes with
  | .ok (chars, []) => .ok chars
  | .ok (_, a :: rest) =>
    .error ⟨a, bytes.length - (rest.length + 1), rest.length + 1, .endOfData⟩
  | .error e => .error e

/-- The number of bytes read at a time by a reader that takes a file line by line. -/
def chunkSize : Nat := 8192

/-- Decode chunk by chunk, as a reader of lines does: the bytes of an unfinished character are put
in front of the next chunk, and a failure's position counts from there. `fuel` bounds the number of
chunks. -/
def decodeChunksFrom : Nat → Bytes → Bytes → Except Failure (List Char)
  | 0, pending, _ => decode pending
  | fuel + 1, pending, bytes =>
    if bytes.isEmpty then decode pending
    else
      match decodePart (pending ++ bytes.take chunkSize) with
      | .ok (chars, pending') => (decodeChunksFrom fuel pending' (bytes.drop chunkSize)).map (chars ++ ·)
      | .error e => .error e

/-- Decode a file that is read line by line. -/
def decodeChunks (bytes : Bytes) : Except Failure (List Char) :=
  decodeChunksFrom (bytes.length / chunkSize + 2) [] bytes

/-- Decode, or nothing if the bytes are no text. -/
def decode? (bytes : Bytes) : Option String :=
  match decode bytes with
  | .ok chars => some (String.ofList chars)
  | .error _ => none

/-- Decode a name that may hold bytes of no character: the last private characters stand for them.
`fuel` bounds the number of bytes. -/
def decodeNameFrom : Nat → Bytes → List Char
  | 0, _ => []
  | _ + 1, [] => []
  | fuel + 1, a :: rest =>
    match step a rest with
    | .char c _ rest' => c :: decodeNameFrom fuel rest'
    | _ => Char.ofNat (0x10FF00 + a.toNat) :: decodeNameFrom fuel rest

def decodeName (bytes : Bytes) : String :=
  String.ofList (decodeNameFrom bytes.length bytes)

end Utf8

/-! ## Line ends -/

/-- Every line end (`\r\n`, `\r` or `\n`) becomes `\n`. -/
def unifyNewlines : List Char → List Char
  | [] => []
  | '\r' :: '\n' :: cs => '\n' :: unifyNewlines cs
  | '\r' :: cs => '\n' :: unifyNewlines cs
  | c :: cs => c :: unifyNewlines cs

/-- Cut a text after every `\n`. `line` holds, last first, the characters of the line begun. -/
def cutLines (line : List Char) : List Char → List String
  | [] => if line.isEmpty then [] else [String.ofList line.reverse]
  | '\n' :: cs => String.ofList ('\n' :: line).reverse :: cutLines [] cs
  | c :: cs => cutLines (c :: line) cs

/-- The lines of a text, each with its line end. -/
def lines (cs : List Char) : List String :=
  cutLines [] cs

end LineScript.Text
