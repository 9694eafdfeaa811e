import LineScript.Digest
import LineScript.Sample

/-!
# Fingerprints

A fingerprint is the digest of the bytes that a sample feeds to it. Lists and tuples feed alike, and so
do sets of both kinds, and records and dictionaries. Sets and dictionaries are fed in the order of the
fingerprints of their members and keys, so that their own order does not count. Doubles are fed with six
digits.
-/

namespace LineScript.Sample

/-- Containers nested deeper than this are not looked into. -/
def depthLimit : Nat := 8

def itemLimit : Nat := 2000

def digitCount : Nat := 6

def realText (x : Float) : String :=
  Number.floatText (Number.roundDigits digitCount x)

def valueFeed : Value → Text.Bytes
  | .none => Text.Utf8.encode "None"
  | .bool b => Text.Utf8.encode (Value.boolText b)
  | .int n => Text.Utf8.encode (Number.decimalText n)
  | .float x => Text.Utf8.encode (realText x)
  | .complex re im => Text.Utf8.encode ("c" ++ realText re ++ realText im)
  | .str s => Text.Utf8.encode ("s" ++ s)
  | .bytes b => Text.Utf8.encode "s" ++ b
  | .ellipsis => Text.Utf8.encode "<builtins.ellipsis>"
  | .table => Text.Utf8.encode "D0"
  | .builtin f => Text.Utf8.encode ("<builtins." ++ f.kind.name ++ ">")

/-- A letter and a count before the parts of a container. -/
def tagged (letter : String) (count : Nat) (parts : List Text.Bytes) : Text.Bytes :=
  Text.Utf8.encode (letter ++ Number.decimalText count) ++ parts.flatten

/-- What a container feeds that is nested too deeply. -/
def deepFeed : Text.Bytes :=
  Text.Utf8.encode "..."

/-- The parts of a list that are fed: of a long list the first half and the last half of the limit. -/
def sampled (parts : List α) : List α :=
  if parts.length ≤ itemLimit then parts
  else parts.take (itemLimit / 2) ++ parts.drop (parts.length - itemLimit / 2)

/-- What members of a set feed: their fingerprints in order. -/
def memberFeed (members : List Text.Bytes) : List Text.Bytes :=
  ((members.map Digest.fingerprint).mergeSort fun a b => decide (a ≤ b)).map Text.Utf8.encode

/-- What entries feed: keys and values in the order of the fingerprints of the keys. -/
def entryFeed (entries : List (Text.Bytes × Text.Bytes)) : List Text.Bytes :=
  let keyed := entries.map fun (k, v) => (Digest.fingerprint k, k ++ v)
  (keyed.mergeSort fun a b => decide (a.1 ≤ b.1)).map (·.2)

mutual

def feed (depth : Nat) : Sample → Text.Bytes
  | .value v => valueFeed v
  | .buffer _ b => valueFeed (.bytes b)
  | .list items =>
    if depthLimit ≤ depth then deepFeed
    else tagged "L" items.length (sampled (feedItems (depth + 1) items))
  | .tuple items =>
    if depthLimit ≤ depth then deepFeed
    else tagged "L" items.length (sampled (feedItems (depth + 1) items))
  | .set _ items =>
    if depthLimit ≤ depth then deepFeed
    else tagged "S" items.length (memberFeed (feedItems (depth + 1) items))
  | .dict entries =>
    if depthLimit ≤ depth then deepFeed
    else tagged "D" entries.length (entryFeed (feedEntries (depth + 1) entries))
  | .record fields =>
    if depthLimit ≤ depth then deepFeed
    else tagged "D" fields.length (entryFeed (feedFields (depth + 1) fields))
  | .written _ text => Text.Utf8.encode text
  | .object module className => Text.Utf8.encode ("<" ++ module ++ "." ++ className ++ ">")

/-- What each of several samples feeds. -/
def feedItems (depth : Nat) : List Sample → List Text.Bytes
  | [] => []
  | s :: rest => feed depth s :: feedItems depth rest

def feedEntries (depth : Nat) : List (Sample × Sample) → List (Text.Bytes × Text.Bytes)
  | [] => []
  | (k, v) :: rest => (feed depth k, feed depth v) :: feedEntries depth rest

/-- What fields feed, their names as texts. -/
def feedFields (depth : Nat) : List (String × Sample) → List (Text.Bytes × Text.Bytes)
  | [] => []
  | (k, v) :: rest => (valueFeed (.str k), feed depth v) :: feedFields depth rest

end

/-- The fingerprint of a sample at a depth. -/
def fingerprintAt (depth : Nat) (s : Sample) : String :=
  Digest.fingerprint (s.feed depth)

def fingerprint (s : Sample) : String :=
  s.fingerprintAt 0

end LineScript.Sample
