import LineScript.Json
import LineScript.Value.Convert

/-!
# Taking JSON apart

Reading a text as a value, the parts of objects, and numbers, each with the fault of a value that is of
another kind than expected.
-/

namespace LineScript.Json

/-- The value that a text is, nested in at most so many levels. -/
def parseWithin (levels : Nat) (text : String) : Result Json :=
  match readWithin levels text with
  | .ok v => .ok v
  | .error (.malformed cause left) => .error (.json (placedMessage text cause left))
  | .error (.tooLong n) => .error (.value (.digitLimit (some n)))
  | .error .tooDeep => .error .nesting

def parse (text : String) : Result Json :=
  parseWithin text.length text

/-- The fault of asking a value for an attribute that it does not have. -/
def lacks (v : Json) (name : String) : Fault :=
  .noAttribute s!"'{v.kindName}' object" name

/-- The part of an object under a key, or a default; only an object has parts. -/
def part (v : Json) (key : String) (default : Json) : Result Json :=
  match v with
  | object entries => .ok ((entries.lookup key).getD default)
  | v => .error (v.lacks "get")

def entries (v : Json) : Result (List (String × Json)) :=
  match v with
  | object es => .ok es
  | v => .error (v.lacks "items")

def values (v : Json) : Result (List Json) :=
  match v with
  | object es => .ok (es.map (·.2))
  | v => .error (v.lacks "values")

/-- The double that a value of the language is turned into. -/
def realOf (w : Value) : Result Float := do
  match ← w.toFloat with
  | .float x => return x
  | _ => return 0.0

/-- The double that a value stands for: a number, or a text that spells one. -/
def toReal (v : Json) : Result Float :=
  match v with
  | null => realOf .none
  | bool b => realOf (.bool b)
  | int n => realOf (.int n)
  | float x => .ok x
  | str s => realOf (.str s)
  | v => .error (.type (.realFrom v.kindName))

/-- The text of a number with a fixed number of places. -/
def placesText (places : Nat) (v : Json) : Result String :=
  match v with
  | int _ | float _ | bool _ => do return Number.placesText places (← v.toReal)
  | str _ => .error (.value (.formatCode 'f' "str"))
  | v => .error (.type (.unformatted v.kindName))

def plainText : Json → String
  | str s => s
  | null => "None"
  | bool b => Value.boolText b
  | float x => Number.floatText x
  | v => v.text

end LineScript.Json
