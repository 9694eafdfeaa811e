import LineScript.Text.Blank
import LineScript.Text.Word

/-!
# Statements

How a line is recognised as a statement. The line has no blanks at its ends. A statement begins with
its word; what it takes stands behind a blank or in brackets, where the closing bracket is the last of
the line.
-/

namespace LineScript

/-- The statements of a script. A branch and a definition are followed by a block. -/
inductive Statement where
  | assign (name expr : String)
  | print (expr : String)
  | define (name : String) (params : List String)
  | giveBack (expr : String)
  | branch (condition : String)
  deriving DecidableEq, Repr

namespace Statement

open Text

/-! ## Parts of lines -/

/-- What follows a word and at least one blank, without the blanks. -/
def afterWord? (word : String) (cs : List Char) : Option (List Char) :=
  match after? word.toList cs with
  | some (c :: rest) => if isBlank c then some (trimStart rest) else none
  | _ => none

/-- A name of word characters, and what follows it without leading blanks. -/
def takeName? (cs : List Char) : Option (List Char × List Char) :=
  let (name, rest) := cs.span isWord
  if name.isEmpty then none else some (name, trimStart rest)

def afterOpen? : List Char → Option (List Char)
  | '(' :: rest => some rest
  | _ => none

/-- A text without its last character, if that is `c`. -/
def beforeLast? (c : Char) (cs : List Char) : Option (List Char) :=
  match cs.reverse with
  | d :: rest => if c = d then some rest.reverse else none
  | [] => none

/-- A text that is not empty and has no line end. -/
def oneLine? (cs : List Char) : Option (List Char) :=
  if cs.isEmpty || cs.contains '\n' then none else some cs

/-- The expression between brackets: it begins at the first character that is not blank and ends with
its line, after which only blanks may follow. Between blanks alone, the last one that ends no line is
the expression. -/
def enclosed? (cs : List Char) : Option (List Char) :=
  match trimStart cs with
  | [] => ((cs.filter (· != '\n')).getLast?).map fun c => [c]
  | body =>
    let (line, rest) := body.span (· != '\n')
    if rest.all isBlank then some line else none

/-- The parts of a list, without the blanks at their ends and without empty parts. -/
def commaParts (cs : List Char) : List String :=
  ((cs.splitOn ',').map fun part => String.ofList (trim part)).filter (!·.isEmpty)

/-! ## The forms -/

/-- `stryset name (expr)` -/
def assign? (cs : List Char) : Option Statement := do
  let rest ← afterWord? "stryset" cs
  let (name, rest) ← takeName? rest
  let rest ← afterOpen? rest
  let body ← beforeLast? ')' rest
  let expr ← enclosed? body
  return .assign (String.ofList name) (String.ofList expr)

/-- `stryprint expr` -/
def print? (cs : List Char) : Option Statement := do
  let rest ← afterWord? "stryprint" cs
  let expr ← oneLine? rest
  return .print (String.ofList expr)

/-- `def name(params):` -/
def define? (cs : List Char) : Option Statement := do
  let rest ← afterWord? "def" cs
  let (name, rest) ← takeName? rest
  let rest ← afterOpen? rest
  let rest ← beforeLast? ':' rest
  let params ← beforeLast? ')' (trimEnd rest)
  if params.contains '\n' then none
  else return .define (String.ofList name) (commaParts params)

/-- `return expr` -/
def giveBack? (cs : List Char) : Option Statement := do
  let rest ← afterWord? "return" cs
  let expr ← oneLine? rest
  return .giveBack (String.ofList expr)

/-- `if (expr):` -/
def branch? (cs : List Char) : Option Statement := do
  let rest ← after? "if".toList cs
  let rest ← afterOpen? (trimStart rest)
  let rest ← beforeLast? ':' rest
  let body ← beforeLast? ')' (trimEnd rest)
  let condition ← enclosed? body
  return .branch (String.ofList condition)

/-- The statement that a line without blanks at its ends is, if it is one. -/
def ofLine? (line : String) : Option Statement :=
  let cs := line.toList
  assign? cs <|> print? cs <|> define? cs <|> giveBack? cs <|> branch? cs

end Statement

end LineScript
