import LineScript.Interpreter

/-!
# The compiler

A script is turned into the text of a program with the same structure: every line becomes at most one
line, indented by the number of blocks around it. The compiler reads lines by forms of its own.
-/

namespace LineScript.Compile

open Text

/-! ## Forms of lines -/

inductive Form where
  | assign (name expr : String)
  | print (expr : String)
  | branch (condition : String)
  | otherwise
  | loop (condition : String)
  | define (name params : String)
  | giveBack (expr : String)
  | close
  | note (module : String)
  | raw (text : String)
  deriving DecidableEq, Repr

/-- A header with a condition: the word, brackets around the condition, and a colon right behind
them. -/
def header? (word : String) (cs : List Char) : Option String := do
  let rest ← after? word.toList cs
  let rest ← Statement.afterOpen? (trimStart rest)
  let rest ← Statement.beforeLast? ':' rest
  let body ← Statement.beforeLast? ')' rest
  let condition ← Statement.enclosed? body
  return String.ofList condition

/-- `stryset name (expr)` -/
def assign? (cs : List Char) : Option Form := do
  let rest ← Statement.afterWord? "stryset" cs
  let (name, rest) ← Statement.takeName? rest
  let rest ← Statement.afterOpen? rest
  let body ← Statement.beforeLast? ')' rest
  let expr ← Statement.enclosed? body
  return .assign (String.ofList name) (String.ofList expr)

/-- `stryprint expr` -/
def print? (cs : List Char) : Option Form := do
  let rest ← Statement.afterWord? "stryprint" cs
  let expr ← Statement.oneLine? rest
  return .print (String.ofList (trim expr))

/-- `def name(params):` -/
def define? (cs : List Char) : Option Form := do
  let rest ← Statement.afterWord? "def" cs
  let (name, rest) ← Statement.takeName? rest
  let rest ← Statement.afterOpen? rest
  let rest ← Statement.beforeLast? ':' rest
  let body ← Statement.beforeLast? ')' (trimEnd rest)
  let params := trim body
  if params.contains '\n' then none
  else return .define (String.ofList name) (String.ofList params)

/-- Any line that begins with `return` -/
def giveBack? (cs : List Char) : Option Form :=
  (after? "return".toList cs).map fun rest => .giveBack (String.ofList (trim rest))

/-- `import name` -/
def note? (cs : List Char) : Option Form := do
  let rest ← Statement.afterWord? "import" cs
  let (name, rest) ← Statement.takeName? rest
  if rest.isEmpty then return .note (String.ofList name) else none

/-- Any line that begins with `else:` -/
def otherwise? (cs : List Char) : Option Form :=
  (after? "else:".toList cs).map fun _ => .otherwise

/-- The form of a line without blanks at its ends. -/
def Form.ofLine (line : String) : Form :=
  let cs := line.toList
  let known := assign? cs <|> print? cs <|> (header? "if" cs).map Form.branch <|> otherwise? cs <|>
    (header? "while" cs).map Form.loop <|> define? cs <|> giveBack? cs <|>
    (if line == "end" then some .close else none) <|> note? cs
  known.getD (.raw line)

/-! ## Lines of the program -/

/-- The text of a printed expression: quoted text becomes a text with fields. -/
def printText (expr : String) : String :=
  if isQuoted expr then "print(f\"" ++ unquoted expr ++ "\")" else "print(" ++ expr ++ ")"

/-- The text that a form becomes, if it becomes any. -/
def Form.text? : Form → Option String
  | .assign name expr => some (name ++ " = " ++ expr)
  | .print expr => some (printText expr)
  | .branch condition => some ("if " ++ condition ++ ":")
  | .otherwise => some "else:"
  | .loop condition => some ("while " ++ condition ++ ":")
  | .define name params => some ("def " ++ name ++ "(" ++ params ++ "):")
  | .giveBack expr => some ("return " ++ expr)
  | .close => none
  | .note name => some ("# import " ++ name ++ " (module needs manual conversion)")
  | .raw text => some text

/-- The depth at which a form's line stands, when `depth` blocks are open before it. -/
def Form.ownDepth (depth : Nat) : Form → Nat
  | .otherwise => depth - 1
  | _ => depth

/-- How many blocks are open after a form, when `depth` are before it. -/
def Form.nextDepth (depth : Nat) : Form → Nat
  | .branch _ | .loop _ | .define _ _ => depth + 1
  | .otherwise => depth - 1 + 1
  | .close => depth - 1
  | _ => depth

def atDepth (depth : Nat) (text : String) : String :=
  String.ofList (List.replicate (4 * depth) ' ') ++ text

def emit (depth : Nat) : List Form → List String
  | [] => []
  | f :: fs =>
    let line := (f.text?.map (atDepth (f.ownDepth depth))).toList
    line ++ emit (f.nextDepth depth) fs

/-- The forms of the lines that are not empty and no comments. -/
def forms (lines : List String) : List Form :=
  ((lines.map strip).filter (!isVoid ·)).map Form.ofLine

def program (lines : List String) : String :=
  let body := match emit 0 (forms lines) with
    | [] => ["pass"]
    | out => out
  "# Auto-compiled from .stryke\ndef _stryke_main():\n" ++
    String.join (body.map fun l => "    " ++ l ++ "\n") ++
    "\nif __name__=='__main__':\n    _stryke_main()\n"

/-! ## Files -/

/-- Where the program of a script is put if no place is given. -/
def defaultOutput (path : String) : String :=
  Files.withoutExtension path ++ "_compiled.py"

/-- The place of the program: the given one, unless it is empty. -/
def outputPath (path : String) (output : Option String) : String :=
  match output with
  | some out => if out.isEmpty then defaultOutput path else out
  | none => defaultOutput path

def compileFile (path : String) (output : Option String) : Run Unit := do
  let files := (← Run.get).files
  if !files.pathIsFile path then
    printLine ("File not found: " ++ path)
    return ()
  let out := outputPath path output
  let lines ← Run.ofResult (files.readLines path)
  let written ← Run.ofResult (files.write out (Utf8.encode (program lines)))
  Run.modify fun s => { s with files := written }
  printLine ("Compiled to " ++ out)

end LineScript.Compile
