import LineScript.Builtin
import LineScript.Debugger
import LineScript.Statement

/-!
# The interpreter

Lines are executed one after the other. A block ends at the first line that is `end`, so a block never
holds such a line: a branch or a definition inside a block finds no end. Calls of functions nest, and
`depth` bounds how deeply.
-/

namespace LineScript

/-! ## Blocks -/

/-- The lines before the first `end`, and how many they are. -/
def splitBlock : List String → Option (List String × Nat)
  | [] => none
  | line :: rest =>
    if Text.strip line == "end" then some ([], 0)
    else (splitBlock rest).map fun (block, n) => (line :: block, n + 1)

/-- The lines from an index on. A negative index counts from the end, and the lines from the first one
on follow. -/
def linesFrom (lines : List String) (start : Int) : Result (List String) :=
  if 0 ≤ start then .ok (lines.drop start.toNat)
  else if start < -(lines.length : Int) then .error .index
  else .ok (lines.drop (lines.length - start.natAbs) ++ lines)

/-- The block that begins at an index, and the index of its `end`. -/
def parseBlock (lines : List String) (start : Int) : Result (List String × Int) := do
  match splitBlock (← linesFrom lines start) with
  | some (block, n) => return (block, start + n)
  | none => throw .missingEnd

/-! ## Lines -/

/-- What a line leads to: the next line, the line after an index, or the end of the run. -/
inductive LineResult where
  | next
  | jump (index : Int)
  | returned (v : Value)

/-- Where a line stands: the lines around it and its index among them, if there are any, and the name
of their source. -/
structure Place where
  lines : Option (List String)
  index : Option Int
  source : String

/-- The name of the source of lines that have no file. -/
def unnamedSource : String := "<stdin>"

/-- The block after a line. A line without an index, or without lines around it, has none. -/
def Place.block (p : Place) : Result (List String × Int) :=
  match p.index, p.lines with
  | none, _ => .error (.type (.operands "+" .none .int))
  | some _, none => .error (.type (.noLength .none))
  | some i, some lines => parseBlock lines (i + 1)

/-- The number of a line, counted from one; zero if it has no index. -/
def Place.lineNumber (p : Place) : Int :=
  match p.index with
  | some i => i + 1
  | none => 0

/-- Pause before a line if the debugger asks for it. -/
def pauseIfAsked (call : Caller) (p : Place) (line : String) : Run Unit := do
  if (← Run.get).debugger.pausesAt p.source p.lineNumber then
    let action ← pauseAt call p.source p.lineNumber line
    Run.modify fun s => { s with debugger := s.debugger.act s.callDepth action }

/-- What runs are given from outside: what the builtins do, and what happens before a line. -/
structure Host where
  builtin : Builtin → List Value → Run Value
  beforeLine : Caller → Place → String → Run Unit

/-- The builtins of the language, and a pause before a line if the debugger asks for it. -/
def Host.standard : Host :=
  ⟨Builtin.call, pauseIfAsked⟩

/-- Execute a statement. `runBlock` runs the lines of a branch that is taken. -/
def Statement.exec (call : Caller) (runBlock : List String → Run (Option Value)) (p : Place) :
    Statement → Run LineResult
  | .assign name expr => do
    let v ← evalText call expr
    Run.modify fun s => { s with vars := s.vars.set name v }
    return .next
  | .print expr => do
    let v ← evalText call expr
    printValues [v]
    return .next
  | .define name params => do
    let (block, stop) ← Run.ofResult p.block
    Run.modify fun s => { s with funcs := s.funcs.set name ⟨params, block⟩ }
    return .jump stop
  | .giveBack expr => do
    let v ← evalText call expr
    return .returned v
  | .branch condition => do
    let c ← evalText call condition
    let (block, stop) ← Run.ofResult p.block
    if c.truthy then
      match ← runBlock block with
      | some v => return .returned v
      | none => return .jump stop
    else return .jump stop

/-- Whether a line without blanks at its ends is a comment or empty. -/
def isVoid (line : String) : Bool :=
  line.isEmpty || Text.startsWith line "#"

/-- Execute a line, whose branches run their blocks by `runBlock`. -/
def execLineWith (host : Host) (call : Caller) (runBlock : List String → Run (Option Value))
    (p : Place) (line : String) : Run LineResult :=
  let text := Text.strip line
  if isVoid text then pure .next
  else do
    host.beforeLine call p line
    match Statement.ofLine? text with
    | some s => s.exec call runBlock p
    | none => return .next

/-! ## Runs of lines -/

/-- Execute lines one after the other from index `i` on, after `skip` of them. The run ends at the first
value that is given back. -/
def runFrom (exec : Nat → String → Run LineResult) : Nat → Nat → List String → Run (Option Value)
  | _, _, [] => pure none
  | skip + 1, i, _ :: rest => runFrom exec skip (i + 1) rest
  | 0, i, line :: rest => do
    match ← exec i line with
    | .next => runFrom exec 0 (i + 1) rest
    | .jump j => runFrom exec (j - i).toNat (i + 1) rest
    | .returned v => return some v

def runLinesWith (host : Host) (call : Caller) (runBlock : List String → Run (Option Value))
    (source : String) (lines : List String) : Run (Option Value) :=
  runFrom (fun i => execLineWith host call runBlock ⟨some lines, some i, source⟩) 0 0 lines

/-- Run the lines of a branch. There is no `end` among them, so a branch inside finds none. -/
def runBlock (host : Host) (call : Caller) (lines : List String) : Run (Option Value) :=
  runLinesWith host call (fun _ => Run.fail .missingEnd) unnamedSource lines

def execLine (host : Host) (call : Caller) (p : Place) (line : String) : Run LineResult :=
  execLineWith host call (runBlock host call) p line

def runLines (host : Host) (call : Caller) (source : String) (lines : List String) :
    Run (Option Value) :=
  runLinesWith host call (runBlock host call) source lines

/-! ## Calls -/

def bindParams (vars : Table Value) : List String → List Value → Table Value
  | p :: ps, v :: vs => bindParams (vars.set p v) ps vs
  | _, _ => vars

/-- The session in which the body of a function runs: its parameters are bound, one call deeper. -/
def Session.enter (s : Session) (f : Function) (args : List Value) : Session :=
  { s with vars := bindParams s.vars f.params args, callDepth := s.callDepth + 1 }

/-- The session after a call: the variables are again those of the caller. -/
def Session.leave (s caller : Session) : Session :=
  { s with vars := caller.vars, callDepth := s.callDepth - 1 }

/-- Run `m` as the body of a call: with the parameters bound, and with the variables of the caller
restored however it ends. -/
def Run.inCall (m : Run α) (f : Function) (args : List Value) : Run α :=
  fun s => Run.ensuring m (·.leave s) (s.enter f args)

/-- Run the lines of a function. Without a value that is given back, the value is nothing. -/
def runBody (host : Host) (call : Caller) (name : String) (f : Function) : Run Value := do
  return (← runLines host call ("<func " ++ name ++ ">") f.body).getD .none

/-- Call a function with arguments, as many as it has parameters. -/
def callBody (host : Host) (call : Caller) (name : String) (f : Function) (args : List Value) :
    Run Value :=
  if args.length != f.params.length then
    Run.fail (.type (.arity name f.params.length args.length))
  else (runBody host call name f).inCall f args

def callBuiltin (host : Host) (name : String) (args : List Value) : Run Value :=
  match Builtin.ofName? name with
  | some b => host.builtin b args
  | none => Run.fail (.name (.function name))

/-- Call a function of the session, or else a builtin. Calls of functions may nest `depth` deep. -/
def callNamed (host : Host) (depth : Nat) : Caller := fun name args => do
  match (← Run.get).funcs.get? name with
  | some f =>
    match depth with
    | 0 => Run.giveUp
    | depth + 1 => callBody host (callNamed host depth) name f args
  | none => callBuiltin host name args

namespace Host

def evaluate (host : Host) (depth : Nat) (text : String) : Run Value :=
  evalText (callNamed host depth) text

def callFunction (host : Host) (depth : Nat) (name : String) (args : List Value) : Run Value := do
  match (← Run.get).funcs.get? name with
  | some f => callBody host (callNamed host depth) name f args
  | none => Run.fail (.key (.text name))

end Host

/-- Calls nested deeper than this are given up. -/
def maxCallDepth : Nat := 1000

def callAny : Caller :=
  callNamed .standard maxCallDepth

def evaluate (text : String) : Run Value :=
  Host.standard.evaluate maxCallDepth text

def callFunction (name : String) (args : List Value) : Run Value :=
  Host.standard.callFunction maxCallDepth name args

def execute (p : Place) (line : String) : Run LineResult :=
  execLine .standard callAny p line

/-! ## Files -/

/-- The lines of a file, each with its line end. -/
def Files.FileTree.readLines (t : Files.FileTree) (path : String) : Result (List String) := do
  let content ← t.read path
  match Text.Utf8.decodeChunks content with
  | .ok cs => return Text.lines (Text.unifyNewlines cs)
  | .error f => throw (.decode f)

def Host.runFile (host : Host) (depth : Nat) (path : String) : Run (Option Value) := do
  let files := (← Run.get).files
  if !files.pathIsFile path then
    printLine ("File not found: " ++ path)
    return none
  let lines ← Run.ofResult (files.readLines path)
  runLines host (callNamed host depth) path lines

/-- Run the script at a path in a session. -/
def runFile (path : String) : Run (Option Value) :=
  Host.standard.runFile maxCallDepth path

/-- Print values after a mark, if messages for debugging are on. -/
def debugPrint (vs : List Value) : Run Unit := do
  if (← Run.get).debugMode then printValues (.str "[DEBUG]" :: vs)

end LineScript
