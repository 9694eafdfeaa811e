import LineScript.Expr.Eval

/-!
# The debugger

When a run pauses, and the dialogue at a pause: commands are read line by line until one of them lets
the run go on, or until there are no more lines.
-/

namespace LineScript

inductive Action where
  | continue
  | step
  | next
  deriving DecidableEq, Repr

def Action.name : Action → String
  | .continue => "continue"
  | .step => "step"
  | .next => "next"

namespace Debugger

/-- Whether there is a breakpoint at a line of a source. -/
def hasBreakpoint (d : Debugger) (source : String) (line : Int) : Bool :=
  d.places.contains (source, line) || d.lines.contains line

def pausesAt (d : Debugger) (source : String) (line : Int) : Bool :=
  d.singleStep || d.hasBreakpoint source line

/-- Pause at a line number in any source. -/
def addLine (d : Debugger) (line : Int) : Debugger :=
  if d.lines.contains line then d else { d with lines := d.lines ++ [line] }

def addPlace (d : Debugger) (source : String) (line : Int) : Debugger :=
  if d.places.contains (source, line) then d else { d with places := d.places ++ [(source, line)] }

def removeLine (d : Debugger) (line : Int) : Debugger :=
  { d with lines := d.lines.filter (· != line) }

def addWatch (d : Debugger) (expr : String) : Debugger :=
  { d with watches := d.watches ++ [expr] }

/-- Take away the first watch of an expression. -/
def removeWatch (d : Debugger) (expr : String) : Debugger :=
  { d with watches := d.watches.erase expr }

/-- The line numbers in ascending order. -/
def sortedLines (d : Debugger) : List Int :=
  d.lines.mergeSort (· ≤ ·)

def sortedPlaces (d : Debugger) : List (String × Int) :=
  d.places.mergeSort fun a b => a.1 < b.1 || (a.1 == b.1 && a.2 ≤ b.2)

/-- What an action does to the debugger, at some depth of calls. -/
def act (d : Debugger) (depth : Int) : Action → Debugger
  | .continue => d
  | .step => { d with singleStep := true }
  | .next => { d with stepOverDepth := some depth, singleStep := true }

end Debugger

def modifyDebugger (f : Debugger → Debugger) : Run Unit :=
  Run.modify fun s => { s with debugger := f s.debugger }

/-! ## Commands -/

inductive Command where
  | go (action : Action)
  | breakAt (arg : String)
  | delete (arg : String)
  | stack
  | watch (expr : String)
  | unwatch (expr : String)
  | vars
  | help
  | unknown
  deriving DecidableEq, Repr

/-- What follows a word and a blank in a command, without blanks at its ends. -/
def argumentOf? (word command : String) : Option String :=
  (Text.after? (word ++ " ").toList command.toList).map fun rest => String.ofList (Text.trim rest)

/-- The command that a line without blanks at its ends is. -/
def Command.ofLine (line : String) : Command :=
  if line == "c" || line == "continue" then .go .continue
  else if line == "s" || line == "step" then .go .step
  else if line == "n" || line == "next" then .go .next
  else
    match argumentOf? "b" line with
    | some arg => .breakAt arg
    | none =>
      match argumentOf? "del" line with
      | some arg => .delete arg
      | none =>
        if line == "bt" || line == "stack" then .stack
        else
          match argumentOf? "watch" line with
          | some expr => .watch expr
          | none =>
            match argumentOf? "unwatch" line with
            | some expr => .unwatch expr
            | none =>
              if line == "vars" then .vars
              else if line == "help" || line == "?" then .help
              else .unknown

def readInteger (text : String) : Result Int := do
  match ← Value.toInteger (.str text) with
  | .int n => return n
  | _ => return 0

/-- The text before the first colon and the text after it. -/
def splitColon? (text : String) : Option (String × String) :=
  let (front, rest) := text.toList.span (· != ':')
  match rest with
  | _ :: rest => some (String.ofList front, String.ofList rest)
  | [] => none

def commandHelp : String :=
  "debug commands:\n  c/continue\n  s/step\n  n/next\n  b N or b file:N\n  del N\n  watch EXPR\n" ++
    "  unwatch EXPR\n  stack/bt\n  vars\n  help/?\n"

def reportUnknown : Run Unit :=
  printLine "[debug] unknown debug command"

/-- Print the variables behind some words. -/
def printVars (words : List Value) : Run Unit := do
  let s ← Run.get
  match s.vars.shown? with
  | some text => printValues (words ++ [.str text])
  | none =>
    if s.silent then return ()
    if !words.isEmpty then
      let texts := words.map fun v => v.text?.getD ""
      write (" ".intercalate texts ++ " ")
    Run.fail (.value (.digitLimit none))

/-- Set a breakpoint at a line number, or at a line of a source. After the latter the command is also
reported as unknown. -/
def setBreakpoint (arg : String) : Run Unit :=
  match splitColon? arg with
  | some (source, line) => do
    let n ← Run.ofResult (readInteger line)
    modifyDebugger (·.addPlace source n)
    reportUnknown
  | none => do
    let n ← Run.ofResult (readInteger arg)
    modifyDebugger (·.addLine n)
    printLine ("[debug] breakpoint set " ++ arg)

/-- Remove the breakpoint at a line number. An argument that is no number removes none. -/
def deleteBreakpoint (arg : String) : Run Unit := do
  match readInteger arg with
  | .ok n => modifyDebugger (·.removeLine n)
  | .error _ => pure ()
  printLine ("[debug] breakpoint removed " ++ arg)

/-- Carry out a command that does not end the dialogue. -/
def Command.perform : Command → Run Unit
  | .go _ => pure ()
  | .breakAt arg => setBreakpoint arg
  | .delete arg => deleteBreakpoint arg
  | .stack => do
    let s ← Run.get
    printVars [.str "Call depth:", .int s.callDepth, .str "Vars snapshot:"]
  | .watch expr => do
    modifyDebugger (·.addWatch expr)
    printLine ("[debug] watch added: " ++ expr)
  | .unwatch expr => modifyDebugger (·.removeWatch expr)
  | .vars => printVars []
  | .help => printLine commandHelp
  | .unknown => reportUnknown

/-! ## The dialogue -/

/-- Show a watched expression, or that it fails. -/
def showWatch (call : Caller) (expr : String) : Run Unit := do
  let shown ← Run.attempt do
    let v ← evalText call expr
    printValues [.str "   -", .str expr, .str "=", v]
  match shown with
  | .ok () => pure ()
  | .error _ => printLine ("   - " ++ expr ++ " = <err>")

def showWatches (call : Caller) : List String → Run Unit
  | [] => pure ()
  | w :: ws => do
    showWatch call w
    showWatches call ws

/-- Show the watched expressions under a heading, if there are any. -/
def listWatches (call : Caller) (watches : List String) : Run Unit :=
  if watches.isEmpty then pure ()
  else do
    printLine "  watches:"
    showWatches call watches

/-- Read commands until one lets the run go on. `fuel` bounds the number of lines to be read. -/
def dialogue : Nat → Run Action
  | 0 => pure .continue
  | fuel + 1 => do
    match ← Run.attempt (readLine "(stry-debug) ") with
    | .error .endOfInput => return .continue
    | .error f => Run.fail f
    | .ok line =>
      match Command.ofLine (Text.strip line) with
      | .go action => return action
      | command => do
        command.perform
        dialogue fuel

/-- The pause before a line: where it is, the watched expressions, and the dialogue. -/
def pauseAt (call : Caller) (source : String) (lineNumber : Int) (line : String) : Run Action := do
  let number := Number.decimalText lineNumber
  printLine ("\n== PAUSED at " ++ source ++ ":" ++ number ++ "  >> " ++ Text.strip line)
  listWatches call (← Run.get).debugger.watches
  dialogue ((← Run.get).input.length + 1)

end LineScript
