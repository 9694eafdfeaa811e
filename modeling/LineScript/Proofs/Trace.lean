import LineScript.Proofs.Frame

/-!
# The lines that a run comes to

A run of lines comes to one line after the other, on any depth of calls. Before each of them it either goes
on or pauses; a pause evaluates the watches, which may call functions and so come to further lines, and is
then answered. The events of a run are these moments in their order. They are read off the interpreter: each
of its parts has the events of its own parts, in the sessions to which the interpreter itself leads.
-/

namespace LineScript

/-! ## Events -/

/-- A line that a run comes to: its position, the depth of calls, and whether it has a breakpoint. -/
structure Visit where
  source : String
  line : Int
  depth : Int
  breakpoint : Bool
  deriving DecidableEq, Repr

/-- A run goes on at a line, it pauses there, or its pause is answered. -/
inductive Event where
  | passes (v : Visit)
  | pauses (v : Visit)
  | answered (v : Visit) (action : Action)
  deriving DecidableEq, Repr

def Place.visit (p : Place) (s : Session) : Visit :=
  ⟨p.source, p.lineNumber, s.callDepth, s.debugger.hasBreakpoint p.source p.lineNumber⟩

/-- The events of a run, by the session in which it starts. -/
abbrev Trace := Session → List Event

abbrev CallTrace := String → List Value → Trace

namespace Trace

def none : Trace :=
  fun _ => []

/-- The events of the run `m`, and those of what follows if it ends with a value. -/
def andThen (trace : Trace) (m : Run α) (rest : α → Trace) : Trace := fun s =>
  match m s with
  | (.done a, t) => trace s ++ rest a t
  | (.failed _, _) => trace s
  | (.unfinished, _) => trace s

end Trace

/-! ## Expressions -/

section Expressions

variable (call : Caller) (calls : CallTrace)

mutual

/-- The events in an expression are those of its calls. -/
def Expr.trace : Expr → Trace
  | .const _ => .none
  | .name _ => .none
  | .binary _ left right => (left.trace).andThen (left.eval call) fun _ => right.trace
  | .unary _ operand => operand.trace
  | .boolean _ operands => Expr.traceAll operands
  | .compare first ops rest => (first.trace).andThen (first.eval call) fun a => Expr.traceChain a ops rest
  | .call function args => (Expr.traceAll args).andThen (Expr.evalAll call args) (calls function)
  | .callOther => .none
  | .refused _ => .none

def Expr.traceAll : List Expr → Trace
  | [] => .none
  | e :: es => (e.trace).andThen (e.eval call) fun _ => Expr.traceAll es

/-- The operands after a false link are not evaluated. -/
def Expr.traceChain (left : Value) : List CompareOp → List Expr → Trace
  | op :: ops, e :: es =>
    (e.trace).andThen (e.eval call) fun right =>
      match op.apply left right with
      | .ok true => Expr.traceChain right ops es
      | .ok false => .none
      | .error _ => .none
  | _, _ => .none

end

def textTrace (text : String) : Trace :=
  let text := Text.strip text
  if isQuoted text then .none
  else
    match Expr.parse? text with
    | some e => e.trace call calls
    | none => .none

variable {call calls} {text : String}

theorem textTrace_of_quoted (h : isQuoted (Text.strip text) = true) : textTrace call calls text = .none := by
  simp [textTrace, h]

theorem textTrace_of_parse_some {e : Expr} (h : isQuoted (Text.strip text) = false)
    (hparse : Expr.parse? (Text.strip text) = some e) : textTrace call calls text = e.trace call calls := by
  simp [textTrace, h, hparse]

theorem textTrace_of_parse_none (h : isQuoted (Text.strip text) = false)
    (hparse : Expr.parse? (Text.strip text) = none) : textTrace call calls text = .none := by
  simp [textTrace, h, hparse]

end Expressions

/-! ## Pauses -/

section Lines

variable (call : Caller) (calls : CallTrace)

/-- The events in watches that are shown. A watch that fails has its events up to then. -/
def watchesTrace : List String → Trace
  | [] => .none
  | w :: ws => (textTrace call calls w).andThen (showWatch call w) fun _ => watchesTrace ws

/-- The events in watches that are listed under their heading. -/
def listTrace (watches : List String) : Trace :=
  if watches.isEmpty then .none
  else Trace.none.andThen (printLine "  watches:") fun _ => watchesTrace call calls watches

/-- The events inside of a pause, after it is announced and before it is answered. -/
def insideTrace (source : String) (n : Int) (line : String) : Trace :=
  Trace.none.andThen (write (pauseText source n line)) fun _ t =>
    listTrace call calls t.debugger.watches t

/-- The events before a line: it is passed, or paused at. A pause has its answer as its last event, if it
comes to one. -/
def pauseTrace (p : Place) (line : String) : Trace := fun s =>
  if s.debugger.pausesAt p.source p.lineNumber then
    .pauses (p.visit s) ::
      (insideTrace call calls p.source p.lineNumber line).andThen
        (pauseAt call p.source p.lineNumber line) (fun action _ => [.answered (p.visit s) action]) s
  else [.passes (p.visit s)]

/-! ## Lines -/

/-- The events in a statement. `blocks` gives those of a branch that is taken. -/
def Statement.trace (blocks : List String → Trace) (p : Place) : Statement → Trace
  | .assign _ expr => textTrace call calls expr
  | .print expr => textTrace call calls expr
  | .define _ _ => .none
  | .giveBack expr => textTrace call calls expr
  | .branch condition =>
    (textTrace call calls condition).andThen (evalText call condition) fun c =>
      match p.block with
      | .ok b => if c.truthy then blocks b.1 else .none
      | .error _ => .none

def lineTrace (blocks : List String → Trace) (p : Place) (line : String) : Trace :=
  if isVoid (Text.strip line) then .none
  else
    (pauseTrace call calls p line).andThen (pauseIfAsked call p line) fun _ =>
      ((Statement.ofLine? (Text.strip line)).map (Statement.trace call calls blocks p)).getD .none

/-- The events of lines that are executed one after the other from index `i` on, after `skip` of them. -/
def loopTrace (exec : Nat → String → Run LineResult) (trace : Nat → String → Trace) :
    Nat → Nat → List String → Trace
  | _, _, [] => .none
  | skip + 1, i, _ :: rest => loopTrace exec trace skip (i + 1) rest
  | 0, i, line :: rest =>
    (trace i line).andThen (exec i line) fun
      | .next => loopTrace exec trace 0 (i + 1) rest
      | .jump j => loopTrace exec trace (j - i).toNat (i + 1) rest
      | .returned _ => .none

/-- The events of the lines of a source, where `run` runs the block of a branch and `blocks` gives its
events. -/
def linesTraceWith (run : List String → Run (Option Value)) (blocks : List String → Trace)
    (source : String) (lines : List String) : Trace :=
  loopTrace (fun i => execLineWith .standard call run ⟨some lines, some i, source⟩)
    (fun i => lineTrace call calls blocks ⟨some lines, some i, source⟩) 0 0 lines

/-- The events of the block of a branch. -/
def blockTrace (block : List String) : Trace :=
  linesTraceWith call calls (fun _ => Run.fail .missingEnd) (fun _ => .none) unnamedSource block

/-- The events of the lines of a source. -/
def linesTrace (source : String) (lines : List String) : Trace :=
  linesTraceWith call calls (runBlock .standard call) (blockTrace call calls) source lines

/-- The events in the body of a function. -/
def bodyTrace (name : String) (f : Function) (args : List Value) : Trace := fun s =>
  if args.length != f.params.length then []
  else linesTrace call calls ("<func " ++ name ++ ">") f.body (s.enter f args)

end Lines

/-! ## Calls and scripts -/

/-- The events of a call. A builtin has none. -/
def callTrace : Nat → CallTrace
  | 0, _, _ => .none
  | depth + 1, name, args => fun s =>
    match s.funcs.get? name with
    | some f => bodyTrace (callNamed .standard depth) (callTrace depth) name f args s
    | none => []

/-- The events of a run of the script at a path. Lines that cannot be read have none. -/
def fileTrace (depth : Nat) (path : String) : Trace := fun s =>
  match s.files.readLines path with
  | .ok lines => linesTrace (callNamed .standard depth) (callTrace depth) path lines s
  | .error _ => []

end LineScript
