import LineScript.Fault
import LineScript.Files.Path

/-!
# Sessions

What a run reads and changes: variables, functions, global registers, the debugger, the lines still to
be read, what was printed, and the files. A run ends with a value, with a fault, or unfinished if its
calls nest too deeply; in each case it leaves a session behind.
-/

namespace LineScript

/-! ## Tables in order -/

/-- A table that keeps the order in which its keys were first set. -/
abbrev Table (α : Type) := List (String × α)

/-- Set a key: in place if it is there, else behind all others. -/
def Table.set (t : Table α) (key : String) (a : α) : Table α :=
  match t with
  | [] => [(key, a)]
  | (k, b) :: rest => if k == key then (k, a) :: rest else (k, b) :: Table.set rest key a

def Table.get? (t : Table α) (key : String) : Option α :=
  t.lookup key

/-! ## The parts of a session -/

/-- A function of a script: its parameters and the lines of its body. -/
structure Function where
  params : List String
  body : List String
  deriving DecidableEq, Repr

/-- The state of the debugger: line numbers and places to pause at, whether to pause at every line,
and the expressions to show at a pause. -/
structure Debugger where
  lines : List Int
  places : List (String × Int)
  singleStep : Bool
  stepOverDepth : Option Int
  watches : List String
  deriving DecidableEq, Repr

def Debugger.idle : Debugger :=
  ⟨[], [], false, none, []⟩

/-- The streams with the numbers 0 to 2, which a script can open like files. -/
structure Streams where
  /-- Whether a line was read. The first one brings the whole input from its stream into a buffer. -/
  buffered : Bool
  /-- A stream that was opened by its number is closed afterwards. -/
  closed : List Nat
  deriving DecidableEq, Repr

/-- What appears on the output: a text, or the report of a fault that was survived. -/
inductive Output where
  | text (s : String)
  | report (f : Fault)

structure Session where
  vars : Table Value
  funcs : Table Function
  globals : Table Value
  debugger : Debugger
  callDepth : Int
  debugMode : Bool
  /-- The lines still to be read. -/
  input : List String
  streams : Streams
  /-- What was printed, last first. -/
  output : List Output
  /-- Whether printing is turned off. -/
  silent : Bool
  files : Files.FileTree

/-- The session at the start: two empty registers, and nothing else. -/
def Session.fresh : Session where
  vars := []
  funcs := []
  globals := [("__modules__", .table), ("__packages__", .table)]
  debugger := .idle
  callDepth := 0
  debugMode := false
  input := []
  streams := ⟨false, []⟩
  output := []
  silent := false
  files := .empty Files.work

/-! ## Runs -/

inductive Outcome (α : Type) where
  | done (a : α)
  | failed (f : Fault)
  | unfinished

/-- A run takes a session to an outcome and the session after it. -/
def Run (α : Type) := Session → Outcome α × Session

namespace Run

protected def pure (a : α) : Run α :=
  fun s => (.done a, s)

protected def bind (m : Run α) (k : α → Run β) : Run β :=
  fun s =>
    match m s with
    | (.done a, s) => k a s
    | (.failed f, s) => (.failed f, s)
    | (.unfinished, s) => (.unfinished, s)

instance : Monad Run where
  pure := Run.pure
  bind := Run.bind

def get : Run Session :=
  fun s => (.done s, s)

def modify (f : Session → Session) : Run Unit :=
  fun s => (.done (), f s)

def fail (f : Fault) : Run α :=
  fun s => (.failed f, s)

/-- Give up: the calls nest too deeply. -/
def giveUp : Run α :=
  fun s => (.unfinished, s)

def ofResult : Result α → Run α
  | .ok a => pure a
  | .error f => fail f

/-- Run `m`, and then `cleanup` however `m` ended. -/
def ensuring (m : Run α) (cleanup : Session → Session) : Run α :=
  fun s => let (o, s) := m s; (o, cleanup s)

/-- Run `m`, and turn its fault into a value. What `m` did before the fault stays. -/
def attempt (m : Run α) : Run (Except Fault α) :=
  fun s =>
    match m s with
    | (.done a, s) => (.done (.ok a), s)
    | (.failed f, s) => (.done (.error f), s)
    | (.unfinished, s) => (.unfinished, s)

end Run

/-! ## Printing and reading -/

/-- Put a text on the output, unless printing is turned off. -/
def Session.write (s : Session) (text : String) : Session :=
  if s.silent then s else { s with output := .text text :: s.output }

def write (text : String) : Run Unit :=
  Run.modify (·.write text)

def printLine (text : String) : Run Unit :=
  write (text ++ "\n")

/-- Print values with blanks between them and end the line. A value without a text fails after what
stands before it has been printed. If printing is turned off, no value is asked for its text. -/
def printValues (vs : List Value) : Run Unit := do
  if !(← Run.get).silent then
    go "" vs
    write "\n"
where
  go (gap : String) : List Value → Run Unit
    | [] => pure ()
    | v :: vs => do
      write gap
      match v.text? with
      | some s => write s
      | none => Run.fail (.value (.digitLimit none))
      go " " vs

/-- Whether a stream can be opened by its number. -/
def Streams.opens (t : Streams) (number : Nat) : Bool :=
  number ≤ 2 && !t.closed.contains number

/-- Why no line is read if none is left. -/
def Streams.ended (t : Streams) : Fault :=
  if t.opens 0 then .endOfInput else .descriptor

/-- Set the lines still to be read and the state of the streams. -/
def setInput (input : List String) (streams : Streams) : Run Unit :=
  Run.modify fun s => { s with input := input, streams := streams }

def readLine (prompt : String) : Run String := do
  write prompt
  let s ← Run.get
  match s.input with
  | [] => Run.fail s.streams.ended
  | line :: rest =>
    setInput rest { s.streams with buffered := true }
    return line

/-! ## Written forms of tables -/

/-- The text of a table; nothing if one of its values has none. -/
def Table.shown? (t : Table Value) : Option String := do
  let parts ← t.mapM fun (k, v) => v.shown?.map fun s => Text.quoted k ++ ": " ++ s
  return "\x7b" ++ ", ".intercalate parts ++ "\x7d"

end LineScript
