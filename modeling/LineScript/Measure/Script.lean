import LineScript.Json.Access
import LineScript.Session

/-!
# Measuring scripts

A measuring script works on a desk: the files, what it printed and complained about, and the calls it
made to the outside. It runs to its end, or stops before it with an exit code or a fault.
-/

namespace LineScript.Measure

inductive Program where
  | coverage
  | repoTime
  | versions
  | selfCheck
  deriving DecidableEq, Repr

/-- A call to the outside: a program that is started, or a step of the recorder of covered lines. -/
inductive Call where
  | program (p : Program)
  | recorder (skipped : Json)
  | start
  | stop
  | report (path : String)

structure Desk where
  files : Files.FileTree
  /-- What was printed, last first. -/
  printed : List Output
  /-- What was written to the error output. -/
  complaints : String
  /-- The calls to the outside, in order. -/
  calls : List Call

inductive Stop where
  | exit (code : Int)
  | fault (f : Fault)

abbrev Script (α : Type) := ExceptT Stop (StateM Desk) α

namespace Script

def print (text : String) : Script Unit :=
  modify fun d => { d with printed := .text (text ++ "\n") :: d.printed }

/-- Report a fault that the script survives. -/
def report (f : Fault) : Script Unit :=
  modify fun d => { d with printed := .report f :: d.printed }

def call (c : Call) : Script Unit :=
  modify fun d => { d with calls := d.calls ++ [c] }

def exit (code : Int) : Script α :=
  throw (.exit code)

def fail (f : Fault) : Script α :=
  throw (.fault f)

def ofResult : Result α → Script α
  | .ok a => pure a
  | .error f => fail f

/-- Write a file, in place of the one that is there. -/
def writeFile (path text : String) : Script Unit := do
  let files ← ofResult ((← get).files.write path (Text.Utf8.encode text))
  modify fun d => { d with files := files }

end Script

/-- How deeply nested the values may be that a script reads. -/
def readableLevels : Nat := 992

def readData (text : String) : Result Json :=
  Json.parseWithin readableLevels text

/-- Faults that end a script wherever they occur. -/
def isFatal : Fault → Bool
  | .raised kind _ => ["KeyboardInterrupt", "GeneratorExit", "BaseException"].contains kind
  | _ => false

end LineScript.Measure
