import LineScript.Compile
import LineScript.Package

/-!
# The dialogue with a user

Lines are read one after the other: some are commands, all others are executed as lines of a script. A
fault of such a line is reported and the dialogue goes on; a fault of a command ends it.
-/

namespace LineScript.Repl

def version : String := "v1.0"

inductive Command where
  | exit
  | help
  | vars
  | funcs
  | modules
  | compile (path : String)
  | install (path : String)
  | tests
  | line (text : String)
  deriving DecidableEq, Repr

/-- The command that a line without blanks at its ends is. -/
def Command.ofLine (line : String) : Command :=
  if line == "exit" || line == "quit" then .exit
  else if line == "help" then .help
  else if line == "vars" then .vars
  else if line == "funcs" then .funcs
  else if line == "modules" then .modules
  else
    match argumentOf? "compile" line with
    | some path => .compile path
    | none =>
      match argumentOf? "stinstall" line with
      | some path => .install path
      | none => if line == "tests run" then .tests else .line line

def helpText : String :=
  "Commands:\n  help — show this\n  vars — show variables\n  funcs — show functions\n" ++
    "  modules — show loaded modules\n  compile <file> — compile .stryke to .py\n" ++
    "  stinstall <path> — install package\n  tests run — run test harness\n" ++
    "  exit/quit — leave REPL"

/-- The names of the functions, as a list. -/
def functionNames (s : Session) : String :=
  "[" ++ ", ".intercalate (s.funcs.map fun f => Text.quoted f.1) ++ "]"

/-- Report a fault without ending the dialogue. -/
def report (f : Fault) : Run Unit :=
  Run.modify fun s => { s with output := .report f :: s.output }

/-- Execute a line outside any script, and report its fault. -/
def executeLine (line : String) : Run Unit := do
  match ← Run.attempt (execute ⟨none, none, unnamedSource⟩ line) with
  | .ok _ => pure ()
  | .error f => report f

def printModules : Run Unit := do
  let v ← fun s => Run.ofResult (s.lookupGlobal "__modules__") s
  printValues [v]

/-- Carry out a command that does not end the dialogue. -/
def Command.perform : Command → Run Unit
  | .exit => pure ()
  | .help => printLine helpText
  | .vars => printVars []
  | .funcs => do printLine (functionNames (← Run.get))
  | .modules => printModules
  | .compile path => Compile.compileFile path none
  | .install path => Package.install .standard path
  | .tests => Run.fail (.noAttribute "module 'test_harness'" "run_tests")
  | .line text => executeLine text

/-- Read lines and carry out their commands, until one ends the dialogue or there are no more lines.
`fuel` bounds the number of lines. -/
def loop : Nat → Run Unit
  | 0 => pure ()
  | fuel + 1 => do
    match ← Run.attempt (readLine "stry> ") with
    | .error .endOfInput => printLine ""
    | .error f => Run.fail f
    | .ok line =>
      let text := Text.strip line
      if text.isEmpty then loop fuel
      else
        match Command.ofLine text with
        | .exit => pure ()
        | command => do
          command.perform
          loop fuel

def run : Run Unit := do
  printLine ("Stryke v" ++ version ++ " REPL — type 'help' for commands")
  loop ((← Run.get).input.length + 1)

/-! ## Command lines -/

/-- The command line of the interpreter. -/
def interpreterMain (args : List String) : Run Unit :=
  match args with
  | "run" :: path :: _ => do
    let _ ← runFile path
  | ["run"] => printLine "Usage: python StrykeCore.py run <file>"
  | _ => run

def compilerMain (args : List String) : Run Unit :=
  match args with
  | path :: _ => Compile.compileFile path none
  | [] => printLine "Usage: python stryke_to_py.py file.stryke"

/-- The command line of the package store. -/
def storeMain (args : List String) : Run Unit :=
  match args with
  | "install" :: path :: _ => Package.install .standard path
  | "uninstall" :: name :: _ => Package.uninstall .standard name
  | _ => printLine "Usage: python stryinstall.py install <path> | uninstall <name>"

end LineScript.Repl
