import LineScript.Benchmark.Workload
import LineScript.Repl
import LineScript.Sample

/-!
# Benchmarks of the interpreter

A benchmark has a size. It is set up once, and what it sets up is then run any number of times. All
benchmarks work in one session; those that need a clean interpreter reset it first.
-/

namespace LineScript

inductive Benchmark where
  | evalTree
  | evalText
  | script
  | functions
  | runFile
  | debugger
  | dialogue
  | compile
  | install
  | fileBuiltins
  deriving DecidableEq, Repr

namespace Benchmark

def all : List Benchmark :=
  [.evalTree, .evalText, .script, .functions, .runFile, .debugger, .dialogue, .compile, .install,
   .fileBuiltins]

def name : Benchmark → String
  | .evalTree => "bench_eval_ast"
  | .evalText => "bench_safe_eval"
  | .script => "bench_execute_script"
  | .functions => "bench_user_funcs"
  | .runFile => "bench_run_file"
  | .debugger => "bench_debugger"
  | .dialogue => "bench_repl"
  | .compile => "bench_compile"
  | .install => "bench_install"
  | .fileBuiltins => "bench_file_builtins"

def ofName? (s : String) : Option Benchmark :=
  all.find? (·.name == s)

/-- The name of the parameter that gives the size. -/
def parameter : Benchmark → String
  | .evalTree | .evalText => "n_exprs"
  | .script | .compile | .dialogue => "n_lines"
  | .functions => "n_calls"
  | .runFile => "n_stmts"
  | .debugger => "n_pauses"
  | .install => "n_script_lines"
  | .fileBuiltins => "n_terms"

def defaultSize : Benchmark → Int
  | .evalTree => 60
  | .evalText => 24
  | .script => 400
  | .functions => 60
  | .runFile => 60
  | .debugger => 30
  | .dialogue => 40
  | .compile => 400
  | .install => 60
  | .fileBuiltins => 24

/-! ## The session -/

/-- Forget variables and functions, and put the debugger to rest. -/
def reset : Run Unit :=
  Run.modify fun s =>
    { s with vars := [], funcs := [], debugger := .idle, callDepth := 0 }

/-- The variables by name, each as a pair. -/
def sortedVars (s : Session) : Sample :=
  let sorted := s.vars.mergeSort fun a b => decide (a.1 ≤ b.1)
  .list (sorted.map fun (k, v) => .tuple [.str k, .value v])

/-- Run with given lines of input, and put back those that were there, with nothing read of them. -/
def withInput (lines : List String) (m : Run α) : Run α :=
  fun s =>
    let restored := fun t : Session =>
      { t with input := s.input, streams := { t.streams with buffered := s.streams.buffered } }
    Run.ensuring m restored { s with input := lines }

/-- Make a new directory with a number behind its name. -/
def freshDir : Run String := do
  let files := (← Run.get).files
  let numbers := (List.range (files.entries.length + 1)).map (· + 1)
  let free := numbers.find? fun n => !files.pathExists s!"tmp{n}"
  let dir := s!"tmp{free.getD 0}"
  Package.changeFiles (·.makeDirs false dir)
  return dir

/-- Write a text to a file of a directory. -/
def place (dir name text : String) : Run Unit :=
  Package.writeContent (Files.join dir name) text

def textAt (path : String) : Run String := do
  Run.ofResult ((← Run.get).files.readText path)

/-! ## Expressions -/

def evalParsed (text : String) : Run Value :=
  match Expr.parse? text with
  | some e => e.eval callAny
  | none => Run.fail .missingEnd

/-- The value that a run gives, or a word for its fault. -/
def orWord (word : String) (m : Run Value) : Run Sample := do
  match ← Run.attempt m with
  | .ok v => return .value v
  | .error _ => return .str word

def evalTreeRun (n : Nat) : Run Sample := do
  reset
  let values ← (cycled expressions n).mapM evalParsed
  let failed ← failingExpressions.mapM fun e => orWord "err" (evalParsed e)
  return .list (values.map .value ++ failed)

def evalTextRun (n : Nat) : Run Sample := do
  reset
  Run.modify fun s => { s with vars := s.vars.set "not an expression" (.str "fallback") }
  let values ← (cycled longTexts n ++ otherTexts).mapM evaluate
  return .list (values.map .value)

/-! ## Scripts -/

/-- Execute lines one after the other and collect the values that they give back. -/
def collect (exec : Nat → String → Run LineResult) : Nat → Nat → List String → Run (List Value)
  | _, _, [] => pure []
  | skip + 1, i, _ :: rest => collect exec skip (i + 1) rest
  | 0, i, line :: rest => do
    match ← exec i line with
    | .next => collect exec 0 (i + 1) rest
    | .jump j => collect exec (j - i).toNat (i + 1) rest
    | .returned v => return v :: (← collect exec 0 (i + 1) rest)

def scriptRun (blocks : Nat) : Run Sample := do
  reset
  let lines := (List.replicate blocks scriptBlock).flatten
  let values ← collect (fun i => execute ⟨some lines, some i, unnamedSource⟩) 0 0 lines
  return .list (values.map .value ++ [sortedVars (← Run.get)])

/-- What three functions give for an argument. -/
def callThree (i : Nat) : Run (List Sample) := do
  let scaled ← callFunction "scale" [.int i]
  let quiet ← callFunction "quiet" []
  let nested ← callFunction "nested" [.int 2]
  return [.value scaled, .value quiet, .value nested]

def functionsRun (n : Nat) : Run Sample := do
  reset
  let _ ← runLines .standard callAny unnamedSource functionLines
  let values ← (List.range n).mapM callThree
  let arity ← orWord "arity" (callFunction "scale" [])
  let noEnd ← orWord "noend" do
    let _ ← execute ⟨some [openDefinition], some 0, unnamedSource⟩ openDefinition
    return .none
  return .list (values.flatten ++ [arity, noEnd])

def fileRun (path : String) : Run Sample := do
  reset
  let v ← LineScript.runFile path
  return .list [.value (v.getD .none), sortedVars (← Run.get)]

/-! ## Dialogues -/

/-- Pause several times with the same commands, and collect how each pause ends. -/
def debuggerRun (n : Nat) : Run Sample := do
  reset
  Run.modify fun s => { s with vars := s.vars.set "x" (.int 4900) }
  let actions ← (List.range n).mapM fun (i : Nat) =>
    withInput pauseCommands (pauseAt callAny unnamedSource i "stryset x (x + 1)")
  let d := (← Run.get).debugger
  return .list
    [.list (actions.map fun a => .str a.name), .list (d.sortedLines.map .int),
     .list (d.watches.map .str)]

def dialogueRun (n : Nat) : Run Sample := do
  reset
  withInput (dialogueLines n) Repl.run
  return sortedVars (← Run.get)

/-! ## Files -/

def compileSetup (blocks : Nat) : Run String := do
  let dir ← freshDir
  place dir "prog.stryke" (String.join (List.replicate blocks compiledBlock))
  place dir "empty.stryke" "# only a comment\n\n"
  return dir

/-- Compile the same script twice and an empty one; the length of the program and of its lines. -/
def compileRun (dir : String) : Run Sample := do
  let inDir := fun name => Files.join dir name
  Compile.compileFile (inDir "prog.stryke") (some (inDir "out.py"))
  Compile.compileFile (inDir "prog.stryke") none
  Compile.compileFile (inDir "empty.stryke") (some (inDir "empty.py"))
  Compile.compileFile (inDir "missing.stryke") none
  let text ← textAt (inDir "out.py")
  return .list [.int text.length, .int (text.toList.count '\n')]

def installSetup (n : Nat) : Run String := do
  let dir ← freshDir
  Package.changeFiles (·.makeDirs false (Files.join dir "pkg"))
  place dir "pkg/main.stryke" "stryset a (1)\n"
  place dir "single.stryke" "stryset b (2)\n"
  place dir "plain.txt" "z\n"
  place dir "workload.stryke" (counting n)
  return dir

/-- Install and remove packages in a store, and give the length of its register. -/
def storeRun (dir store : String) : Run Sample := do
  let lib := Files.join dir store
  let s : Package.Store := ⟨lib, Files.join lib "packages.json", .usual⟩
  Package.install s (Files.join dir "pkg")
  Package.install s (Files.join dir "pkg")
  Package.install s (Files.join dir "single.stryke")
  Package.install s (Files.join dir "plain.txt")
  Package.install s (Files.join dir "missing")
  Package.uninstall s "single.stryke"
  Package.uninstall s "missing"
  return .int (← textAt s.register).length

def installRun (dir : String) : Run Sample := do
  let first ← storeRun dir "stryinstall_lib"
  let second ← storeRun dir "test_harness_lib"
  reset
  let installed ← LineScript.runFile (Files.join dir "stryinstall_lib/pkg/main.stryke")
  let work ← LineScript.runFile (Files.join dir "workload.stryke")
  return .list [first, second, .value (installed.getD .none), .value (work.getD .none)]

/-- Write a file by a builtin and add up the lengths of what is read from it. -/
def fileBuiltinsRun (path : String) (terms : Nat) : Run Sample := do
  let quoted := Text.quoted path
  let _ ← evaluate ("writefile(" ++ quoted ++ ", 'abcdefghij' * 256)")
  let total ← evaluate (" + ".intercalate (List.replicate terms ("len(readfile(" ++ quoted ++ "))")))
  return .value total

/-! ## Running -/

/-- Set a benchmark up, and give what is to be run. -/
def prepare (b : Benchmark) (size : Int) : Run (Run Sample) :=
  let n := size.toNat
  match b with
  | .evalTree => return evalTreeRun n
  | .evalText => return evalTextRun n
  | .script => return scriptRun (max 1 (n / 20))
  | .functions => return functionsRun n
  | .runFile => do
    let dir ← freshDir
    place dir "prog.stryke" (assignments n)
    return fileRun (Files.join dir "prog.stryke")
  | .debugger => return debuggerRun n
  | .dialogue => return dialogueRun n
  | .compile => do return compileRun (← compileSetup (max 1 (n / 18)))
  | .install => do return installRun (← installSetup n)
  | .fileBuiltins => do return fileBuiltinsRun (Files.join (← freshDir) "data.txt") (max 2 n)

def sizeOf (b : Benchmark) : List (String × Value) → Result Int
  | [] => .ok b.defaultSize
  | args =>
    match args.find? (·.1 != b.parameter) with
    | some (other, _) => .error (.type (.unexpectedArgument b.name other))
    | none =>
      match args.getLast? with
      | some (_, .int n) => .ok n
      | some (_, .bool t) => .ok (if t then 1 else 0)
      | some (_, v) => .error (.type (.notAnIndex v.kind))
      | none => .ok b.defaultSize

def repeated (m : Run Sample) : Nat → Run (List Sample)
  | 0 => pure []
  | n + 1 => do
    let s ← m
    return s :: (← repeated m n)

/-- Run the benchmark of a name several times. From the first benchmark on nothing is printed. -/
def runNamed (name : String) (args : List (String × Value)) (runs : Nat) : Run (List Sample) := do
  Run.modify fun s => { s with silent := true }
  match ofName? name with
  | none => Run.fail (.noAttribute "module 'microbench'" name)
  | some b =>
    let size ← Run.ofResult (b.sizeOf args)
    repeated (← b.prepare size) runs

end Benchmark

end LineScript
