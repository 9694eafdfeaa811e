import LineScript.Measure.Loading
import LineScript.Sample.Fingerprint

/-!
# The self-check

Every benchmark is run twice without arguments and once with each set of arguments. Its row holds the
fingerprints of the results, the share of its time in the sources, and the fingerprints of its arguments.
A benchmark that fails has a row too. In a control run each is run once, and only that result counts.
-/

namespace LineScript.Measure

structure Row where
  kind : String
  stable : List String
  byParam : Table String
  times : Table Float
  shares : Table Float
  builtins : Table Float
  paramPrints : List String

def Row.blank : Row :=
  ⟨"?", [], [], [], [], [], []⟩

def Row.toJson (r : Row) : Json :=
  let texts := fun (ss : List String) => Json.list (ss.map .str)
  let numbers := fun (t : Table Float) => Json.object (t.map fun (k, x) => (k, .float x))
  .object
    [("ret_type", .str r.kind), ("fp_stable", texts r.stable),
     ("fp_by_param", .object (r.byParam.map fun (k, s) => (k, .str s))),
     ("repo_tt_ms", numbers r.times), ("repo_frac", numbers r.shares),
     ("ext_frac", numbers r.builtins), ("param_fps", texts r.paramPrints)]

/-! ## Checking a benchmark -/

/-- The state of a check: the row so far, the work that is left, and the profiles that are left. -/
structure Checking where
  row : Row
  work : Work
  profiles : List Profile

abbrev Check (α : Type) := ExceptT Interruption (StateM Checking) α

/-- The label of the run without arguments. -/
def defaultLabel : String := "<default>"

def labelOf (args : Arguments) : String :=
  ",".intercalate (args.map fun (k, v) => k ++ "=" ++ v.text)

def changeRow (f : Row → Row) : Check Unit :=
  modify fun c => { c with row := f c.row }

def runOnce (load : Load → Except Fault Sample) (f : BenchFunction) (args : Arguments) :
    Check Sample := do
  let (r, work) := { f with work := (← get).work }.run load args
  modify fun c => { c with work := work }
  match r with
  | .ok s => return s
  | .error i => throw i

/-- Enter the next profile under a label. -/
def enterProfile (label : String) : Check Unit := do
  let (p, rest) := nextProfile (← get).profiles
  modify fun c => { c with profiles := rest }
  let source := p.sourceTime Files.work
  changeRow fun r =>
    { r with
      times := r.times.set label (Number.roundPlaces 3 (source * 1000.0))
      shares := r.shares.set label (Number.roundPlaces 3 (source / p.whole))
      builtins := r.builtins.set label (Number.roundPlaces 3 (p.builtinTime / p.whole)) }

def checkParams (f : BenchFunction) : List Arguments → Check Unit
  | [] => pure ()
  | args :: rest => do
    let s ← runOnce noLoading f args
    enterProfile (labelOf args)
    changeRow fun r =>
      { r with
        byParam := r.byParam.set (labelOf args) s.fingerprint
        paramPrints := r.paramPrints ++ args.map fun (_, v) => v.fingerprint }
    checkParams f rest

def checkBench (f : BenchFunction) : Check Unit := do
  let first ← runOnce noLoading f []
  enterProfile defaultLabel
  let second ← runOnce noLoading f []
  changeRow fun r =>
    { r with kind := first.kindName, stable := [first.fingerprint, second.fingerprint] }
  checkParams f f.params

/-- The check of a benchmark in a control run. -/
def checkControl (c : Control) (f : BenchFunction) : Check Unit := do
  let s ← runOnce c.answer f []
  changeRow fun r => { r with kind := s.kindName, stable := [s.fingerprint] }

/-- The kind that the row of an interrupted benchmark shows. -/
def Interruption.kindName : Interruption → String
  | .fault f => "<" ++ f.kindName ++ ">"
  | .timeLimit => "<timeout>"

/-! ## The script -/

/-- Check benchmarks one after the other, and report their faults. -/
def checkAll (check : BenchFunction → Check Unit) :
    List Profile → List (String × BenchFunction) → Script (List (String × Row))
  | _, [] => pure []
  | profiles, (name, f) :: rest => do
    let (r, c) := (check f).run.run ⟨.blank, f.work, profiles⟩
    let row ← match r with
      | .ok () => pure c.row
      | .error i => do
        if let .fault fault := i then
          if isFatal fault then Script.fail fault
          Script.report fault
        pure { c.row with kind := i.kindName }
    return (name, row) :: (← checkAll check c.profiles rest)

/-- Stop with a message if the suite cannot be loaded. -/
def requireSuite (suite : Suite) : Script Unit := do
  if let some f := suite.fault then
    if isFatal f then Script.fail f
    Script.print (Json.text (.object [("_import_error", .str f.summary)]))
    Script.exit 0

/-- Check all benchmarks of a suite and print their rows. -/
def selfCheck (suite : Suite) (profiles : List Profile) (control : Option Control) : Script Unit := do
  requireSuite suite
  let check := match control with
    | some c => checkControl c
    | none => checkBench
  let rows ← checkAll check profiles suite.functions
  let entries := rows.map fun (name, r) => (name, r.toJson)
  Script.print (Json.text (.object [("semcheck", .object entries)]))

end LineScript.Measure
