import LineScript.Builtin
import LineScript.Json.Access
import LineScript.Measure.Suite

/-!
# Covered lines

All benchmarks of a suite are run once while a recorder notes which lines they reach. The report of the
recorder is then completed by the benchmarks that failed and their number.
-/

namespace LineScript.Measure

/-- What is to be recorded: the text of the list of files to be left out, the report that the recorder
writes, the suite, and the name by which it is loaded, if there is no module of that name. -/
structure Recording where
  skipped : String
  report : Option String
  suite : Suite
  missingName : Option String

def coverageFile : String := "cov.json"

/-- The name under which the fault of loading a suite is recorded. -/
def loadingName : String := "<import>"

/-- The fault of a benchmark that fails when it is called or when its work is done. -/
def BenchFunction.fault? (f : BenchFunction) : Option Fault :=
  match (f.run noLoading []).1 with
  | .error (.fault fault) => some fault
  | _ => none

/-- The benchmarks that fail, with their faults. -/
def failures (fs : List (String × BenchFunction)) : List (String × Fault) :=
  fs.filterMap fun (name, f) => f.fault?.map fun fault => (name, fault)

/-- Report faults one after the other; a fatal one ends the script. -/
def reportFaults : List (String × Fault) → Script Unit
  | [] => pure ()
  | (_, f) :: rest => do
    if isFatal f then Script.fail f
    Script.report f
    reportFaults rest

def Recording.loadingFault (r : Recording) : Option Fault :=
  match r.missingName with
  | some name => some (.noModule name)
  | none => r.suite.fault

/-- Everything that fails: the loading of the suite, or else some of its benchmarks. -/
def Recording.failures (r : Recording) : List (String × Fault) :=
  match r.loadingFault with
  | some f => [(loadingName, f)]
  | none => Measure.failures r.suite.functions

/-- The number of benchmarks that are run. -/
def Recording.count (r : Recording) : Nat :=
  match r.loadingFault with
  | some _ => 0
  | none => r.suite.functions.length

/-- Enter parts into the part of an object that describes the report. -/
def describe (report : Json) (parts : List (String × Json)) : Result Json :=
  match report with
  | .object entries =>
    match (entries.lookup "meta").getD (.object []) with
    | .object old =>
      let new := parts.foldl (fun es (k, v) => Json.setEntry es k v) old
      .ok (.object (Json.setEntry entries "meta" (.object new)))
    | .list _ => .error (.type .listIndex)
    | v => .error (.type (.noAssignment v.kindName))
  | v => .error (v.lacks "setdefault")

/-- Record a suite, complete the report, and print a summary. -/
def coverage (r : Recording) : Script Unit := do
  let skipped ← Script.ofResult (readData r.skipped)
  Script.call (.recorder skipped)
  Script.call .start
  reportFaults r.failures
  Script.call .stop
  Script.call (.report coverageFile)
  if let some text := r.report then Script.writeFile coverageFile text
  let text ← Script.ofResult ((← get).files.readText coverageFile)
  let report ← Script.ofResult (readData text)
  let errors := Json.object (r.failures.map fun (name, f) => (name, .str f.summary))
  let full ← Script.ofResult
    (describe report [("_pti_bench_errors", errors), ("_pti_n_benches", .int r.count)])
  Script.writeFile coverageFile full.text
  let totals ← Script.ofResult (full.part "totals" (.object []))
  let percent ← Script.ofResult (totals.part "percent_covered" (.float 0.0))
  let covered ← Script.ofResult (totals.part "covered_lines" (.int 0))
  let statements ← Script.ofResult (totals.part "num_statements" (.int 0))
  let share ← Script.ofResult (percent.placesText 1)
  let lines := covered.plainText ++ "/" ++ statements.plainText
  Script.print
    s!"coverage: {share}% ({lines} stmts, {r.count} benches, {r.failures.length} errors)"

end LineScript.Measure
