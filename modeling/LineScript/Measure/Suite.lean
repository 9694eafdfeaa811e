import LineScript.Measure.Script
import LineScript.Sample

/-!
# Suites of benchmarks

A suite is a module with benchmarks in it. A benchmark is a function of named arguments: calling it may
fail, and so may the work that it does or that it gives back to be done later.
-/

namespace LineScript.Measure

abbrev Arguments := List (String × Sample)

inductive LoadWay where
  | byName
  | byPlace
  | byLoader
  | byRunning
  deriving DecidableEq, Repr

inductive Use where
  | kind
  | itself
  | attribute
  | call
  | absorb
  | truth
  | length
  | integer
  | real
  | index
  | membership
  | items
  deriving DecidableEq, Repr

structure Load where
  way : LoadWay
  target : String
  use : Use

inductive Work where
  | raises (f : Fault)
  /-- Work that is interrupted by the time limit. -/
  | alarm
  | load (l : Load)
  /-- The argument of a name, or nothing. -/
  | echo (name : String)
  /-- The integers below the argument of a name; below three if there is none. -/
  | upto (name : String)
  /-- The next of several samples at each computation, and the last one for ever after. -/
  | values (vs : List Sample)

structure BenchFunction where
  /-- The fault of calling it, if it fails. -/
  fault : Option Fault
  work : Work
  /-- The sets of arguments it is to be called with. -/
  params : List Arguments

inductive Member where
  | constant
  | function (f : BenchFunction)

structure Suite where
  members : List (String × Member)
  /-- The fault of loading the suite, if it fails. -/
  fault : Option Fault
  /-- The file of the suite. -/
  file : String

inductive Interruption where
  | fault (f : Fault)
  | timeLimit

/-! ## Computing -/

/-- The integer that a sample is, if it is one. -/
def integerOf? : Sample → Option Int
  | .value (.int n) => some n
  | .value (.bool b) => some (if b then 1 else 0)
  | _ => none

/-- What work gives for some arguments, and the work that is left for the next time. `load` gives what
a loaded module answers. -/
def Work.compute (load : Load → Except Fault Sample) (args : Arguments) :
    Work → Except Interruption Sample × Work
  | .raises f => (.error (.fault f), .raises f)
  | .alarm => (.error .timeLimit, .alarm)
  | .load l => ((load l).mapError .fault, .load l)
  | .echo name => (.ok ((args.lookup name).getD .nothing), .echo name)
  | .upto name =>
    match args.lookup name with
    | none => (.ok (.upto 3), .upto name)
    | some s =>
      match integerOf? s with
      | some n => (.ok (.upto n), .upto name)
      | none => (.error (.fault (.type (.notAnInteger s.kindName))), .upto name)
  | .values [] => (.ok .nothing, .values [])
  | .values [v] => (.ok v, .values [v])
  | .values (v :: vs) => (.ok v, .values vs)

/-- Call a benchmark and do its work once. -/
def BenchFunction.run (load : Load → Except Fault Sample) (args : Arguments) (f : BenchFunction) :
    Except Interruption Sample × Work :=
  match f.fault with
  | some fault => (.error (.fault fault), f.work)
  | none => f.work.compute load args

/-- Outside a control run nothing is known of loaded modules. -/
def noLoading (_ : Load) : Except Fault Sample :=
  .ok .nothing

/-! ## The benchmarks of a suite -/

/-- Whether a name is that of a benchmark. -/
def isBenchName (name : String) : Bool :=
  name.startsWith "bench_"

/-- The members of a suite, of which the later one of a name counts. -/
def Suite.table (s : Suite) : Table Member :=
  s.members.foldl (fun t (name, m) => t.set name m) []

/-- The benchmarks of a suite, by name. -/
def Suite.functions (s : Suite) : List (String × BenchFunction) :=
  let named := s.table.filterMap fun (name, m) =>
    match m with
    | .function f => if isBenchName name then some (name, f) else none
    | .constant => none
  named.mergeSort fun a b => decide (a.1 ≤ b.1)

end LineScript.Measure
