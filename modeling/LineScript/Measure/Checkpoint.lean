import LineScript.Builtin
import LineScript.Measure.Script

/-!
# Checkpoints

Every round of measuring appends one line to the checkpoint file. The lines of earlier rounds give the
number of the round, the time since the last one, and the history by which a plateau is recognised.
-/

namespace LineScript.Measure

def checkpointFile : String := ".pti_checkpoint.jsonl"

structure History where
  rounds : Nat
  lastTime : Option Float
  /-- How many benchmarks were below the target, for each round that knows it. -/
  below : List Int

def History.empty : History :=
  ⟨0, none, []⟩

/-- The number of benchmarks below the target in a line, if the line knows it. -/
def belowOf? (line : Json) : Option Int :=
  match line.get? "n_below_repo_time" with
  | some (.int n) => some n
  | some (.bool b) => some (if b then 1 else 0)
  | _ => none

def History.ofLines (lines : List Json) : Result History := do
  let checked ← lines.mapM fun line => do
    let _ ← line.part "n_below_repo_time" .null
    return line
  let lastTime ← match checked.getLast? with
    | some line => some <$> (← line.part "ts" (.float 0.0)).toReal
    | none => pure none
  return ⟨checked.length, lastTime, checked.filterMap belowOf?⟩

/-- The history in a text: one value on each line that is not blank. -/
def History.ofText (text : String) : Result History := do
  let lines := (Text.lines text.toList).filter fun l => !(Text.strip l).isEmpty
  History.ofLines (← lines.mapM readData)

def History.load (files : Files.FileTree) : Result History :=
  if files.pathExists checkpointFile then do
    History.ofText (← files.readText checkpointFile)
  else .ok .empty

structure Round where
  number : Nat
  time : Float
  sinceLast : Float
  percent : Json
  covered : Json
  statements : Json
  benches : Nat
  errors : Nat
  measured : Float
  shares : List (String × Float)
  below : Option Nat
  verdicts : List (String × String)
  notChecking : Nat

def countOrNull : Option Nat → Json
  | some n => .int n
  | none => .null

def Round.toJson (r : Round) : Json :=
  .object
    [("round", .int r.number), ("ts", .float r.time), ("wall_since_prev_s", .float r.sinceLast),
     ("coverage_pct", r.percent), ("covered_lines", r.covered), ("num_statements", r.statements),
     ("n_bench_fns", .int r.benches), ("n_bench_errors", .int r.errors),
     ("cov_measure_s", .float r.measured),
     ("repo_time_pct", .object (r.shares.map fun (k, x) => (k, .float x))),
     ("n_below_repo_time", countOrNull r.below),
     ("semcheck", .object (r.verdicts.map fun (k, v) => (k, .str v))),
     ("n_not_self_checking", .int r.notChecking)]

/-- The seconds since the last round, with two places. -/
def History.sinceLast (h : History) (now : Float) : Float :=
  match h.lastTime with
  | some t => Number.roundPlaces 2 (now - t)
  | none => 0.0

/-- What the checkpoint file holds, nothing if it is not there. -/
def recordedBytes (files : Files.FileTree) : Result Text.Bytes :=
  if files.pathExists checkpointFile then files.read checkpointFile else .ok []

/-- Append a line to the checkpoint file. -/
def appendLine (files : Files.FileTree) (line : String) : Result Files.FileTree := do
  files.write checkpointFile ((← recordedBytes files) ++ Text.Utf8.encode (line ++ "\n"))

/-! ## Plateaus -/

/-- The least number so far, and for how many rounds there was no smaller one. -/
structure Plateau where
  best : Int
  since : Nat
  deriving DecidableEq, Repr

def Plateau.step (p : Option Plateau) (n : Int) : Option Plateau :=
  match p with
  | none => some ⟨n, 0⟩
  | some p => if n < p.best then some ⟨n, 0⟩ else some { p with since := p.since + 1 }

/-- The plateau at the end of a sequence of rounds. -/
def Plateau.ofRounds (seq : List Int) : Option Plateau :=
  seq.foldl Plateau.step none

/-- So many rounds without a smaller number are enough. -/
def patience : Nat := 3

inductive Converged where
  | noneBelow
  | noProgress (rounds : Nat) (best : Int)
  deriving DecidableEq, Repr

/-- Whether measuring may stop after a round with `below` benchmarks below the target. -/
def converged? (history : List Int) (below : Nat) : Option Converged :=
  if below == 0 then some .noneBelow
  else
    match Plateau.ofRounds (history ++ [(below : Int)]) with
    | some p => if patience ≤ p.since then some (.noProgress p.since p.best) else none
    | none => none

def Converged.text : Converged → String
  | .noneBelow => "0 below"
  | .noProgress rounds best => s!"no improvement in {rounds} rounds; best {best} below"

/-- The line that says that measuring may stop. -/
def Converged.line (c : Converged) : String :=
  "\n>>> STOP: repo_time converged (" ++ c.text ++ "). Finalize microbench.py now. <<<"

end LineScript.Measure
