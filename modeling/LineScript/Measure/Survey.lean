import LineScript.Measure.Feedback

/-!
# A round of measuring

Covered lines are measured first; without them there is no round. Shares of time and verdicts are
signals on top of them: what cannot be had of them is left out with a complaint. The round is then
entered in the checkpoint file, its tables are printed, and it says whether measuring may stop.
-/

namespace LineScript.Measure

/-- A program that was started: how it ended and what it wrote. -/
structure Child where
  code : Int
  output : String
  errors : String
  /-- The fault of starting it, if it cannot be started. -/
  fault : Option Fault
  /-- The report that it leaves behind. -/
  report : Option String

/-- The world of a round: the programs it starts, and the readings of its clocks. -/
structure World where
  coverage : Child
  repoTime : Child
  versions : Child
  selfCheck : Child
  started : Float
  ended : Float
  now : Float

/-! ## Programs -/

def reportFile : String := "_pti_coverage.json"

def suiteFile : String := "microbench.py"

def start (p : Program) (c : Child) : Script Child := do
  Script.call (.program p)
  if let some f := c.fault then Script.fail f
  if let some text := c.report then Script.writeFile reportFile text
  return c

/-- Run a part of a script, and turn its fault into a value. -/
def attempt (m : Script α) : Script (Except Fault α) :=
  tryCatch (do return .ok (← m)) fun
    | .fault f => if isFatal f then throw (.fault f) else return .error f
    | .exit code => throw (.exit code)

def isLineEnd (c : Char) : Bool :=
  let n := c.toNat
  (10 ≤ n && n ≤ 13) || (28 ≤ n && n ≤ 30) || n == 0x85 || n == 0x2028 || n == 0x2029

/-- The last line of a text without blanks at its ends; nothing if there is none. -/
def lastLine? (text : String) : Option String :=
  let cs := Text.trim text.toList
  if cs.isEmpty then none else some (String.ofList (cs.reverse.takeWhile (!isLineEnd ·)).reverse)

/-- The value on the last line that a program wrote; nothing if it wrote none. -/
def Child.answer (c : Child) : Result (Option Json) :=
  match lastLine? c.output with
  | some line => (readData line).map some
  | none => .ok none

/-! ## Covered lines -/

/-- The shares of benchmarks, and the places outside the sources where they spend most. -/
structure Shares where
  percents : List (String × Float)
  hottest : Json

def Shares.empty : Shares :=
  ⟨[], .object []⟩

def Shares.ofAnswer (v : Json) : Result Shares := do
  let percents ← (← (← v.part "repo_time_pct" (.object [])).entries).mapM fun (name, x) => do
    return (name, ← x.toReal)
  return ⟨percents, ← v.part "hot_ext" (.object [])⟩

def Child.shares (c : Child) : Result Shares := do
  match ← c.answer with
  | some v => Shares.ofAnswer v
  | none => return .empty

/-- How many benchmarks are below the target; unknown if there are no shares. -/
def Shares.below (s : Shares) : Option Nat :=
  if s.percents.isEmpty then none
  else some (s.percents.filter fun p => isBelow p.2).length

/-! ## Verdicts -/

/-- The finding on a row; what is no row has none. -/
def findingOf (modified : Bool) (name : String) (row : Json) : Result (Option Finding) := do
  match row with
  | .object _ =>
    let e ← Evidence.ofRow row
    return some ⟨name, e, e.verdict modified⟩
  | _ => return none

def findingsOf (modified : Bool) (v : Json) : Result (List Finding) := do
  let rows ← (← v.part "semcheck" (.object [])).entries
  let findings ← rows.mapM fun (name, row) => findingOf modified name row
  return findings.filterMap id

/-- The findings in what a program wrote. -/
def Child.findings (c : Child) (modified : Bool) : Result (List Finding) := do
  match ← c.answer with
  | some v => findingsOf modified v
  | none => return []

/-- The least share of covered lines at which measuring may stop. -/
def enoughCoverage : Float := 60.0

/-- Say that measuring may stop, if it may. -/
def sayConverged (history : List Int) (r : Round) : Script Unit := do
  if let some below := r.below then
    if decide (enoughCoverage ≤ sortKey r.percent) then
      if let some c := converged? history below then
        Script.print c.line

structure Measured where
  report : Json
  totals : Totals
  errors : List (String × Json)
  benches : Nat
  shares : Shares
  findings : List Finding

/-- What is recorded of a round after a history. -/
def roundOf (w : World) (history : History) (m : Measured) : Round where
  number := history.rounds + 1
  time := w.now
  sinceLast := history.sinceLast w.now
  percent := m.totals.percent
  covered := m.totals.covered
  statements := m.totals.statements
  benches := m.benches
  errors := m.errors.length
  measured := Number.roundPlaces 3 (w.ended - w.started)
  shares := m.shares.percents
  below := m.shares.below
  verdicts := m.findings.map fun f => (f.name, f.verdict.name)
  notChecking := (m.findings.filter fun f => !f.verdict.isGood).length

end LineScript.Measure
