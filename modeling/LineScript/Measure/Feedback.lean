import LineScript.Measure.Checkpoint
import LineScript.Measure.Profile
import LineScript.Measure.Verdict
import LineScript.Text.Word

/-!
# Tables of a round

What a round of measuring prints: the covered lines of every file, the benchmarks that failed, the shares
of time, and the verdicts.
-/

namespace LineScript.Measure

/-! ## Columns -/

def padRight (width : Nat) (s : String) : String :=
  s ++ String.ofList (List.replicate (width - s.length) ' ')

def padLeft (width : Nat) (s : String) : String :=
  String.ofList (List.replicate (width - s.length) ' ') ++ s

/-! ## Covered lines -/

structure FileCoverage where
  name : String
  statements : Json
  missed : Json
  percent : Json
  missing : List Json

def sortKey (v : Json) : Float :=
  match v.toReal with
  | .ok x => x
  | .error _ => 0.0

def nameLimit : Nat := 60

def missingLimit : Nat := 12

/-- The list of missing lines, cut short if there are too many. -/
def missingText (lines : List Json) : String :=
  ",".intercalate ((lines.take missingLimit).map Json.plainText) ++
    (if missingLimit < lines.length then "…" else "")

def coverageRow (width : Nat) (name statements missed share : String) : String :=
  padRight width name ++ "  " ++ padLeft 5 statements ++ "  " ++ padLeft 4 missed ++ "  " ++
    padLeft 4 share ++ "%"

def FileCoverage.row (width : Nat) (f : FileCoverage) : Result String := do
  let share ← f.percent.placesText 0
  return coverageRow width (String.ofList (f.name.toList.take nameLimit)) f.statements.plainText
    f.missed.plainText share ++ "  " ++ missingText f.missing

structure Totals where
  percent : Json
  covered : Json
  statements : Json

def Totals.missed (t : Totals) : String :=
  match t.statements, t.covered with
  | .int n, .int m => Number.decimalText (n - m)
  | n, m => Number.floatText (sortKey n - sortKey m)

/-- A share below this, in percent, is marked. -/
def markedBelow : Float := 45.0

def isMeasured (share : Float) : Bool :=
  decide (0.0 ≤ share)

/-- Whether a share was measured and is too low. -/
def isBelow (share : Float) : Bool :=
  isMeasured share && decide (share < markedBelow)

/-- A benchmark, its evidence and the verdict on it. -/
structure Finding where
  name : String
  evidence : Evidence
  verdict : Verdict

def Finding.row (f : Finding) : String :=
  let mark := if f.verdict.isGood then " " else "*"
  let share := Number.placesText 0 (100.0 * least f.evidence.shares)
  let time := Number.placesText 1 (median f.evidence.times)
  "  " ++ mark ++ " " ++ padRight 32 f.name ++ " " ++ padRight 16 f.verdict.name ++ " (" ++
    f.evidence.kind ++ ", repo " ++ share ++ "%) " ++ time ++ "ms"

end LineScript.Measure
