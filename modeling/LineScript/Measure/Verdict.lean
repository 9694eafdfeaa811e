import LineScript.Json.Access

/-!
# Verdicts

What the row of a benchmark says about it: whether its result can be relied upon as a check of the
sources, and if not, why.
-/

namespace LineScript.Measure

inductive Verdict where
  | ok
  | okUnparam
  | error
  | returnsNone
  | unstable
  | returnsInput
  | lowRepoTime
  | tooFast
  | paramInvariant
  | repoModified
  deriving DecidableEq, Repr

namespace Verdict

def name : Verdict → String
  | ok => "ok"
  | okUnparam => "ok-unparam"
  | error => "error"
  | returnsNone => "returns-none"
  | unstable => "unstable"
  | returnsInput => "returns-input"
  | lowRepoTime => "low-repo-time"
  | tooFast => "too-fast"
  | paramInvariant => "param-invariant"
  | repoModified => "repo-modified"

def isGood : Verdict → Bool
  | ok | okUnparam => true
  | _ => false

end Verdict

structure Evidence where
  kind : String
  stable : List String
  byParam : List String
  paramPrints : List String
  /-- The times in the sources, in milliseconds. -/
  times : List Float
  /-- The shares of the sources. -/
  shares : List Float

/-- The kind that stands for a missing one. -/
def unknownKind : String := "?"

def textsOf : Json → List String
  | .list items => items.filterMap fun
    | .str s => some s
    | _ => none
  | _ => []

def Evidence.ofRow (row : Json) : Result Evidence := do
  let times ← (← (← row.part "repo_tt_ms" (.object [])).values).mapM Json.toReal
  let shares ← (← (← row.part "repo_frac" (.object [])).values).mapM Json.toReal
  let kind ← row.part "ret_type" (.str unknownKind)
  let stable ← row.part "fp_stable" (.list [])
  let byParam ← (← row.part "fp_by_param" (.object [])).values
  let paramPrints ← row.part "param_fps" (.list [])
  return ⟨kind.plainText, textsOf stable, textsOf (.list byParam), textsOf paramPrints, times, shares⟩

/-- The least of several numbers; zero if there are none. -/
def least : List Float → Float
  | [] => 0.0
  | x :: xs => xs.foldl (fun a b => if b < a then b else a) x

/-- The middle of several numbers in order, or the mean of the two in the middle; zero if there are
none. -/
def median (xs : List Float) : Float :=
  let sorted := xs.mergeSort fun a b => decide (a ≤ b)
  let n := sorted.length
  let upper := sorted.getD (n / 2) 0.0
  if n % 2 == 1 then upper
  else if n == 0 then 0.0
  else (sorted.getD (n / 2 - 1) 0.0 + upper) / 2.0

/-- The least share of the sources that is enough. -/
def enoughShare : Float := 0.5

/-- The least time in the sources that is enough, in milliseconds. -/
def enoughTime : Float := 1.0

/-- Whether all of several texts are the same, and there is one. -/
def allAlike (ss : List String) : Bool :=
  match ss with
  | [] => false
  | s :: rest => rest.all (· == s)

/-- The verdict on the evidence, when the sources are as they should be. -/
def Evidence.judge (e : Evidence) : Verdict :=
  if e.kind == unknownKind || e.kind.startsWith "<" then .error
  else if e.kind == "NoneType" then .returnsNone
  else if !allAlike e.stable then .unstable
  else if (e.stable ++ e.byParam).any e.paramPrints.contains then .returnsInput
  else if !e.shares.isEmpty && decide (least e.shares < enoughShare) then .lowRepoTime
  else if !e.times.isEmpty && decide (median e.times < enoughTime) then .tooFast
  else if e.byParam.length < 2 then .okUnparam
  else if allAlike e.byParam then .paramInvariant
  else .ok

/-- The verdict on the evidence. Nothing counts if the sources were changed. -/
def Evidence.verdict (modified : Bool) (e : Evidence) : Verdict :=
  if modified && e.judge.isGood then .repoModified else e.judge

end LineScript.Measure
