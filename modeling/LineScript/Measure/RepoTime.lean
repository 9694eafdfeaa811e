import LineScript.Measure.SelfCheck

/-!
# Shares of time

For every benchmark the share of its time that is spent in the sources, in percent, and the two places
outside them where it spends most.
-/

namespace LineScript.Measure

def failedShare : Float := -1.0

def Profile.percent (p : Profile) (time : Float) : Float :=
  Number.roundPlaces 1 (100.0 * time / p.whole)

/-- What a file outside the sources is called. -/
def outsideName (suiteFile file : String) : String :=
  let name := Files.baseName file
  if file == builtinFile then "builtins"
  else if name == Files.baseName suiteFile then "<run() body>"
  else if name.endsWith ".py" then String.ofList (name.toList.take (name.length - 3))
  else name

/-- Whether an entry counts for the sources. The file of the suite does not. -/
def countsForSources (suiteFile : String) (e : ProfileEntry) : Bool :=
  e.isSource repository && Files.baseName e.file != Files.baseName suiteFile

/-- The times of the places outside the sources. -/
def Profile.outside (suiteFile : String) (p : Profile) : Table Float :=
  (p.entries.filter (!countsForSources suiteFile ·)).foldl
    (fun t e =>
      let name := outsideName suiteFile e.file
      t.set name ((t.get? name).getD 0.0 + e.time)) []

def hotCount : Nat := 2

/-- The places outside the sources that take most, the later name first if two take the same. -/
def Profile.hottest (suiteFile : String) (p : Profile) : List (Float × String) :=
  let places := (p.outside suiteFile).map fun (name, t) => (t, name)
  let sorted := places.mergeSort fun a b => decide (b.1 < a.1) || (a.1 == b.1 && decide (b.2 ≤ a.2))
  (sorted.take hotCount).map fun (t, name) => (p.percent t, name)

structure Share where
  percent : Float
  hottest : List (Float × String)

def Profile.share (suiteFile : String) (p : Profile) : Share :=
  ⟨p.percent (timeOf (p.entries.filter (countsForSources suiteFile))), p.hottest suiteFile⟩

/-- The share of a benchmark that was cut short. -/
def Share.failed (i : Interruption) : Share :=
  ⟨failedShare, [(0.0, i.kindName)]⟩

/-- Measure benchmarks one after the other, and report their faults. Only a run that ends takes a
profile. -/
def shareAll (suiteFile : String) :
    List Profile → List (String × BenchFunction) → Script (List (String × Share))
  | _, [] => pure []
  | profiles, (name, f) :: rest => do
    match (f.run noLoading []).1 with
    | .ok _ =>
      let (p, profiles) := nextProfile profiles
      return (name, p.share suiteFile) :: (← shareAll suiteFile profiles rest)
    | .error i =>
      if let .fault fault := i then
        if isFatal fault then Script.fail fault
        Script.report fault
      return (name, .failed i) :: (← shareAll suiteFile profiles rest)

/-- Measure all benchmarks of a suite and print their shares. -/
def repoTime (suite : Suite) (profiles : List Profile) : Script Unit := do
  requireSuite suite
  let shares ← shareAll suite.file profiles suite.functions
  let percents := shares.map fun (name, s) => (name, Json.float s.percent)
  let hottest := shares.map fun (name, s) =>
    (name, Json.list (s.hottest.map fun (x, place) => .list [.float x, .str place]))
  Script.print (Json.text (.object [("repo_time_pct", .object percents), ("hot_ext", .object hottest)]))

end LineScript.Measure
