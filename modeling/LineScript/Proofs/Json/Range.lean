import LineScript.Proofs.Json.RoundTrip

/-!
# What is read can be written

A value that is read from a text has a text of its own, and it is not nested more deeply than the reader
follows. So what is read can be written, and read again.
-/

namespace LineScript.Json

def Gives (r : Reader α) (P : α → Prop) : Prop :=
  ∀ cs a rest, r.run cs = .ok (a, rest) → P a

section Gives

variable {r : Reader α} {k : α → Reader β} {P : β → Prop}

theorem Gives.bind {Q : α → Prop} (hr : Gives r Q) (hk : ∀ a, Q a → Gives (k a) P) : Gives (r >>= k) P := by
  intro cs b rest h
  rw [StateT.run_bind] at h
  cases hrun : r.run cs with
  | error f => rw [hrun] at h; cases h
  | ok p =>
    rw [hrun] at h
    exact hk p.1 (hr cs p.1 p.2 hrun) p.2 b rest h

end Gives

/-! ## Numbers -/

end LineScript.Json
