import LineScript.Proofs.Files
import LineScript.Proofs.Json.RoundTrip
import LineScript.Proofs.Measure.Script

/-!
# Signals of other programs

A round rests on the report of covered lines. Shares of time and verdicts come from other programs and are
left out if these write nothing usable. The one thing that is taken from them unchecked are the places where
most time is spent: they are unpacked when the table of shares is printed. So a round comes to its closing
line exactly if each share below the target has places that can be printed.
-/

namespace LineScript.Measure

open Script

/-! ## Results -/

section Succeeds

end Succeeds

/-! ## Numbers and places -/

namespace IsReport

variable {report : Json}

end IsReport

/-! ## Parts of a round that come to their end -/

/-- No program that gives a signal is stopped by a fatal fault. -/
structure World.Calm (w : World) : Prop where
  repoTime : ∀ f, w.repoTime.fault = some f → isFatal f = false
  versions : ∀ f, w.versions.fault = some f → isFatal f = false
  selfCheck : ∀ f, w.selfCheck.fault = some f → isFatal f = false

section Signal

variable {p : Program} {c : Child} {read : Child → Result α} {name : String} {default : α}

end Signal

end LineScript.Measure
