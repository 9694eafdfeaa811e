import LineScript.Proofs.Files.Path
import LineScript.Proofs.Quiet

/-!
# A file and a body of the same lines

Lines can be run as a file or as the body of a function. The loop over them is the same, but in a call
every line runs one call deeper and under another source. Only the debugger asks for either of them, so
while it is off the two runs go side by side, and the call differs in the variables alone: those that its
body has set are gone after it.
-/

namespace LineScript

open Run

/-! ## One call deeper -/

/-- The same session inside of one more call. -/
def Session.deeper (s : Session) : Session :=
  { s with callDepth := s.callDepth + 1 }

/-- The second session is the first one inside of one more call. -/
def OneCallDeeper (s₁ s₂ : Session) : Prop :=
  s₂ = s₁.deeper

theorem Session.deeper_write (s : Session) (text : String) : s.deeper.write text = (s.write text).deeper := by
  unfold Session.write
  split <;> simp_all [Session.deeper]

theorem respected_deeper : RespectedByCalls (fun _ => True) OneCallDeeper where
  names := by rintro s _ rfl; exact ⟨rfl, rfl⟩
  silent := by rintro s _ rfl; rfl
  funcs := by rintro s _ rfl; rfl
  callsOnly := fun _ _ _ _ _ _ _ => trivial
  setVars := by rintro s _ vars rfl; rfl
  setFunc := by rintro s _ name f rfl _; rfl
  write := by rintro s _ text rfl; exact s.deeper_write text
  enter := by rintro s _ f args rfl; rfl
  leave := by
    rintro s _ t _ rfl rfl
    -- Leaving a call takes one off the depth, however deep the session is.
    have hdepth : t.callDepth + 1 - 1 = t.callDepth - 1 + 1 := by omega
    simp only [OneCallDeeper, Session.deeper, Session.leave, hdepth]

theorem sharesWorld_deeper : SharesWorld OneCallDeeper where
  toPrintsAlike := respected_deeper.toPrintsAlike
  files := by rintro s _ rfl; rfl
  input := by rintro s _ rfl; rfl
  streams := by rintro s _ rfl; rfl
  setFiles := by rintro s _ files rfl; rfl
  setInput := by rintro s _ input streams rfl; rfl

/-- Without a debugger, nothing asks how deep the calls are. -/
theorem hostsMatch_deeper : HostsMatch (fun _ => False) (fun _ => True) OneCallDeeper .quiet .quiet where
  toRespectedByCalls := respected_deeper
  builtin := fun b _ args => sharesWorld_deeper.builtin b args
  before := fun _ _ _ _ => .pure ()

/-! ## Lines in a file and in a body -/

/-- The value or the fault that a run ends with, through a function. -/
def Outcome.map (g : α → β) : Outcome α → Outcome β
  | .done a => .done (g a)
  | .failed f => .failed f
  | .unfinished => .unfinished

theorem Run.bind_pure_eq (m : Run α) (g : α → β) (s : Session) :
    (m >>= fun a => pure (g a)) s = ((m s).1.map g, (m s).2) := by
  simp only [Bind.bind, Run.bind]
  rcases m s with ⟨o, t⟩
  cases o <;> rfl

section Lines

variable {s : Session} (off : s.debugger.Off)

include off

/-- Lines give the same one call deeper, and under any source. -/
theorem runLines_deeper (depth : Nat) (source₁ source₂ : String) (lines : List String) :
    let here := runLines .standard (callNamed .standard depth) source₁ lines s
    runLines .standard (callNamed .standard depth) source₂ lines s.deeper = (here.1, here.2.deeper) := by
  have hmatches : Matches (fun _ => False) OneCallDeeper
      (runLines .quiet (callNamed .quiet depth) source₂ lines)
      (runLines .quiet (callNamed .quiet depth) source₂ lines) :=
    hostsMatch_deeper.runLines depth (fun _ _ _ _ => trivial) source₂
  have hdeeper : OneCallDeeper s s.deeper := rfl
  obtain ⟨hsame, hafter⟩ := (hmatches hdeeper).same
  have hsource : runLines .quiet (callNamed .quiet depth) source₂ lines s =
      runLines .quiet (callNamed .quiet depth) source₁ lines s := by
    rw [runLines_quiet, runLines_quiet]
  have hoff : s.deeper.debugger.Off := off
  dsimp only
  rw [runLines_eq_quiet hoff, runLines_eq_quiet off, ← hsource, hsame]
  exact Prod.ext rfl hafter

/-- A body without parameters gives what its lines give, and the variables of the caller come back. -/
theorem callBody_of_lines (depth : Nat) (name source : String) (lines : List String) :
    let here := runLines .standard (callNamed .standard depth) source lines s
    callBody .standard (callNamed .standard depth) name ⟨[], lines⟩ [] s =
      (here.1.map (·.getD .none), { here.2 with vars := s.vars }) := by
  have hlines := runLines_deeper off depth source ("<func " ++ name ++ ">") lines
  dsimp only at hlines ⊢
  rw [callBody_of_length_eq name rfl]
  change ((runBody _ _ name _ s.deeper).1, (runBody _ _ name _ s.deeper).2.leave s) = _
  rw [runBody, Run.bind_pure_eq, hlines]
  simp only [Session.leave, Session.deeper, Int.add_sub_cancel]

end Lines

/-- Running a file and calling a function whose body are the lines of the file end the same way, with the
same value or the same fault, from every session with the debugger off and at every depth of calls. The
sessions after them differ in the variables alone, which are after the call what they were before it: what
was printed, the functions, the files and all else is the same. -/
theorem file_and_body_run_alike (depth : Nat) (path name : String) (lines : List String) (s : Session)
    (off : s.debugger.Off) (body : s.funcs.get? name = some ⟨[], lines⟩)
    (file : s.files.readLines path = .ok lines) :
    let run := Host.standard.runFile depth path s
    let call := Host.standard.callFunction depth name [] s
    call.1 = run.1.map (·.getD .none) ∧ call.2 = { run.2 with vars := s.vars } := by
  dsimp only
  rw [callFunction_of_some body, Host.runFile_of_readLines file,
    callBody_of_lines off depth name path lines]
  exact ⟨rfl, rfl⟩

/-- A definition, a call of it, and a branch that prints, and then fails at a header without an end. -/
def tangledLines : List String :=
  ["def f(n):", "return n + 1", "end", "stryset x (f(2))", "if (x):", "stryprint x", "if (x):", "return 1",
    "end", "return x", "end"]

/-- The lines at the path `p` and as the body of `main`, which sets a variable of the session anew. -/
def tangled : Session :=
  { Session.fresh with
    vars := [("x", .str "old")]
    funcs := [("main", ⟨[], tangledLines.map (· ++ "\n")⟩)]
    files := .withScript "p" tangledLines }

theorem tangled_lines : tangled.files.readLines "p" = .ok (tangledLines.map (· ++ "\n")) :=
  Files.FileTree.readLines_withScript (by decide) (by decide +kernel)

theorem tangled_runs_alike :
    tangled.debugger.Off ∧ tangled.funcs.get? "main" = some ⟨[], tangledLines.map (· ++ "\n")⟩ ∧
      let run := Host.standard.runFile 3 "p" tangled
      let call := Host.standard.callFunction 3 "main" [] tangled
      call.1 = run.1.map (·.getD .none) ∧ call.2 = { run.2 with vars := [("x", .str "old")] } :=
  ⟨⟨rfl, rfl, rfl⟩, rfl,
    file_and_body_run_alike 3 "p" "main" _ tangled ⟨rfl, rfl, rfl⟩ rfl tangled_lines⟩

end LineScript
