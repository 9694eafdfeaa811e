import LineScript.Proofs.Files.Path
import LineScript.Proofs.Loop
import LineScript.Proofs.Number
import LineScript.Proofs.Onward
import Mathlib

/-!
# Breakpoints in a file

A breakpoint names a file and the number of a line in it. The loop over the file asks for a breakpoint under
exactly this name and number. The loop over the block of a branch does not: it counts the lines of the block
from one, and the name of the file is lost. So a breakpoint in a file is honoured outside of branches, and it
never is inside of one, where a pause for another reason reports another position.
-/

namespace LineScript

open Run

/-! ## The lines that a file executes -/

def filePlace (path : String) (lines : List String) (i : Nat) : Place :=
  ⟨some lines, some i, path⟩

/-- The place of a line in the block of a branch. -/
def blockPlace (block : List String) (i : Nat) : Place :=
  ⟨some block, some i, unnamedSource⟩

/-- Execute a line in the block of a branch. -/
def execInBlock (call : Caller) (block : List String) (i : Nat) (line : String) : Run LineResult :=
  execLineWith .standard call (fun _ => Run.fail .missingEnd) (blockPlace block i) line

/-- The run of a file comes to the line at index `i` in session `t`. The line is neither blank nor a
comment. -/
structure ComesTo (call : Caller) (path : String) (lines : List String) (s : Session) (i : Nat)
    (line : String) (t : Session) : Prop where
  arrives : Arrives (fun j => execLine .standard call (filePlace path lines j)) lines 0 s i t
  line_eq : lines[i]? = some line
  full : isVoid (Text.strip line) = false

/-- The run of a file takes the branch at index `i` and begins with its block in session `u`. -/
inductive TakesBranch (call : Caller) (path : String) (lines : List String) (s : Session) :
    Nat → List String → Session → Prop where
  | intro {i : Nat} {header condition : String} {t u : Session} {c : Value} {block : List String}
      {stop : Int} (hcomes : ComesTo call path lines s i header t)
      (hheader : Statement.ofLine? (Text.strip header) = some (.branch condition))
      (hcondition : (pauseIfAsked call (filePlace path lines i) header >>= fun _ =>
        evalText call condition) t = (.done c, u))
      (htaken : c.truthy = true) (hblock : (filePlace path lines i).block = .ok (block, stop)) :
      TakesBranch call path lines s i block u

/-- The run of a file executes the line with number `n` of the file, as a line at the place `p` and in
session `t`. The first index says whether the line stands inside of a branch. -/
inductive OwnLine (call : Caller) (path : String) (lines : List String) (s : Session) :
    Bool → Nat → Place → String → Session → Prop where
  | outside {i : Nat} {line : String} {t : Session} (h : ComesTo call path lines s i line t) :
      OwnLine call path lines s false (i + 1) (filePlace path lines i) line t
  | inside {i j : Nat} {block : List String} {line : String} {t u : Session}
      (hbranch : TakesBranch call path lines s i block u)
      (harrives : Arrives (execInBlock call block) block 0 u j t) (hline : block[j]? = some line)
      (hfull : isVoid (Text.strip line) = false) :
      OwnLine call path lines s true (i + 1 + j + 1) (blockPlace block j) line t

/-- What happens before the line at a place is a pause that reports the line `n` of a source. -/
def Reports (call : Caller) (p : Place) (line : String) (t : Session) (source : String) (n : Int) :
    Prop :=
  pauseIfAsked call p line t = (pauseAt call source n line >>= fun action =>
    Run.modify fun u => { u with debugger := u.debugger.act u.callDepth action }) t

/-! ## What was printed on the way -/

section Onward

variable {call : Caller} {path source line : String} {lines block : List String} {p : Place}
  {run : List String → Run (Option Value)} {s t u : Session} {i j : Nat} {n : Int}

/-- The second of two runs continues what the first one has left. -/
theorem Run.Continues.bind_right {m : Run α} {k : α → Run β} (hk : ∀ a, Continues (k a)) (s : Session) :
    (m s).2.ContinuedBy ((m >>= k) s).2 := by
  simp only [Bind.bind, Run.bind]
  rcases m s with ⟨o, t⟩
  cases o with
  | done a => exact hk a t
  | failed f => exact .refl t
  | unfinished => exact .refl t

theorem execLine_continues (hcall : ∀ name args, Continues (call name args)) (p : Place) (line : String) :
    Continues (execLine .standard call p line) :=
  (linesCongruence_continues hcall).execLine trivial fun _ _ _ _ _ => trivial

theorem execInBlock_continues (hcall : ∀ name args, Continues (call name args)) (block : List String)
    (i : Nat) (line : String) : Continues (execInBlock call block i line) :=
  @LinesCongruence.execLineWith _ call call _ (fun _ => Run.fail .missingEnd) _ _ _ _
    (linesCongruence_continues hcall) line trivial (fun _ _ _ _ _ => trivial) fun _ _ => .fail _

theorem follow_continues {go : Nat → Run (Option Value)} (hgo : ∀ skip, Continues (go skip)) (i : Nat)
    (r : LineResult) : Continues (LineResult.follow go i r) := by
  cases r with
  | next => exact hgo 0
  | jump stop => exact hgo _
  | returned v => exact .pure _

/-- A line that the loop comes to is executed, and the rest of the run continues what it has left. -/
theorem Arrives.continuedBy_run {exec : Nat → String → Run LineResult}
    (hexec : ∀ i line, Continues (exec i line))
    (hforward : ∀ i line s stop t, exec i line s = (.done (.jump stop), t) → (i : Int) < stop)
    (h : Arrives exec lines 0 s i t) (hline : lines[i]? = some line) :
    (exec i line t).2.ContinuedBy (runFrom exec 0 0 lines s).2 := by
  have hloop : ∀ skip, Continues (runFrom exec skip (i + 1) (lines.drop (i + 1))) := fun skip =>
    @runFrom_congr _ debugging_continues.congruence exec exec _ (fun i line _ => hexec i line) skip (i + 1)
  have hrun := h.runFrom_eq hforward
  rw [drop_eq_cons hline, runFrom_cons] at hrun
  change _ = _ at hrun
  rw [show runFrom exec 0 0 lines s = _ from hrun]
  exact Continues.bind_right (follow_continues hloop i) t

/-- Whatever is executed before, the loop goes on. -/
theorem Arrives.continuedBy {exec : Nat → String → Run LineResult}
    (hexec : ∀ i line, Continues (exec i line)) (h : Arrives exec lines i s j t) : s.ContinuedBy t :=
  h.preserves s.ContinuedBy (fun i line _ _ hs => hs.trans (hexec i line _)) (.refl s)

theorem pause_continuedBy_execLineWith (hcall : ∀ name args, Continues (call name args))
    (hrun : ∀ block, Continues (run block)) (hfull : isVoid (Text.strip line) = false) (p : Place)
    (t : Session) :
    (pauseIfAsked call p line t).2.ContinuedBy (execLineWith .standard call run p line t).2 := by
  simp only [execLineWith, hfull, Bool.false_eq_true, if_false]
  refine Continues.bind_right (fun _ => ?_) t
  have hlines := linesCongruence_continues hcall
  cases hst : Statement.ofLine? (Text.strip line) with
  | none => exact .pure _
  | some st =>
    refine @Statement.exec_congr _ call call run run p hlines.toLineCongruence st (fun text htext => ?_)
      (fun _ _ _ _ _ => .modify fun _ => rfl) fun block _ _ => hrun block
    exact hlines.text trivial text (lineTexts_of_statement hst ▸ htext)

def endOfBranch (stop : Int) : Option Value → Run LineResult
  | some v => pure (.returned v)
  | none => pure (.jump stop)

/-- A branch that is taken runs its block once it has paused and its condition is known. -/
theorem execLine_of_taken {condition : String} {c : Value} {stop : Int}
    (hfull : isVoid (Text.strip line) = false)
    (hheader : Statement.ofLine? (Text.strip line) = some (.branch condition))
    (hcondition : (pauseIfAsked call p line >>= fun _ => evalText call condition) t = (.done c, u))
    (htaken : c.truthy = true) (hblock : p.block = .ok (block, stop)) :
    execLine .standard call p line t = (runBlock .standard call block >>= endOfBranch stop) u := by
  simp only [execLine, execLineWith, hfull, Bool.false_eq_true, if_false, hheader, Statement.exec, hblock]
  rw [← Run.bind_assoc]
  refine (Run.bind_of_done hcondition).trans ?_
  simp only [Run.ofResult, htaken, if_true]
  rfl

theorem endOfBranch_continues (stop : Int) (given : Option Value) :
    Continues (endOfBranch stop given) := by
  cases given with
  | some v => exact .pure _
  | none => exact .pure _

/-- The block of a branch that is taken is run by the header of the branch. -/
theorem TakesBranch.continuedBy_header (hcall : ∀ name args, Continues (call name args))
    (h : TakesBranch call path lines s i block u) :
    ∃ header t, ComesTo call path lines s i header t ∧ t.ContinuedBy u ∧
      (runBlock .standard call block u).2.ContinuedBy
        (execLine .standard call (filePlace path lines i) header t).2 := by
  cases h with
  | @intro header condition t _ c _ stop hcomes hheader hcondition htaken hblock =>
    have htext : ∀ text, Continues (evalText call text) := evalText_continues hcall
    refine ⟨header, t, hcomes, ?_, ?_⟩
    · have hbegin := (pauseIfAsked_continues htext (filePlace path lines i) header).bind
        (fun _ => htext condition) t
      rwa [hcondition] at hbegin
    · rw [execLine_of_taken hcomes.full hheader hcondition htaken hblock]
      exact Continues.bind_right (endOfBranch_continues stop) u

end Onward

/-! ## Reports -/

section Reports

variable {call : Caller} {source line : String} {p : Place} {t : Session} {n : Int}

theorem takeWhile_number (n : Int) (rest : List Char) :
    ((Number.decimalText n).toList.reverse ++ ':' :: rest).takeWhile (· != ':') =
      (Number.decimalText n).toList.reverse := by
  have hcolon : ':' ∉ (Number.decimalText n).toList.reverse := fun hmem =>
    Number.not_mem_decimalText (by decide) (by decide) n (List.mem_reverse.mp hmem)
  rw [List.takeWhile_append_of_pos fun c hc => by simpa using ne_of_mem_of_not_mem hc hcolon]
  simp

/-- The number of a line is read off the text that announces a pause there. -/
theorem eq_of_pauseText_eq {source' : String} {n' : Int}
    (h : pauseText source n line = pauseText source' n' line) : n = n' := by
  unfold pauseText at h
  rw [String.append_left_inj, String.append_left_inj, String.append_left_inj] at h
  -- From behind, the number is what stands before the first colon.
  have hreverse := congrArg (fun text => text.toList.reverse) h
  simp only [String.toList_append, List.reverse_append, List.append_assoc] at hreverse
  have hdigits := congrArg (List.takeWhile (· != ':')) hreverse
  rw [show ":".toList.reverse = [':'] from rfl] at hdigits
  simp only [List.singleton_append] at hdigits
  rw [takeWhile_number, takeWhile_number] at hdigits
  exact Number.decimalText_injective (List.reverse_injective hdigits)

theorem Session.output_write (h : t.silent = false) (text : String) :
    (t.write text).output = .text text :: t.output := by
  simp [Session.write, h]

/-- The announcement of a pause is printed first, and stays printed. -/
theorem Reports.continuedBy (hcall : ∀ name args, Continues (call name args))
    (h : Reports call p line t source n) :
    (t.write (pauseText source n line)).ContinuedBy (pauseIfAsked call p line t).2 := by
  have htext := evalText_continues hcall
  unfold Reports at h
  rw [h, Run.bind_congr_at (pauseAt_eq call source n line t)]
  refine Continues.bind (.bind ?_ fun _ => ?_) act_continues _
  · exact debugging_continues.listWatches htext _
  · exact .bind .get fun _ => debugging_continues.dialogue _

theorem reports_of_pausesAt (h : t.debugger.pausesAt p.source p.lineNumber = true) :
    Reports call p line t p.source p.lineNumber :=
  pauseIfAsked_of_pausesAt h call line

/-- A pause reports no line number but the one that the debugger was asked for. -/
theorem Reports.lineNumber_eq (hcall : ∀ name args, Continues (call name args))
    (hprints : t.silent = false) (h : Reports call p line t source n) : n = p.lineNumber := by
  have houtput := (h.continuedBy hcall).output
  rw [Session.output_write hprints] at houtput
  cases hpauses : t.debugger.pausesAt p.source p.lineNumber with
  | false =>
    -- Without a pause nothing is printed.
    rw [pauseIfAsked_of_not_pausesAt hpauses] at houtput
    have hlength := houtput.length_le
    simp at hlength
  | true =>
    -- Two announcements would be printed at the same point.
    have hasked : Reports call p line t p.source p.lineNumber := reports_of_pausesAt hpauses
    have houtput' := (hasked.continuedBy hcall).output
    rw [Session.output_write hprints] at houtput'
    obtain ⟨front, hfront⟩ := houtput
    obtain ⟨front', hfront'⟩ := houtput'
    have htexts := List.append_inj_right' (hfront.trans hfront'.symm) (by simp)
    simp only [List.cons.injEq, Output.text.injEq, and_true] at htexts
    exact eq_of_pauseText_eq htexts

end Reports

/-! ## Breakpoints -/

section Breakpoints

variable {path line : String} {lines block : List String} {s t u : Session} {i n : Nat} {p : Place}
  {inside : Bool} {depth : Nat}

theorem getElem?_of_block {source : String} {stop : Int} {j : Nat}
    (h : Place.block ⟨some lines, some (i : Int), source⟩ = .ok (block, stop))
    (hline : block[j]? = some line) : lines[i + 1 + j]? = some line := by
  cases hsplit : splitBlock (lines.drop (i + 1)) with
  | none =>
    rw [Place.block_of_splitBlock_none hsplit] at h
    cases h
  | some b =>
    rw [Place.block_of_splitBlock hsplit] at h
    cases h
    obtain ⟨_, back, hlines, -, -⟩ := append_of_splitBlock hsplit
    have hj : j < b.1.length := (List.getElem?_eq_some_iff.mp hline).1
    rw [← List.getElem?_drop, hlines, List.getElem?_append_left hj, hline]

/-- A line that the run executes as its own is the line of the file with that number. -/
theorem OwnLine.line_eq {call : Caller} (h : OwnLine call path lines s inside n p line t) :
    lines[n - 1]? = some line := by
  cases h with
  | outside h => exact h.line_eq
  | inside hbranch harrives hline hfull =>
    cases hbranch with
    | intro hcomes hheader hcondition htaken hblock => exact getElem?_of_block hblock hline

theorem runLines_eq_runFrom (host : Host) (call : Caller) (path : String) (lines : List String) :
    runLines host call path lines =
      runFrom (fun j => execLine host call (filePlace path lines j)) 0 0 lines :=
  rfl

/-- A line that the run of a file comes to is executed as a part of the run. -/
theorem ComesTo.continuedBy_run {call : Caller} (hcall : ∀ name args, Continues (call name args))
    (h : ComesTo call path lines s i line t) :
    (execLine .standard call (filePlace path lines i) line t).2.ContinuedBy
      (runLines .standard call path lines s).2 := by
  have hexec := fun j => execLine_continues hcall (filePlace path lines j)
  have hforward : ∀ j l u stop v, execLine .standard call (filePlace path lines j) l u =
      (.done (.jump stop), v) → (j : Int) < stop := by
    intro j l u stop v hjump
    exact lt_of_execLineWith_jump hjump
  have hrun := h.arrives.continuedBy_run hexec hforward h.line_eq
  rwa [← runLines_eq_runFrom] at hrun

/-- A line that the run of a block comes to is executed as a part of that run. -/
theorem continuedBy_runBlock {call : Caller} (hcall : ∀ name args, Continues (call name args))
    (h : Arrives (execInBlock call block) block 0 u i t) (hline : block[i]? = some line) :
    (execInBlock call block i line t).2.ContinuedBy (runBlock .standard call block u).2 := by
  refine h.continuedBy_run (execInBlock_continues hcall block) (fun j l v stop w hjump => ?_) hline
  exact lt_of_execLineWith_jump hjump

/-- The run continues the session in which one of its own lines is executed, and that session continues the
one at the start. What happens before the line is part of the run. -/
theorem OwnLine.continuedBy (h : OwnLine (callNamed .standard depth) path lines s inside n p line t) :
    s.ContinuedBy t ∧ (pauseIfAsked (callNamed .standard depth) p line t).2.ContinuedBy
      (runLines .standard (callNamed .standard depth) path lines s).2 := by
  have hcall := callNamed_continues depth
  have hblocks : ∀ block, Continues (runBlock .standard (callNamed .standard depth) block) := fun block =>
    (linesCongruence_continues hcall).runBlock block fun _ _ => trivial
  have hexec := fun j => execLine_continues hcall (filePlace path lines j)
  cases h with
  | @outside i _ _ h =>
    refine ⟨h.arrives.continuedBy hexec, ?_⟩
    have hpause := pause_continuedBy_execLineWith hcall hblocks h.full (filePlace path lines i) t
    exact hpause.trans (h.continuedBy_run hcall)
  | @inside i j block _ _ u hbranch harrives hline hfull =>
    obtain ⟨header, v, hcomes, hbegin, hrest⟩ := hbranch.continuedBy_header hcall
    have hinside := harrives.continuedBy (execInBlock_continues hcall block)
    refine ⟨(hcomes.arrives.continuedBy hexec).trans (hbegin.trans hinside), ?_⟩
    have hpause := pause_continuedBy_execLineWith hcall (fun _ => .fail .missingEnd) hfull
      (blockPlace block j) t
    -- The line is a part of its block, the block of its header, and the header of the file.
    have hblock := hpause.trans (continuedBy_runBlock hcall harrives hline)
    exact hblock.trans (hrest.trans (hcomes.continuedBy_run hcall))

end Breakpoints

/-- A script runs with a breakpoint at its line `n`. Whenever the run executes this line as its own, it
first pauses and reports the line's position in the file exactly if the line stands outside of branches,
and then the report is what is printed next. -/
theorem breakpoint_honoured_iff_outside (depth : Nat) (path : String) (s : Session)
    (hprints : s.silent = false) (lines : List String) (hlines : s.files.readLines path = .ok lines)
    (n : Nat) (hbreak : (path, (n : Int)) ∈ s.debugger.places) (inside : Bool) (p : Place) (line : String)
    (t : Session) (h : OwnLine (callNamed .standard depth) path lines s inside n p line t) :
    lines[n - 1]? = some line ∧
    (Reports (callNamed .standard depth) p line t path n ↔ inside = false) ∧
    (inside = false → .text (pauseText path n line) :: t.output <:+
      (Host.standard.runFile depth path s).2.output) := by
  have hcall := callNamed_continues depth
  obtain ⟨hbefore, hafter⟩ := h.continuedBy
  have hsilent : t.silent = false := hbefore.silent.trans hprints
  have houtside : inside = false → Reports (callNamed .standard depth) p line t path n := by
    rintro rfl
    cases h with
    | @outside i _ _ h =>
      refine reports_of_pausesAt (p := filePlace path lines i) ?_
      have hplace : (path, (i : Int) + 1) ∈ t.debugger.places := by simpa using hbefore.places hbreak
      simp [Debugger.pausesAt, Debugger.hasBreakpoint, filePlace, Place.lineNumber, hplace]
  refine ⟨h.line_eq, ⟨fun hreports => ?_, houtside⟩, fun houter => ?_⟩
  · have hnumber := hreports.lineNumber_eq hcall hsilent
    cases h with
    | outside h => rfl
    | inside hbranch harrives hline hfull =>
      simp only [blockPlace, Place.lineNumber] at hnumber
      omega
  · have hprinted := ((houtside houter).continuedBy hcall).trans hafter
    rw [Host.runFile_of_readLines hlines, ← Session.output_write hsilent]
    exact hprinted.output

/-- A branch that is taken, with a breakpoint at one of its lines. -/
def guarded (n : Int) : Session :=
  { Session.fresh with
    debugger := { Debugger.idle with places := [("p", n)] }
    files := .withScript "p" ["if (1):", "stryprint 1", "end"] }

theorem guarded_lines (n : Int) :
    (guarded n).files.readLines "p" = .ok ["if (1):\n", "stryprint 1\n", "end\n"] :=
  Files.FileTree.readLines_withScript (by decide) (by decide +kernel)

theorem guarded_header_honoured :
    .text (pauseText "p" 1 "if (1):\n") :: (guarded 1).output <:+
      (Host.standard.runFile 1 "p" (guarded 1)).2.output :=
  (breakpoint_honoured_iff_outside 1 "p" (guarded 1) rfl _ (guarded_lines 1) 1 (by decide) false _ _
    (guarded 1) (.outside ⟨.here 0 (guarded 1), rfl, by decide +kernel⟩)).2.2 rfl

/-- The line in the branch is executed without a pause. -/
theorem guarded_line_not_honoured :
    ("p", ((2 : Nat) : Int)) ∈ (guarded 2).debugger.places ∧
    ∃ p, OwnLine (callNamed .standard 1) "p" ["if (1):\n", "stryprint 1\n", "end\n"] (guarded 2) true 2 p
        "stryprint 1\n" (guarded 2) ∧
      pauseIfAsked (callNamed .standard 1) p "stryprint 1\n" (guarded 2) = (.done (), guarded 2) := by
  refine ⟨by decide, blockPlace ["stryprint 1\n"] 0, ?_,
    pauseIfAsked_of_not_pausesAt (by decide +kernel) _ _⟩
  have hcondition : ((pauseIfAsked (callNamed .standard 1) (filePlace "p" ["if (1):\n", "stryprint 1\n",
      "end\n"] 0) "if (1):\n" >>= fun _ => evalText (callNamed .standard 1) "1") (guarded 2)) =
      (.done (.int 1), guarded 2) := by
    refine (Run.bind_of_done (pauseIfAsked_of_not_pausesAt (by decide +kernel) _ _)).trans ?_
    have hparse : Expr.parse? (Text.strip "1") = some (.const (.int 1)) := by cbv
    rw [evalText_of_parse_some (by decide +kernel) hparse]
    rfl
  have hheader : Statement.ofLine? (Text.strip "if (1):\n") = some (.branch "1") := by cbv
  have hsplit : splitBlock (["if (1):\n", "stryprint 1\n", "end\n"].drop 1) =
      some (["stryprint 1\n"], 1) := by
    decide +kernel
  have hbranch : TakesBranch (callNamed .standard 1) "p" ["if (1):\n", "stryprint 1\n", "end\n"]
      (guarded 2) 0 ["stryprint 1\n"] (guarded 2) :=
    .intro ⟨.here 0 (guarded 2), rfl, by decide +kernel⟩ hheader hcondition rfl
      (Place.block_of_splitBlock (i := 0) hsplit "p")
  exact .inside hbranch (.here 0 (guarded 2)) rfl (by decide +kernel)

end LineScript
