import LineScript.Proofs.Straight
import LineScript.Proofs.Text.Line
import LineScript.Proofs.Transparency

/-!
# A branch is its block or nothing

While the debugger is off, a branch whose block holds no header runs as the lines of its block do in its
place if its condition counts as true, and as no lines at all if it does not. The block is run by a loop of
its own, over lines that are counted anew. Looking ahead shows that this loop and the one around it fit
together: what the block gives back ends both of them, and without such a value the lines behind the `end`
are next. The lines in front of the branch take no notice of the exchange, if the run gets through them: the
blocks that it has met on its way have ended there.
-/

namespace LineScript

open Run

/-! ## Headers as they are written -/

def branchHeader (condition : String) : String :=
  "if (" ++ condition ++ "):"

section Headers

open Text Statement

theorem toList_branchHeader (condition : String) :
    (branchHeader condition).toList = "if".toList ++ ' ' :: '(' :: (condition.toList ++ [')'] ++ [':']) := by
  simp [branchHeader]

/-- Blanks behind a header are not part of it. -/
theorem strip_branchHeader_append (condition : String) {ending : String}
    (hblank : ∀ c ∈ ending.toList, isBlank c = true) :
    strip (branchHeader condition ++ ending) = branchHeader condition := by
  have hchars : (branchHeader condition).toList = "if (".toList ++ ((condition.toList ++ [')']) ++ [':']) := by
    simp [branchHeader]
  have htrimmed : Trimmed (branchHeader condition).toList := by
    rw [hchars]
    exact trimmed_between (by decide) (by decide) _
  rw [strip, String.toList_append, trim_append_blank _ hblank, htrimmed.trim, String.ofList_toList]

/-- A header is read as a branch, whose condition is the written one up to the blanks at its ends. -/
theorem exists_ofLine?_branchHeader {condition : String} (hne : condition ≠ "")
    (hline : '\n' ∉ condition.toList) :
    ∃ inner, Statement.ofLine? (branchHeader condition) = some (.branch inner) ∧
      strip inner = strip condition := by
  have hchars : condition.toList ≠ [] := by simpa using hne
  obtain ⟨inner, henclosed, htrim⟩ := exists_enclosed? hchars hline
  have hopen : trimStart (' ' :: '(' :: (condition.toList ++ [')'] ++ [':'])) =
      '(' :: (condition.toList ++ [')'] ++ [':']) := by
    simp [trimStart, isBlank]
  have hclose : trimEnd (condition.toList ++ [')']) = condition.toList ++ [')'] :=
    trimEnd_of_last (by simp [isBlank])
  have hbranch : branch? (branchHeader condition).toList = some (.branch (String.ofList inner)) := by
    rw [toList_branchHeader]
    simp only [branch?, after?_append, hopen, afterOpen?, beforeLast?_append, hclose, henclosed,
      Option.bind_eq_bind, Option.bind_some]
    rfl
  refine ⟨String.ofList inner, ?_, ?_⟩
  · -- The other forms begin with other words.
    simp only [Statement.ofLine?, hbranch]
    rw [toList_branchHeader]
    rfl
  · simp only [strip, String.toList_ofList, htrim]

theorem closesBlock_end_append {ending : String} (hblank : ∀ c ∈ ending.toList, isBlank c = true) :
    closesBlock ("end" ++ ending) = true := by
  rw [closesBlock, strip, String.toList_append, trim_append_blank _ hblank]
  decide

end Headers

/-- Blanks at the ends of a text do not change its value. -/
theorem evalText_of_strip_eq {text text' : String} (h : Text.strip text = Text.strip text')
    (call : Caller) : evalText call text = evalText call text' := by
  simp only [evalText, h]

/-! ## Lines without headers, and what follows them -/

/-- Run `m`, and go on with `k` unless `m` has given a value back. -/
def Run.unlessGiven (m k : Run (Option Value)) : Run (Option Value) := do
  match ← m with
  | some v => return some v
  | none => k

section Ahead

variable {call : Caller} {run : List String → Run (Option Value)}

/-- What follows the lines behind a statement can be told apart from them: a statement that goes on goes on
with both, and one that does not goes on with neither. -/
theorem Statement.execStraight_unlessGiven (st : Statement) (go k : Run (Option Value)) :
    (st.execStraight call go).unlessGiven k = st.execStraight call (go.unlessGiven k) := by
  cases st with
  | assign name expr => simp only [Statement.execStraight, unlessGiven, Run.bind_assoc]
  | print expr => simp only [Statement.execStraight, unlessGiven, Run.bind_assoc]
  | giveBack expr =>
    simp only [Statement.execStraight, unlessGiven, Run.bind_assoc]
    rfl
  | define name params => simp only [Statement.execStraight, unlessGiven, Statement.refuse_bind]
  | branch condition => simp only [Statement.execStraight, unlessGiven, Statement.refuse_bind]

/-- Lines without blocks run one after the other. -/
theorem runStraight_append (call : Caller) (front back : List String) :
    runStraight call (front ++ back) = (runStraight call front).unlessGiven (runStraight call back) := by
  induction front with
  | nil => rfl
  | cons line front ih =>
    rw [List.cons_append]
    cases hst : Statement.ofLine? (Text.strip line) with
    | none => rw [runStraight_of_none hst, runStraight_of_none hst, ih]
    | some st =>
      rw [runStraight_of_statement hst, runStraight_of_statement hst, ih, st.execStraight_unlessGiven]

theorem Statement.execAhead_of_takesBlock_eq_false {st : Statement} (hst : st.takesBlock = false)
    (rest : List String) (go : Nat → Run (Option Value)) :
    st.execAhead call run rest go = st.execStraight call (go 0) := by
  cases st with
  | define name params => cases hst
  | branch condition => cases hst
  | _ => rfl

/-- Lines without headers run straight on, and then what follows them. -/
theorem runAhead_append {front : List String} (hfront : ∀ line ∈ front, opensBlock line = false)
    (back : List String) :
    runAhead call run 0 (front ++ back) =
      (runStraight call front).unlessGiven (runAhead call run 0 back) := by
  induction front with
  | nil => rfl
  | cons line front ih =>
    obtain ⟨hline, hfront⟩ := List.forall_mem_cons.mp hfront
    rw [List.cons_append]
    cases hst : Statement.ofLine? (Text.strip line) with
    | none =>
      rw [runAhead_of_none hst, runStraight_of_none hst]
      exact ih hfront
    | some st =>
      have hplain : st.takesBlock = false := by simpa [opensBlock, hst] using hline
      rw [runAhead_of_statement hst, runStraight_of_statement hst,
        Statement.execAhead_of_takesBlock_eq_false hplain, st.execStraight_unlessGiven, ih hfront]

/-- A branch runs its block if its condition counts as true, and the lines behind its `end` are next. -/
theorem runAhead_branch {header stop condition : String} {block : List String}
    (hheader : Statement.ofLine? (Text.strip header) = some (.branch condition)) (hblock : Endless block)
    (hstop : closesBlock stop = true) (back : List String) :
    runAhead call run 0 (header :: (block ++ stop :: back)) =
      evalText call condition >>= fun c =>
        if c.truthy then (run block).unlessGiven (runAhead call run 0 back)
        else runAhead call run 0 back := by
  rw [runAhead_of_statement hheader]
  simp only [Statement.execAhead, splitBlock_append hblock hstop]
  -- The lines of the block and its `end` are left out.
  have hskip : runAhead call run (block.length + 1) (block ++ stop :: back) = runAhead call run 0 back := by
    rw [runAhead_skip, drop_append_cons]
  rw [hskip]
  rfl

end Ahead

/-! ## The loop from an index on -/

/-- The loop over the lines of a source, from an index on. -/
def runLinesFrom (depth : Nat) (source : String) (lines : List String) (i : Nat) : Run (Option Value) :=
  runFrom (fun j => execLine .standard (callNamed .standard depth) ⟨some lines, some j, source⟩) 0 i
    (lines.drop i)

/-- While the debugger is off, the loop looks ahead only. -/
theorem runLinesFrom_eq_runAhead {s : Session} (off : s.debugger.Off) (depth : Nat) (source : String)
    (lines : List String) (i : Nat) :
    runLinesFrom depth source lines i s =
      runAhead (callNamed .quiet depth) (runBlock .quiet (callNamed .quiet depth)) 0 (lines.drop i) s := by
  have hloop : Matches (fun _ => False) (Shared (·.debugger.Off)) (runLinesFrom depth source lines i)
      (runFrom (fun j => execLine .quiet (callNamed .quiet depth) ⟨some lines, some j, source⟩) 0 i
        (lines.drop i)) := by
    apply runFrom_congr (congruence_matches _ _)
    intro j line _
    exact (hostsMatch_quiet.linesCongruence depth).execLine (fun _ _ => trivial)
      fun _ _ _ _ _ _ _ => trivial
  rw [(hloop.eq_of_shared off).1]
  exact congrFun (@runFrom_eq_runAhead lines _ i (callNamed .quiet depth)
    (runBlock .quiet (callNamed .quiet depth)) rfl source 0) s

/-- From the header of a branch on, the loop runs as over the lines of its block, or as over none. -/
theorem runLinesFrom_branch {s : Session} (off : s.debugger.Off) (depth : Nat) (source : String)
    (pre post : List String) {body : List String} {header stop condition : String} {v : Value}
    (hheader : Statement.ofLine? (Text.strip header) = some (.branch condition))
    (hends : Endless body) (hflat : ∀ line ∈ body, opensBlock line = false)
    (hstop : closesBlock stop = true)
    (hvalue : evalText (callNamed .quiet depth) condition s = (.done v, s)) :
    runLinesFrom depth source (pre ++ header :: (body ++ stop :: post)) pre.length s =
      runLinesFrom depth source (pre ++ if v.truthy then body ++ post else post) pre.length s := by
  rw [runLinesFrom_eq_runAhead off, runLinesFrom_eq_runAhead off, List.drop_left, List.drop_left,
    runAhead_branch hheader hends hstop, Run.bind_of_done hvalue]
  cases v.truthy with
  | false => rfl
  | true =>
    simp only [if_true]
    rw [runAhead_append hflat, runBlock_quiet, hends.runAhead_eq]

/-! ## The lines in front -/

section Front

variable {front back block : List String} {source line : String} {i j n : Nat} {stop : Int}
  {call : Caller} {run : List String → Run (Option Value)} {p q : Place} {r : LineResult}
  {st : Statement} {s t : Session}

/-- A block that ends among the lines in front does not depend on what follows them. -/
theorem splitBlock_front (h : splitBlock (front ++ back) = some (block, n)) (hn : n < front.length)
    (back' : List String) : splitBlock (front ++ back') = some (block, n) := by
  induction front generalizing block n with
  | nil => exact absurd hn (Nat.not_lt_zero n)
  | cons line front ih =>
    rw [List.cons_append, splitBlock] at h ⊢
    split at h
    · rename_i hline
      rw [if_pos hline]
      exact h
    · rename_i hline
      obtain ⟨b, hb, he⟩ := Option.map_eq_some_iff.mp h
      have hlength : b.2 < front.length := by
        have hsucc : b.2 + 1 = n := congrArg Prod.snd he
        simp only [List.length_cons] at hn
        omega
      rw [if_neg hline, ih hb hlength, Option.map_some]
      exact congrArg some he

theorem Place.block_front (h : Place.block ⟨some (front ++ back), some i, source⟩ = .ok (block, stop))
    (hstop : stop < front.length) (back' : List String) :
    Place.block ⟨some (front ++ back'), some i, source⟩ = .ok (block, stop) := by
  have hlt := Place.lt_of_block h
  have hdrop : ∀ back : List String, (front ++ back).drop (i + 1) = front.drop (i + 1) ++ back := by
    intro back
    exact List.drop_append_of_le_length (by omega)
  cases hsplit : splitBlock ((front ++ back).drop (i + 1)) with
  | none =>
    rw [Place.block_of_splitBlock_none hsplit] at h
    cases h
  | some b =>
    rw [Place.block_of_splitBlock hsplit] at h
    obtain ⟨rfl, rfl⟩ : b.1 = block ∧ (i : Int) + 1 + b.2 = stop := by simpa using h
    rw [hdrop] at hsplit
    have hfront := splitBlock_front hsplit (by simp only [List.length_drop]; omega) back'
    rw [← hdrop] at hfront
    exact Place.block_of_splitBlock hfront source

/-- A statement asks for its block only, and only if it takes one. -/
theorem Statement.exec_eq_of_block (h : st.takesBlock = true → p.block = q.block) :
    st.exec call run p = st.exec call run q := by
  cases st with
  | define name params => simp only [Statement.exec, h rfl]
  | branch condition => simp only [Statement.exec, h rfl]
  | _ => rfl

/-- The loop goes on after a line, and not behind the first `n` lines. -/
def LineResult.Within (n : Nat) : LineResult → Prop
  | .next => True
  | .jump stop => stop < n
  | .returned _ => False

theorem Statement.exec_front
    (h : st.exec call run ⟨some (front ++ back), some i, source⟩ s = (.done r, t))
    (hr : r.Within front.length) (back' : List String) :
    st.exec call run ⟨some (front ++ back'), some i, source⟩ s = (.done r, t) := by
  rw [← h]
  refine congrFun (Statement.exec_eq_of_block ?_) s
  intro hst
  rcases Statement.result_cases h with ⟨block, stop, hblock, rfl | ⟨v, rfl⟩⟩ | ⟨hplain, -⟩
  · -- The block ends among the lines in front, since that is where the jump leads.
    rw [hblock]
    exact Place.block_front hblock hr back'
  · exact hr.elim
  · rw [hst] at hplain
    cases hplain

theorem execLine_front
    (h : execLine .standard call ⟨some (front ++ back), some i, source⟩ line s = (.done r, t))
    (hr : r.Within front.length) (back' : List String) :
    execLine .standard call ⟨some (front ++ back'), some i, source⟩ line s = (.done r, t) := by
  simp only [execLine, execLineWith] at h ⊢
  split at h
  · rename_i hvoid
    rw [if_pos hvoid]
    exact h
  · rename_i hvoid
    rw [if_neg hvoid]
    obtain ⟨_, u, hpause, h⟩ := Run.bind_eq_done h
    -- A pause asks for the number of a line and for its source, and not for the lines around it.
    change pauseIfAsked call ⟨some (front ++ back'), some i, source⟩ line s = _ at hpause
    refine (Run.bind_of_done hpause).trans ?_
    cases hst : Statement.ofLine? (Text.strip line) with
    | none =>
      rw [hst] at h
      exact h
    | some st =>
      rw [hst] at h
      exact Statement.exec_front h hr back'

/-- A loop that arrives at an index arrives there as well if other lines follow. -/
theorem Arrives.over_front
    (h : Arrives (fun j => execLine .standard call ⟨some (front ++ back), some j, source⟩) (front ++ back)
      i s j t)
    (hj : j ≤ front.length) (back' : List String) :
    Arrives (fun j => execLine .standard call ⟨some (front ++ back'), some j, source⟩) (front ++ back')
      i s j t := by
  have hsame : ∀ {i : Nat} {line : String}, i < front.length → (front ++ back)[i]? = some line →
      (front ++ back')[i]? = some line := by
    intro i line hi hline
    rwa [List.getElem?_append_left hi] at hline ⊢
  induction h with
  | here i s => exact .here i s
  | next hline hnext hrest ih =>
    have hle := hrest.le fun _ _ _ _ _ hjump => lt_of_execLineWith_jump hjump
    exact .next (hsame (by omega) hline) (execLine_front hnext trivial back') (ih hj)
  | @jump i j s t u line stop hline hjump hrest ih =>
    have hle := hrest.le fun _ _ _ _ _ hjump => lt_of_execLineWith_jump hjump
    have hforward := lt_of_execLineWith_jump hjump
    have hwithin : (LineResult.jump stop).Within front.length := by
      change stop < front.length
      omega
    exact .jump (hsame (by omega) hline) (execLine_front hjump hwithin back') (ih hj)

/-- What follows the lines in front can be exchanged, if going on with it gives the same where a run
arrives. -/
theorem runLines_exchange {depth : Nat} {back' : List String}
    (h : Arrives (fun j => execLine .standard (callNamed .standard depth)
      ⟨some (front ++ back), some j, source⟩) (front ++ back) 0 s front.length t)
    (hgoesOn : runLinesFrom depth source (front ++ back) front.length t =
      runLinesFrom depth source (front ++ back') front.length t) :
    runLines .standard (callNamed .standard depth) source (front ++ back) s =
      runLines .standard (callNamed .standard depth) source (front ++ back') s := by
  have h' := h.over_front (Nat.le_refl _) back'
  calc runLines .standard (callNamed .standard depth) source (front ++ back) s
      = runLinesFrom depth source (front ++ back) front.length t :=
        h.runFrom_eq fun _ _ _ _ _ hjump => lt_of_execLineWith_jump hjump
    _ = runLinesFrom depth source (front ++ back') front.length t := hgoesOn
    _ = runLines .standard (callNamed .standard depth) source (front ++ back') s :=
        (h'.runFrom_eq fun _ _ _ _ _ hjump => lt_of_execLineWith_jump hjump).symm

end Front

/-! ## Branches in place -/

/-- A text without calls has its value for every caller, and changes nothing. -/
theorem evalText_of_callFree {condition : String} (hcalls : textCallees condition = [])
    {depth : Nat} {v : Value} {s t : Session}
    (h : Host.standard.evaluate depth condition s = (.done v, t)) (call : Caller) :
    evalText call condition s = (.done v, s) := by
  have hkeeps : Keeps id (evalText call condition) := evalText_keeps (by simp [hcalls])
  have hcall : evalText call condition s = (.done v, t) := by
    rw [evalText_eq_of_callFree hcalls call (callNamed .standard depth)]
    exact h
  have hafter := hkeeps s
  rw [hcall] at hafter
  rw [hcall]
  exact congrArg _ hafter

/-- A branch is its block or nothing. The condition is a text on one line that is not empty and calls
nothing, and the block holds neither headers nor ends; blanks may follow the header and the `end`. In a session
with the debugger off in which the condition has a value, the loop goes on from the header as it goes on
from the same index over other lines: those with the block in place of the branch if the value counts as
true, and those with nothing in its place if it does not. It ends the same way and in the same session. So a
run that comes to the header in such a session is the same as a whole, too. -/
theorem branch_is_block_or_nothing (depth : Nat) (source : String) (pre body post : List String)
    (condition gap gap' : String) {v : Value} {s t : Session} (hcondition : condition ≠ "")
    (honeLine : '\n' ∉ condition.toList) (hcalls : textCallees condition = [])
    (hbody : ∀ line ∈ body, opensBlock line = false ∧ closesBlock line = false)
    (hgaps : ∀ c ∈ (gap ++ gap').toList, Text.isBlank c = true) (off : s.debugger.Off)
    (value : Host.standard.evaluate depth condition s = (.done v, t)) :
    let branching := pre ++ [branchHeader condition ++ gap] ++ body ++ ["end" ++ gap'] ++ post
    let flat := pre ++ (if v.truthy then body else []) ++ post
    runLinesFrom depth source branching pre.length s = runLinesFrom depth source flat pre.length s ∧
    ∀ first, Arrives (fun i => execLine .standard (callNamed .standard depth)
        ⟨some branching, some i, source⟩) branching 0 first pre.length s →
      runLines .standard (callNamed .standard depth) source branching first =
        runLines .standard (callNamed .standard depth) source flat first := by
  have hgap : ∀ c ∈ gap.toList, Text.isBlank c = true := by
    intro c hc
    exact hgaps c (by simp [hc])
  have hgap' : ∀ c ∈ gap'.toList, Text.isBlank c = true := by
    intro c hc
    exact hgaps c (by simp [hc])
  obtain ⟨inner, hread, hinner⟩ := exists_ofLine?_branchHeader hcondition honeLine
  have hheader : Statement.ofLine? (Text.strip (branchHeader condition ++ gap)) = some (.branch inner) := by
    rwa [strip_branchHeader_append condition hgap]
  have hvalue : evalText (callNamed .quiet depth) inner s = (.done v, s) := by
    rw [evalText_of_strip_eq hinner]
    exact evalText_of_callFree hcalls value _
  have hends : Endless body := fun line hline => (hbody line hline).2
  have hgoesOn := runLinesFrom_branch off depth source pre post hheader hends
    (fun line hline => (hbody line hline).1) (closesBlock_end_append hgap') hvalue
  -- In both lists of lines, what is exchanged stands behind the same lines in front.
  have hbranching : pre ++ [branchHeader condition ++ gap] ++ body ++ ["end" ++ gap'] ++ post =
      pre ++ (branchHeader condition ++ gap) :: (body ++ ("end" ++ gap') :: post) := by
    simp
  have hflat : pre ++ (if v.truthy then body else []) ++ post =
      pre ++ if v.truthy then body ++ post else post := by
    split <;> simp
  rw [hbranching, hflat]
  exact ⟨hgoesOn, fun first harrives => runLines_exchange harrives hgoesOn⟩

/-- A script that goes on behind a branch with a stray `end`. -/
def guardedLines : List String :=
  ["stryset n ('3')\n"] ++ [branchHeader " n " ++ "\n"] ++ ["stryprint n\n", "return n + n\n"] ++
    ["end" ++ "\n"] ++ ["stryset n (0)\n", "end\n"]

/-- The script comes to its branch, whose condition counts as true there. -/
theorem guardedLines_arrives :
    Arrives (fun i => execLine .standard (callNamed .standard 1) ⟨some guardedLines, some i, "p"⟩)
      guardedLines 0 .fresh 1 { Session.fresh with vars := [("n", .str "3")] } := by
  have hstatement : Statement.ofLine? (Text.strip "stryset n ('3')\n") = some (.assign "n" "'3'") := by
    decide +kernel
  have htext : ∀ call, evalText call "'3'" = pure (.str (unquoted (Text.strip "'3'"))) :=
    fun _ => evalText_of_quoted (by decide +kernel)
  refine .next rfl ?_ (.here 1 _)
  rw [(execLine_eq_quiet ⟨rfl, rfl, rfl⟩ 1 _ _).1, execLine, execLineWith_quiet_of_statement hstatement,
    Statement.exec, htext]
  rfl

theorem guardedLines_run_flat :
    runLines .standard (callNamed .standard 1) "p" guardedLines .fresh =
      runLines .standard (callNamed .standard 1) "p"
        ["stryset n ('3')\n", "stryprint n\n", "return n + n\n", "stryset n (0)\n", "end\n"] .fresh := by
  have hparse : Expr.parse? (Text.strip " n ") = some (.name "n") := by cbv
  have hvalue : Host.standard.evaluate 1 " n " { Session.fresh with vars := [("n", .str "3")] } =
      (.done (.str "3"), { Session.fresh with vars := [("n", .str "3")] }) := by
    rw [Host.evaluate, evalText_of_parse_some (by decide +kernel) hparse]
    rfl
  have hcalls : textCallees " n " = [] := by
    rw [textCallees, hparse]
    rfl
  obtain ⟨-, hruns⟩ := branch_is_block_or_nothing 1 "p" ["stryset n ('3')\n"]
    ["stryprint n\n", "return n + n\n"] ["stryset n (0)\n", "end\n"] " n " "\n" "\n" (by decide) (by decide)
    hcalls (by decide +kernel) (by simp [Text.isBlank]) ⟨rfl, rfl, rfl⟩ hvalue
  exact hruns .fresh guardedLines_arrives

end LineScript
