import LineScript.Proofs.Compile.Meaning
import LineScript.Proofs.Statement

/-!
# Branches with an alternative

A branch may be written with a line `else:` between two lists of lines, the second of which is meant for
conditions that do not hold. The line is no statement, and the block of the branch goes on behind it. So both
lists are run one after the other if the condition holds, and none of them if it does not. That one of them
is run and the other is not comes true exactly if the second list does nothing where a run comes to it.
-/

namespace LineScript

open Run

/-- A branch with an alternative: a header with its condition, two lists of lines without ends, a line
`else:` between them, and an `end`. Blanks may stand around the three lines. -/
structure Alternative where
  condition : String
  header : String
  first : List String
  middle : String
  second : List String
  stop : String
  condition_ne : condition ≠ ""
  condition_oneLine : '\n' ∉ condition.toList
  header_eq : Text.strip header = branchHeader condition
  first_endless : Endless first
  middle_eq : Text.strip middle = "else:"
  second_endless : Endless second
  stop_eq : Text.strip stop = "end"

namespace Alternative

/-- The lines between the header and the `end`. -/
def block (a : Alternative) : List String :=
  a.first ++ a.middle :: a.second

def lines (a : Alternative) : List String :=
  a.header :: (a.block ++ [a.stop])

/-- The lines that are meant for a value of the condition. -/
def meant (a : Alternative) (v : Value) : List String :=
  if v.truthy then a.first else a.second

end Alternative

/-! ## What is run -/

section Runs

variable {m m' k : Run (Option Value)} {s t : Session}

theorem LineResult.ofBlock_injective (stop : Int) : Function.Injective (LineResult.ofBlock stop) := by
  intro given given' h
  cases given with
  | none =>
    cases given' with
    | none => rfl
    | some v => cases h
  | some v =>
    cases given' with
    | none => cases h
    | some w => exact congrArg some (LineResult.returned.inj h)

/-- What a branch leads to tells how its block has ended. -/
theorem Run.orJump_eq_iff {stop : Int} : m.orJump stop s = m'.orJump stop t ↔ m s = m' t := by
  simp only [Run.orJump, Bind.bind, Run.bind]
  rcases m s with ⟨o, u⟩
  rcases m' t with ⟨o', u'⟩
  cases o <;> cases o' <;> simp [Pure.pure, Run.pure, (LineResult.ofBlock_injective stop).eq_iff]

/-- Going on makes no difference exactly if there is nothing to do where a run comes to the end of its
lines. -/
theorem Run.unlessGiven_eq_left_iff :
    m.unlessGiven k s = m s ↔ ∀ u, m s = (.done none, u) → k u = (.done none, u) := by
  simp only [Run.unlessGiven, Bind.bind, Run.bind]
  rcases m s with ⟨o, u⟩
  cases o with
  | done given => cases given <;> simp [Pure.pure, Run.pure]
  | failed f => simp
  | unfinished => simp

theorem Run.unlessGiven_congr_at {k' : Run (Option Value)} (hm : m s = m' s)
    (hk : ∀ u, m' s = (.done none, u) → k u = k' u) : m.unlessGiven k s = m'.unlessGiven k' s := by
  simp only [Run.unlessGiven, Bind.bind, Run.bind, hm]
  rcases hms : m' s with ⟨o, u⟩
  cases o with
  | done given =>
    cases given with
    | none => exact hk u hms
    | some v => rfl
  | failed f => rfl
  | unfinished => rfl

/-- A branch runs its block or nothing, in the session that its condition has left. -/
theorem execLine_branch {call : Caller} {header stop condition : String} {block : List String} {v : Value}
    (off : s.debugger.Off) (hheader : Statement.ofLine? (Text.strip header) = some (.branch condition))
    (hvalue : evalText call condition s = (.done v, t)) (hblock : Endless block)
    (hstop : closesBlock stop = true) (source : String) (pre post : List String) :
    execLine .standard call ⟨some (pre ++ header :: (block ++ stop :: post)), some pre.length, source⟩
      header s =
      (if v.truthy then runBlock .standard call block else pure none).orJump
        (pre.length + 1 + block.length) t := by
  have hfound : Place.block ⟨some (pre ++ header :: (block ++ stop :: post)), some pre.length, source⟩ =
      .ok (block, (pre.length : Int) + 1 + block.length) := by
    apply Place.block_of_splitBlock
    rw [drop_append_cons]
    exact splitBlock_append hblock hstop
  rw [execLine_of_statement off hheader, Statement.exec_branch, Run.bind_of_done hvalue, hfound]
  change (if v.truthy then (runBlock .standard call block).orJump _ else pure (.jump _)) t = _
  split <;> rfl

/-- A line `else:` is no statement. -/
theorem ofLine?_else : Statement.ofLine? "else:" = none := by
  decide +kernel

end Runs

namespace Alternative

variable (a : Alternative) {s t : Session} {depth : Nat} {v : Value}

theorem block_endless : Endless a.block := by
  intro line hline
  rcases List.mem_append.mp hline with hline | hline
  · exact a.first_endless line hline
  · rcases List.mem_cons.mp hline with rfl | hline
    · simp [closesBlock, a.middle_eq]
    · exact a.second_endless line hline

/-- The block runs both lists of lines, one after the other. -/
theorem runBlock_block (off : s.debugger.Off) :
    runBlock .standard (callNamed .standard depth) a.block s =
      ((runBlock .standard (callNamed .standard depth) a.first).unlessGiven
        (runBlock .standard (callNamed .standard depth) a.second)) s := by
  have hmiddle : Statement.ofLine? (Text.strip a.middle) = none := by
    rw [a.middle_eq]
    exact ofLine?_else
  rw [(a.block_endless.runBlock_eq off depth).1, block, runStraight_append, runStraight_of_none hmiddle]
  obtain ⟨hfirst, hoff⟩ := a.first_endless.runBlock_eq off depth
  apply Run.unlessGiven_congr_at hfirst.symm
  intro u hu
  -- Where the first lines have come to their end, the debugger is still off.
  rw [hu] at hoff
  exact (a.second_endless.runBlock_eq hoff depth).1.symm

/-- The header of the branch does what its block does, or nothing. -/
theorem execLine_header (off : s.debugger.Off)
    (value : Host.standard.evaluate depth a.condition s = (.done v, t)) (source : String)
    (pre post : List String) :
    execLine .standard (callNamed .standard depth) ⟨some (pre ++ a.lines ++ post), some pre.length, source⟩
      a.header s =
      (if v.truthy then runBlock .standard (callNamed .standard depth) a.block else pure none).orJump
        (pre.length + 1 + a.block.length) t := by
  obtain ⟨inner, hread, hinner⟩ := exists_ofLine?_branchHeader a.condition_ne a.condition_oneLine
  have hheader : Statement.ofLine? (Text.strip a.header) = some (.branch inner) := by
    rw [a.header_eq]
    exact hread
  have hvalue : evalText (callNamed .standard depth) inner s = (.done v, t) := by
    rw [evalText_of_strip_eq hinner]
    exact value
  have hstop : closesBlock a.stop = true := by simp [closesBlock, a.stop_eq]
  have hlines : pre ++ a.lines ++ post = pre ++ a.header :: (a.block ++ a.stop :: post) := by
    simp [lines]
  rw [hlines]
  exact execLine_branch off hheader hvalue a.block_endless hstop source pre post

end Alternative

/-- While the debugger is off and the condition has a value, a branch with an alternative runs both lists of
lines, the second unless the first has given a value back, if the condition holds, and none if it does not.
So it does what the lines that are meant for the value do, with the same end in the same session, exactly if
the second list does nothing wherever a run comes to it: behind the first list if the condition holds, and
at once if it does not. -/
theorem one_branch_runs_iff (a : Alternative) (depth : Nat) (source : String) (pre post : List String)
    {v : Value} {s t : Session} (off : s.debugger.Off)
    (value : Host.standard.evaluate depth a.condition s = (.done v, t)) :
    let run := runBlock .standard (callNamed .standard depth)
    let branch := execLine .standard (callNamed .standard depth)
      ⟨some (pre ++ a.lines ++ post), some pre.length, source⟩ a.header
    let stop : Int := pre.length + 1 + a.block.length
    branch s = (if v.truthy then (run a.first).unlessGiven (run a.second) else pure none).orJump stop t ∧
    (branch s = (run (a.meant v)).orJump stop t ↔
      ∀ u, run (if v.truthy then a.first else []) t = (.done none, u) →
        run a.second u = (.done none, u)) := by
  intro run branch stop
  have hoff : t.debugger.Off := by
    have hafter := evaluate_off off depth a.condition
    rwa [value] at hafter
  have hbranch : branch s =
      (if v.truthy then (run a.first).unlessGiven (run a.second) else pure none).orJump stop t := by
    refine (a.execLine_header off value source pre post).trans (Run.orJump_eq_iff.mpr ?_)
    split
    · exact a.runBlock_block hoff
    · rfl
  refine ⟨hbranch, ?_⟩
  rw [hbranch, Run.orJump_eq_iff, Alternative.meant]
  cases v.truthy with
  | true => exact Run.unlessGiven_eq_left_iff
  | false =>
    -- Nothing is run, so that the second list has to do nothing in the session at hand.
    constructor
    · intro h u hu
      obtain rfl : t = u := congrArg Prod.snd hu
      exact h.symm
    · intro h
      exact (h t rfl).symm

/-- An alternative whose lists both give a value back. -/
def lowOrHigh : Alternative where
  condition := "1"
  header := "if (1):\n"
  first := ["    return 'low'\n"]
  middle := "else:\n"
  second := ["    return 'high'\n"]
  stop := "end\n"
  condition_ne := by decide
  condition_oneLine := by decide
  header_eq := by decide +kernel
  first_endless := by decide +kernel
  middle_eq := by decide +kernel
  second_endless := by decide +kernel
  stop_eq := by decide +kernel

/-- A text that is a number has that value. -/
theorem evaluate_number {text : String} {n : Int} (hquoted : isQuoted (Text.strip text) = false)
    (hparse : Expr.parse? (Text.strip text) = some (.const (.int n))) (depth : Nat) (s : Session) :
    Host.standard.evaluate depth text s = (.done (.int n), s) := by
  rw [Host.evaluate, evalText_of_parse_some hquoted hparse, Expr.eval]
  rfl

theorem lowOrHigh_gives_low :
    execLine .standard (callNamed .standard 0)
      ⟨some (["stryset x (1)\n"] ++ lowOrHigh.lines ++ ["stryprint x\n"]), some 1, "p"⟩ lowOrHigh.header
      .fresh = (.done (.returned (.str "low")), .fresh) := by
  have hvalue : Host.standard.evaluate 0 lowOrHigh.condition .fresh = (.done (.int 1), .fresh) :=
    evaluate_number (by decide +kernel) (by cbv) 0 .fresh
  have hread : Statement.ofLine? (Text.strip "    return 'low'\n") = some (.giveBack "'low'") := by
    decide +kernel
  have htext : ∀ call, evalText call "'low'" = pure (.str (unquoted (Text.strip "'low'"))) :=
    fun _ => evalText_of_quoted (by decide +kernel)
  have hfirst : runBlock .standard (callNamed .standard 0) lowOrHigh.first .fresh =
      (.done (some (.str "low")), .fresh) := by
    rw [(lowOrHigh.first_endless.runBlock_eq ⟨rfl, rfl, rfl⟩ 0).1, lowOrHigh,
      runStraight_of_statement hread, Statement.execStraight, htext]
    rfl
  obtain ⟨-, hiff⟩ := one_branch_runs_iff lowOrHigh 0 "p" ["stryset x (1)\n"] ["stryprint x\n"]
    ⟨rfl, rfl, rfl⟩ hvalue
  refine (hiff.mpr ?_).trans ?_
  · -- The first list gives a value back, so that no run comes to the second.
    intro u hu
    rw [if_pos (by decide), hfirst] at hu
    cases hu
  · rw [Alternative.meant, if_pos (by decide), Run.orJump, Run.bind_of_done hfirst]
    rfl

/-- A line that prints a quoted text. -/
theorem runStraight_print {line expr : String} {s : Session} (hs : s.silent = false)
    (hread : Statement.ofLine? (Text.strip line) = some (.print expr))
    (hquoted : isQuoted (Text.strip expr) = true) (call : Caller) (rest : List String) :
    runStraight call (line :: rest) s =
      runStraight call rest
        (s.withOutput (printedPieces (unquoted (Text.strip expr)) ++ s.output)) := by
  rw [runStraight_of_statement hread, Statement.execStraight, evalText_of_quoted hquoted]
  exact Run.bind_of_done (printValues_of_text hs rfl)

theorem ofLine?_yes : Statement.ofLine? (Text.strip "stryprint 'yes'") = some (.print "'yes'") := by
  decide +kernel

theorem ofLine?_no : Statement.ofLine? (Text.strip "stryprint 'no'") = some (.print "'no'") := by
  decide +kernel

/-- A branch that prints whether its condition holds. -/
def yesOrNo (header : String) : List String :=
  [header, "stryprint 'yes'", "else:", "stryprint 'no'", "end"]

theorem execLine_yesOrNo {header condition : String} {n : Int}
    (hheader : Statement.ofLine? (Text.strip header) = some (.branch condition))
    (hvalue : Host.standard.evaluate 0 condition .fresh = (.done (.int n), .fresh)) :
    execLine .standard (callNamed .standard 0) ⟨some (yesOrNo header), some 0, "p"⟩ header .fresh =
      (.done (.jump 4), if (Value.int n).truthy then
        Session.fresh.withOutput (printedPieces "no" ++ printedPieces "yes") else .fresh) := by
  have hblock : Endless ["stryprint 'yes'", "else:", "stryprint 'no'"] := by decide +kernel
  have hboth : runBlock .standard (callNamed .standard 0) ["stryprint 'yes'", "else:", "stryprint 'no'"]
      .fresh = (.done none, Session.fresh.withOutput (printedPieces "no" ++ printedPieces "yes")) := by
    rw [(hblock.runBlock_eq ⟨rfl, rfl, rfl⟩ 0).1, runStraight_print rfl ofLine?_yes (by decide +kernel),
      runStraight_of_none (by decide +kernel), runStraight_print rfl ofLine?_no (by decide +kernel)]
    rfl
  have hstop : closesBlock "end" = true := by decide +kernel
  refine (execLine_branch ⟨rfl, rfl, rfl⟩ hheader hvalue hblock hstop "p" [] []).trans ?_
  cases (Value.int n).truthy with
  | true =>
    rw [if_pos rfl, if_pos rfl, Run.orJump, Run.bind_of_done hboth]
    rfl
  | false => rfl

/-- If the condition holds, both lists are run, and if it does not, none of them is. -/
theorem both_lists_run_or_none :
    execLine .standard (callNamed .standard 0) ⟨some (yesOrNo "if (1):"), some 0, "p"⟩ "if (1):" .fresh =
      (.done (.jump 4), Session.fresh.withOutput (printedPieces "no" ++ printedPieces "yes")) ∧
    runBlock .standard (callNamed .standard 0) ["stryprint 'yes'"] .fresh =
      (.done none, Session.fresh.withOutput (printedPieces "yes")) ∧
    execLine .standard (callNamed .standard 0) ⟨some (yesOrNo "if (0):"), some 0, "p"⟩ "if (0):" .fresh =
      (.done (.jump 4), .fresh) ∧
    runBlock .standard (callNamed .standard 0) ["stryprint 'no'"] .fresh =
      (.done none, Session.fresh.withOutput (printedPieces "no")) := by
  have hone : Host.standard.evaluate 0 "1" .fresh = (.done (.int 1), .fresh) :=
    evaluate_number (by decide +kernel) (by cbv) 0 .fresh
  have hzero : Host.standard.evaluate 0 "0" .fresh = (.done (.int 0), .fresh) :=
    evaluate_number (by decide +kernel) (by cbv) 0 .fresh
  refine ⟨?_, ?_, ?_, ?_⟩
  · exact execLine_yesOrNo (by decide +kernel) hone
  · rw [(Endless.runBlock_eq (by decide +kernel) ⟨rfl, rfl, rfl⟩ 0).1,
      runStraight_print rfl ofLine?_yes (by decide +kernel)]
    rfl
  · exact execLine_yesOrNo (by decide +kernel) hzero
  · rw [(Endless.runBlock_eq (by decide +kernel) ⟨rfl, rfl, rfl⟩ 0).1,
      runStraight_print rfl ofLine?_no (by decide +kernel)]
    rfl

end LineScript
