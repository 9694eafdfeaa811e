import LineScript.Proofs.Closed
import LineScript.Proofs.Quiet

/-!
# Calls in closed sessions

In a closed session no body holds an `end`. While the debugger is off, a body is then executed straight
on, line after line: a header in it finds no end and fails, after its condition if it has one. So no call
ever completes a conditional or a definition. `callStraight` is the meaning of calls without blocks and
without jumps, and calls in a closed session are those.
-/

namespace LineScript

open Run

/-! ## Lines without blocks -/

/-- Execute a header that no `end` follows. A branch evaluates its condition first. -/
def Statement.refuse {α : Type} (call : Caller) : Statement → Run α
  | .branch condition => do
    let _ ← evalText call condition
    Run.fail .missingEnd
  | _ => Run.fail .missingEnd

/-- Execute a statement without looking for a block, and go on with `go`. -/
def Statement.execStraight (call : Caller) (go : Run (Option Value)) : Statement → Run (Option Value)
  | .assign name expr => do
    let v ← evalText call expr
    Run.modify fun s => { s with vars := s.vars.set name v }
    go
  | .print expr => do
    let v ← evalText call expr
    printValues [v]
    go
  | .giveBack expr => do
    let v ← evalText call expr
    return some v
  | header => header.refuse call

/-- Execute lines without blocks, one after the other. -/
def runStraight (call : Caller) : List String → Run (Option Value)
  | [] => pure none
  | line :: rest =>
    match Statement.ofLine? (Text.strip line) with
    | some st => st.execStraight call (runStraight call rest)
    | none => runStraight call rest

/-- Call a function whose body has no blocks. -/
def callBodyStraight (call : Caller) (name : String) (f : Function) (args : List Value) : Run Value :=
  if args.length != f.params.length then
    Run.fail (.type (.arity name f.params.length args.length))
  else Run.inCall (do return (← runStraight call f.body).getD .none) f args

/-- Call a function whose body has no blocks, or else a builtin. Calls may nest `depth` deep. -/
def callStraight : Nat → Caller
  | 0 => callWith .standard fun _ _ _ => Run.giveUp
  | depth + 1 => callWith .standard (callBodyStraight (callStraight depth))

/-! ## Refusal -/

section Refusal

variable {call : Caller} {st : Statement}

theorem Statement.refuse_bind (call : Caller) (st : Statement) (k : α → Run β) :
    st.refuse call >>= k = st.refuse call := by
  cases st with
  | branch condition => exact Run.bind_assoc _ _ _
  | _ => rfl

/-- A header that is refused gives no result. -/
theorem Statement.refuse_ne_done (call : Caller) (st : Statement) (s : Session) (a : α) :
    (st.refuse call s).1 ≠ .done a := by
  rcases hr : (st.refuse call : Run α) s with ⟨o, t⟩
  rintro rfl
  cases st with
  | branch condition =>
    obtain ⟨_, _, -, hfail⟩ := Run.bind_eq_done hr
    cases hfail
  | _ => simp [Statement.refuse, Run.fail] at hr

/-- Where no `end` follows, a header is refused. -/
theorem Statement.exec_of_missingEnd {run : List String → Run (Option Value)} {p : Place}
    (hst : st.takesBlock = true) (hblock : p.block = .error .missingEnd) :
    st.exec call run p = st.refuse call := by
  cases st with
  | define name params =>
    rw [Statement.exec, hblock]
    rfl
  | branch condition =>
    rw [Statement.exec, hblock]
    rfl
  | _ => cases hst

end Refusal

/-! ## Bodies without an end -/

section Bodies

variable {call : Caller} {run : List String → Run (Option Value)} {lines : List String}

theorem runStraight_of_statement {line : String} {st : Statement}
    (h : Statement.ofLine? (Text.strip line) = some st) (call : Caller) (rest : List String) :
    runStraight call (line :: rest) = st.execStraight call (runStraight call rest) := by
  rw [runStraight.eq_def]
  simp only [h]

theorem runStraight_of_none {line : String} (h : Statement.ofLine? (Text.strip line) = none)
    (call : Caller) (rest : List String) : runStraight call (line :: rest) = runStraight call rest := by
  rw [runStraight.eq_def]
  simp only [h]

theorem Statement.execAhead_of_splitBlock_none (h : splitBlock lines = none)
    (go : Nat → Run (Option Value)) (st : Statement) :
    st.execAhead call run lines go = st.execStraight call (go 0) := by
  cases st with
  | define name params =>
    rw [Statement.execAhead, h]
    rfl
  | branch condition =>
    rw [Statement.execAhead, h]
    rfl
  | _ => rfl

/-- Lines without an `end` are executed straight on. -/
theorem Endless.runAhead_eq (h : Endless lines) : runAhead call run 0 lines = runStraight call lines := by
  induction lines with
  | nil => rfl
  | cons line rest ih =>
    obtain ⟨-, hrest⟩ := List.forall_mem_cons.mp h
    cases hst : Statement.ofLine? (Text.strip line) with
    | none =>
      rw [runAhead_of_none hst, runStraight_of_none hst]
      exact ih hrest
    | some st =>
      rw [runAhead_of_statement hst, runStraight_of_statement hst,
        Statement.execAhead_of_splitBlock_none (Endless.splitBlock_eq_none hrest), ih hrest]

/-- While the debugger is off, lines without an `end` run straight on, and leave it off. -/
theorem Endless.runBlock_eq {s : Session} (h : Endless lines) (off : s.debugger.Off) (depth : Nat) :
    runBlock .standard (callNamed .standard depth) lines s =
      runStraight (callNamed .quiet depth) lines s ∧
    (runBlock .standard (callNamed .standard depth) lines s).2.debugger.Off := by
  have hquiet := Matches.eq_of_shared ((hostsMatch_quiet.linesCongruence depth).runBlock lines
    fun _ _ _ _ => trivial) off
  rw [runBlock_quiet, h.runAhead_eq] at hquiet
  exact hquiet

theorem callBody_quiet {f : Function} (h : Endless f.body) (name : String) (args : List Value) :
    callBody .quiet call name f args = callBodyStraight call name f args := by
  rw [callBody, callBodyStraight, runBody, runLines_quiet, runAll, h.runAhead_eq]

variable {P : ∀ {α : Type}, Run α → Run α → Prop} {call₁ call₂ : Caller}

theorem Statement.execStraight_congr (hP : LineCongruence P) {st : Statement}
    {go₁ go₂ : Run (Option Value)}
    (htext : ∀ text ∈ st.texts, P (evalText call₁ text) (evalText call₂ text)) (hgo : P go₁ go₂) :
    P (st.execStraight call₁ go₁) (st.execStraight call₂ go₂) := by
  -- A statement before no lines at all finds no block either.
  have hahead : ∀ call go, st.execStraight call go =
      st.execAhead call (fun _ => Run.fail .missingEnd) [] fun _ => go := fun call go =>
    (Statement.execAhead_of_splitBlock_none rfl (fun _ => go) st).symm
  rw [hahead, hahead]
  exact Statement.execAhead_congr hP htext (fun _ => hgo) fun _ => .missing rfl rfl

theorem runStraight_congr (hP : LineCongruence P)
    (htext : ∀ line ∈ lines, ∀ text ∈ lineTexts line, P (evalText call₁ text) (evalText call₂ text)) :
    P (runStraight call₁ lines) (runStraight call₂ lines) := by
  induction lines with
  | nil => exact hP.pure _
  | cons line rest ih =>
    obtain ⟨hline, hrest⟩ := List.forall_mem_cons.mp htext
    cases hst : Statement.ofLine? (Text.strip line) with
    | none =>
      rw [runStraight_of_none hst, runStraight_of_none hst]
      exact ih hrest
    | some st =>
      rw [lineTexts_of_statement hst] at hline
      rw [runStraight_of_statement hst, runStraight_of_statement hst]
      exact Statement.execStraight_congr hP hline (ih hrest)

end Bodies

/-! ## Calls -/

theorem callNamed_matches_callStraight (depth : Nat) (name : String) (args : List Value) :
    Matches (fun _ => False) (Shared Session.Closed) (callNamed .quiet depth name args)
      (callStraight depth name args) := by
  have hfuncs : ∀ ⦃s₁ s₂⦄, Shared Session.Closed s₁ s₂ → s₁.funcs = s₂.funcs := by
    rintro s _ ⟨rfl, -⟩
    rfl
  have hbuiltin : ∀ name args, Preserves Session.Closed (callBuiltin .standard name args) :=
    fun name args =>
      .of_keeps (callBuiltin_keeps hidesLines_closed.dialogue (fun _ _ => rfl) name args)
  induction depth generalizing name args with
  | zero =>
    rw [callNamed_zero, callStraight]
    exact callWith_matches hfuncs (hbuiltin name args).matches fun _ _ h _ _ => Matches.giveUp h
  | succ depth ih =>
    rw [callNamed_succ, callStraight]
    refine callWith_matches hfuncs (hbuiltin name args).matches fun s₁ s₂ h f hf => ?_
    -- The body has no end because the session is closed, and its calls nest less deeply.
    have htext : ∀ text, Matches (fun _ => False) (Shared Session.Closed)
        (evalText (callNamed .quiet depth) text) (evalText (callStraight depth) text) := fun text =>
      evalText_matches (sameNames_shared _) fun name _ => ih name
    rw [callBody_quiet (h.2.get? hf)]
    unfold callBodyStraight
    split
    · exact Matches.fail _ h
    · refine inCall_matches hidesLines_closed.keptByCalls ?_ f args h
      refine .bind ?_ fun _ => .pure _
      exact runStraight_congr hidesLines_closed.lineCongruence_matches fun _ _ text _ => htext text

/-- Calls in a closed session are calls of bodies without blocks. -/
theorem callNamed_eq_callStraight {s : Session} (hs : s.Closed) (off : s.debugger.Off) (depth : Nat)
    (name : String) (args : List Value) :
    callNamed .standard depth name args s = callStraight depth name args s := by
  rw [callNamed_eq_quiet off]
  exact (Matches.eq_of_shared (callNamed_matches_callStraight depth name args) hs).1

/-! ## Headers in bodies -/

/-- The place of a line in the body of a function. -/
def bodyPlace (name : String) (f : Function) (i : Nat) : Place :=
  ⟨some f.body, some i, "<func " ++ name ++ ">"⟩

/-- A call comes to a header in the body of its function, in session `t`. -/
def ReachesHeader (call : Caller) (name : String) (args : List Value) (s : Session) (header : Statement)
    (t : Session) : Prop :=
  ∃ f i line, s.funcs.get? name = some f ∧ args.length = f.params.length ∧
    Arrives (fun j => execLine .standard call (bodyPlace name f j)) f.body 0 (s.enter f args) i t ∧
    f.body[i]? = some line ∧ Statement.ofLine? (Text.strip line) = some header ∧
    header.takesBlock = true

section Headers

variable {call : Caller} {name : String} {f : Function} {s t : Session} {header : Statement}

/-- A header in a body without an `end` is refused. -/
theorem execLine_of_header (hbody : Endless f.body) (off : t.debugger.Off) (call : Caller) (name : String)
    (i : Nat) {line : String} (hline : Statement.ofLine? (Text.strip line) = some header)
    (hheader : header.takesBlock = true) :
    execLine .standard call (bodyPlace name f i) line t = header.refuse call t := by
  have hblock : (bodyPlace name f i).block = .error .missingEnd := Place.block_of_endless hbody i _
  rw [execLine_of_statement off hline, Statement.exec_of_missingEnd hheader hblock]

/-- The run of a body that comes to a header ends there. -/
theorem runBody_of_header {depth i : Nat} (hbody : Endless f.body) (off : s.debugger.Off)
    (hreach : Arrives (fun j => execLine .standard (callNamed .standard depth) (bodyPlace name f j))
      f.body 0 s i t) {line : String} (hat : f.body[i]? = some line)
    (hline : Statement.ofLine? (Text.strip line) = some header) (hheader : header.takesBlock = true) :
    runBody .standard (callNamed .standard depth) name f s =
      header.refuse (callNamed .standard depth) t := by
  have hoff : t.debugger.Off := hreach.preserves (fun u => u.debugger.Off)
    (fun _ line _ _ hu => (execLine_eq_quiet hu depth _ line).2) off
  -- Every jump leads forward, so that the loop can be picked up where it has arrived.
  have hrun := hreach.runFrom_eq fun _ _ _ _ _ hjump => lt_of_execLineWith_jump hjump
  have hrefuse := execLine_of_header hbody hoff (callNamed .standard depth) name i hline hheader
  -- The refusal is the first step of what is left of the loop, and nothing comes behind it.
  rw [drop_eq_cons hat, runFrom_cons, Run.bind_congr_at hrefuse, Statement.refuse_bind] at hrun
  exact (Run.bind_congr_at hrun _).trans (congrFun (Statement.refuse_bind _ header _) t)

/-- A call that comes to a header fails there: with the fault of the condition, or without the end. -/
theorem callBody_of_header {depth : Nat} {args : List Value} (hs : s.Closed) (off : s.debugger.Off)
    (hreach : ReachesHeader (callNamed .standard depth) name args s header t)
    (hf : s.funcs.get? name = some f) :
    callBody .standard (callNamed .standard depth) name f args s =
      (header.refuse (callNamed .standard depth)).ensuring (·.leave s) t := by
  obtain ⟨g, i, line, hg, harity, harrives, hat, hline, hheader⟩ := hreach
  -- The function that is called is the one whose body was looked at.
  obtain rfl : f = g := by simpa [hf] using hg
  rw [callBody_of_length_eq name harity]
  have hoff : (s.enter f args).debugger.Off := off
  have hbody := runBody_of_header (hs.get? hf) hoff harrives hat hline hheader
  simp only [Run.inCall, Run.ensuring, hbody]

theorem evaluate_eq_straight (hs : s.Closed) (off : s.debugger.Off) (depth : Nat) (text : String) :
    Host.standard.evaluate depth text s = evalText (callStraight depth) text s := by
  -- First the debugger is taken away, then the blocks.
  have hquiet : Matches (fun _ => False) (Shared (·.debugger.Off)) (Host.standard.evaluate depth text)
      (Host.quiet.evaluate depth text) := hostsMatch_quiet.evaluate depth fun _ _ => trivial
  have hstraight : Matches (fun _ => False) (Shared Session.Closed) (Host.quiet.evaluate depth text)
      (evalText (callStraight depth) text) :=
    evalText_matches (sameNames_shared _) fun name _ => callNamed_matches_callStraight depth name
  exact (hquiet.eq_of_shared off).1.trans (hstraight.eq_of_shared hs).1

end Headers

/-! ## What holds in closed sessions -/

/-- The first session is closed, and from a closed session everything leads to a closed session, however
it ends. Evaluation leaves the functions as they are. While the debugger is off, calls are those of bodies
without blocks, and a call that comes to a header fails there. -/
theorem closed_sessions_stay_closed :
    Session.fresh.Closed ∧ Fault.missingEnd.kindName = "SyntaxError" ∧
    Fault.missingEnd.message = some "Missing 'end'" ∧
    ∀ s : Session, s.Closed → ∀ depth,
      (∀ text, (Host.standard.evaluate depth text s).2.Closed ∧
        (Host.standard.evaluate depth text s).2.funcs = s.funcs) ∧
      (∀ e : Expr, (e.eval (callNamed .standard depth) s).2.funcs = s.funcs) ∧
      (∀ name args, (Host.standard.callFunction depth name args s).2.Closed ∧
        (Host.standard.callFunction depth name args s).2.funcs = s.funcs) ∧
      (∀ p line, (execLine .standard (callNamed .standard depth) p line s).2.Closed) ∧
      (∀ path, (Host.standard.runFile depth path s).2.Closed) ∧
      (Repl.run s).2.Closed ∧
      (s.debugger.Off →
        (∀ text, Host.standard.evaluate depth text s = evalText (callStraight depth) text s) ∧
        (∀ name args, callNamed .standard depth name args s = callStraight depth name args s) ∧
        ∀ name args header t, ReachesHeader (callNamed .standard depth) name args s header t →
          Host.standard.callFunction depth name args s =
            (header.refuse (callNamed .standard depth)).ensuring (·.leave s) t ∧
          callNamed .standard (depth + 1) name args s =
            (header.refuse (callNamed .standard depth)).ensuring (·.leave s) t ∧
          ∀ v, (Host.standard.callFunction depth name args s).1 ≠ .done v) := by
  refine ⟨by decide, rfl, rfl, fun s hs depth => ?_⟩
  refine ⟨fun text => ?_, fun e => ?_, fun name args => ?_, fun p line => ?_, fun path => ?_, ?_,
    fun off => ⟨fun text => ?_, fun name args => ?_, ?_⟩⟩
  · have hfuncs := evaluate_funcs hs depth text
    exact ⟨hs.of_funcs hfuncs, hfuncs⟩
  · exact Expr.eval_funcs hs depth e
  · have hfuncs := callFunction_funcs hs depth name args
    exact ⟨hs.of_funcs hfuncs, hfuncs⟩
  · exact execLine_closed depth p line s hs
  · exact runFile_closed depth path s hs
  · exact Repl.run_closed s hs
  · exact evaluate_eq_straight hs off depth text
  · exact callNamed_eq_callStraight hs off depth name args
  · intro name args header t hreach
    obtain ⟨f, _, _, hf, _⟩ := id hreach
    have hcall := callBody_of_header hs off hreach hf
    refine ⟨(callFunction_of_some hf args).trans hcall, ?_, fun v => ?_⟩
    · rw [callNamed_succ, callWith_of_some hf]
      exact hcall
    · rw [callFunction_of_some hf, hcall]
      exact header.refuse_ne_done _ t v

/-- A function whose body was cut short behind its branch. -/
def shortened : Function :=
  ⟨["x"], ["stryset y ('low')", "if (x < 0):", "return y"]⟩

def withShortened : Session :=
  { Session.fresh with funcs := [("shortened", shortened)] }

/-- The call comes to its branch after it has set a variable. -/
theorem withShortened_reaches : ∃ t, ReachesHeader (callNamed .standard 1) "shortened" [.int 1]
    withShortened (.branch "x < 0") t := by
  have hstatement : Statement.ofLine? (Text.strip "stryset y ('low')") = some (.assign "y" "'low'") := by
    decide +kernel
  have htext : ∀ call, evalText call "'low'" = pure (.str (unquoted (Text.strip "'low'"))) :=
    fun _ => evalText_of_quoted (by decide +kernel)
  have hfirst : ∃ t, execLine .standard (callNamed .standard 1) (bodyPlace "shortened" shortened 0)
      "stryset y ('low')" (withShortened.enter shortened [.int 1]) = (.done .next, t) := by
    rw [(execLine_eq_quiet ⟨rfl, rfl, rfl⟩ 1 _ _).1, execLine, execLineWith_quiet_of_statement hstatement,
      Statement.exec, htext]
    exact ⟨_, rfl⟩
  obtain ⟨t, hline⟩ := hfirst
  refine ⟨t, shortened, 1, "if (x < 0):", by rfl, by rfl, ?_, by rfl, by decide +kernel, by rfl⟩
  exact Arrives.next rfl hline (.here 1 t)

theorem withShortened_stays_closed :
    withShortened.Closed ∧ (Repl.run withShortened).2.Closed ∧
    ∃ t, Host.standard.callFunction 1 "shortened" [.int 1] withShortened =
      ((Statement.branch "x < 0").refuse (callNamed .standard 1)).ensuring (·.leave withShortened) t := by
  have hclosed : withShortened.Closed := by decide +kernel
  obtain ⟨t, hreach⟩ := withShortened_reaches
  obtain ⟨-, -, -, hsessions⟩ := closed_sessions_stay_closed
  obtain ⟨-, -, -, -, -, hrepl, hoff⟩ := hsessions withShortened hclosed 1
  obtain ⟨-, -, hheader⟩ := hoff ⟨rfl, rfl, rfl⟩
  exact ⟨hclosed, hrepl, t, (hheader _ _ _ _ hreach).1⟩

end LineScript
