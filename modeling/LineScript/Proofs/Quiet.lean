import LineScript.Proofs.Frame
import LineScript.Proofs.Loop

/-!
# Runs without a debugger

While the debugger is off, a run is the same as the run of a host that has none, and the debugger stays
off. Without a debugger nothing asks for the number of a line or for the name of its source, so that
lines can be executed by looking ahead only: `runAhead` is the loop over lines in which a block is what
stands before the next `end`, and a jump leaves out as many lines as the block has.
-/

namespace LineScript

open Run

/-- The builtins of the language, and nothing before a line. -/
def Host.quiet : Host :=
  ⟨Builtin.call, fun _ _ _ => pure ()⟩

theorem respected_off : RespectedByCalls (fun _ => True) (Shared (·.debugger.Off)) where
  names := by rintro s _ ⟨rfl, -⟩; exact ⟨rfl, rfl⟩
  silent := by rintro s _ ⟨rfl, -⟩; rfl
  funcs := by rintro s _ ⟨rfl, -⟩; rfl
  callsOnly := fun _ _ _ _ _ _ _ => trivial
  setVars := by rintro s _ vars ⟨rfl, hoff⟩; exact ⟨rfl, hoff⟩
  setFunc := by rintro s _ name f ⟨rfl, hoff⟩ _; exact ⟨rfl, hoff⟩
  write := by
    rintro s _ text ⟨rfl, hoff⟩
    refine ⟨rfl, ?_⟩
    change (s.write text).debugger.Off
    rwa [Session.write_debugger]
  enter := by rintro s _ f args ⟨rfl, hoff⟩; exact ⟨rfl, hoff⟩
  leave := by rintro s _ t _ ⟨rfl, -⟩ ⟨rfl, hoff⟩; exact ⟨rfl, hoff⟩

theorem sharesWorld_off : SharesWorld (Shared (·.debugger.Off)) where
  toPrintsAlike := respected_off.toPrintsAlike
  files := by rintro s _ ⟨rfl, -⟩; rfl
  input := by rintro s _ ⟨rfl, -⟩; rfl
  streams := by rintro s _ ⟨rfl, -⟩; rfl
  setFiles := by rintro s _ files ⟨rfl, hoff⟩; exact ⟨rfl, hoff⟩
  setInput := by rintro s _ input streams ⟨rfl, hoff⟩; exact ⟨rfl, hoff⟩

theorem hostsMatch_quiet :
    HostsMatch (fun _ => False) (fun _ => True) (Shared (·.debugger.Off)) .standard .quiet where
  toRespectedByCalls := respected_off
  builtin := fun b _ args => sharesWorld_off.builtin b args
  before := by
    rintro call₁ call₂ p line s _ ⟨rfl, hoff⟩
    exact .inr (by
      change (pauseIfAsked call₁ p line s).1 = _ ∧ Shared _ (pauseIfAsked call₁ p line s).2 _
      rw [pauseIfAsked_of_off hoff]
      exact ⟨rfl, rfl, hoff⟩)

section Off

variable {s : Session} (off : s.debugger.Off)

include off

theorem runLines_eq_quiet (depth : Nat) (source : String) (lines : List String) :
    runLines .standard (callNamed .standard depth) source lines s =
      runLines .quiet (callNamed .quiet depth) source lines s :=
  (Matches.eq_of_shared (hostsMatch_quiet.runLines depth (fun _ _ _ _ => trivial) source) off).1

theorem callNamed_eq_quiet (depth : Nat) (name : String) (args : List Value) :
    callNamed .standard depth name args s = callNamed .quiet depth name args s :=
  (Matches.eq_of_shared (hostsMatch_quiet.callNamed depth trivial args) off).1

theorem evaluate_off (depth : Nat) (text : String) :
    (Host.standard.evaluate depth text s).2.debugger.Off :=
  (Matches.eq_of_shared (hostsMatch_quiet.evaluate depth fun _ _ => trivial) off).2

/-- A line is executed as without a debugger, and leaves it off. -/
theorem execLine_eq_quiet (depth : Nat) (p : Place) (line : String) :
    execLine .standard (callNamed .standard depth) p line s =
      execLine .quiet (callNamed .quiet depth) p line s ∧
    (execLine .standard (callNamed .standard depth) p line s).2.debugger.Off :=
  Matches.eq_of_shared ((hostsMatch_quiet.linesCongruence depth).execLine (fun _ _ => trivial)
    fun _ _ _ _ _ _ _ => trivial) off

end Off

/-! ## Looking ahead -/

/-- Execute a statement before the lines `rest`, and go on with `go` after as many of them as the
statement takes. -/
def Statement.execAhead (call : Caller) (run : List String → Run (Option Value)) (rest : List String)
    (go : Nat → Run (Option Value)) : Statement → Run (Option Value)
  | .assign name expr => do
    let v ← evalText call expr
    Run.modify fun s => { s with vars := s.vars.set name v }
    go 0
  | .print expr => do
    let v ← evalText call expr
    printValues [v]
    go 0
  | .define name params =>
    match splitBlock rest with
    | some (block, n) => do
      Run.modify fun s => { s with funcs := s.funcs.set name ⟨params, block⟩ }
      go (n + 1)
    | none => Run.fail .missingEnd
  | .giveBack expr => do
    let v ← evalText call expr
    return some v
  | .branch condition => do
    let c ← evalText call condition
    match splitBlock rest with
    | some (block, n) =>
      if c.truthy then
        match ← run block with
        | some v => return some v
        | none => go (n + 1)
      else go (n + 1)
    | none => Run.fail .missingEnd

/-- Execute the lines ahead, after `skip` of them. `run` runs the lines of a branch that is taken. -/
def runAhead (call : Caller) (run : List String → Run (Option Value)) :
    Nat → List String → Run (Option Value)
  | _, [] => pure none
  | skip + 1, _ :: rest => runAhead call run skip rest
  | 0, line :: rest =>
    match Statement.ofLine? (Text.strip line) with
    | some st => st.execAhead call run rest fun skip => runAhead call run skip rest
    | none => runAhead call run 0 rest

section Equations

variable {call : Caller} {run : List String → Run (Option Value)} {line : String}

theorem runAhead_of_statement {st : Statement} (h : Statement.ofLine? (Text.strip line) = some st)
    (rest : List String) :
    runAhead call run 0 (line :: rest) =
      st.execAhead call run rest fun skip => runAhead call run skip rest := by
  rw [runAhead.eq_def]
  simp only [h]

theorem runAhead_of_none (h : Statement.ofLine? (Text.strip line) = none) (rest : List String) :
    runAhead call run 0 (line :: rest) = runAhead call run 0 rest := by
  rw [runAhead.eq_def]
  simp only [h]

theorem runAhead_skip (call : Caller) (run : List String → Run (Option Value)) (skip : Nat)
    (lines : List String) : runAhead call run skip lines = runAhead call run 0 (lines.drop skip) := by
  induction lines generalizing skip with
  | nil => cases skip <;> rfl
  | cons line rest ih =>
    cases skip with
    | zero => rfl
    | succ skip => exact ih skip

end Equations

/-- A line that is empty or a comment is no statement. -/
theorem Statement.ofLine?_of_isVoid {text : String} (h : isVoid text = true) :
    Statement.ofLine? text = none := by
  simp only [isVoid, Bool.or_eq_true] at h
  rcases h with hempty | hcomment
  · have htext : text = "" := by simpa using hempty
    subst htext
    decide +kernel
  · obtain ⟨rest, hrest⟩ := Text.startsWith_iff.mp hcomment
    simp only [Statement.ofLine?, hrest]
    rfl

theorem Statement.isVoid_of_ofLine? {text : String} {st : Statement}
    (h : Statement.ofLine? text = some st) : isVoid text = false := by
  cases hvoid : isVoid text with
  | false => rfl
  | true =>
    rw [Statement.ofLine?_of_isVoid hvoid] at h
    cases h

/-- A line that is a statement does what the statement does, after what happens before it. -/
theorem execLineWith_of_statement {host : Host} {call : Caller} {run : List String → Run (Option Value)}
    {p : Place} {line : String} {st : Statement} {s t : Session}
    (h : Statement.ofLine? (Text.strip line) = some st)
    (hbefore : host.beforeLine call p line s = (.done (), t)) :
    execLineWith host call run p line s = st.exec call run p t := by
  simp only [execLineWith, Statement.isVoid_of_ofLine? h, h, Bool.false_eq_true, if_false]
  rw [Run.bind_of_done hbefore]

/-- While the debugger is off, a line that is a statement does what the statement does. -/
theorem execLine_of_statement {s : Session} (off : s.debugger.Off) {line : String} {st : Statement}
    (h : Statement.ofLine? (Text.strip line) = some st) (call : Caller) (p : Place) :
    execLine .standard call p line s = st.exec call (runBlock .standard call) p s := by
  have hpause : Host.standard.beforeLine call p line s = (.done (), s) :=
    pauseIfAsked_of_off off call p line
  exact execLineWith_of_statement h hpause

theorem execLineWith_quiet_of_statement {line : String} {st : Statement}
    (h : Statement.ofLine? (Text.strip line) = some st) (call : Caller)
    (run : List String → Run (Option Value)) (p : Place) :
    execLineWith .quiet call run p line = st.exec call run p := by
  simp only [execLineWith, h]
  split
  · rename_i hvoid
    rw [Statement.ofLine?_of_isVoid hvoid] at h
    cases h
  · rfl

theorem execLineWith_quiet_of_none {line : String} (h : Statement.ofLine? (Text.strip line) = none)
    (call : Caller) (run : List String → Run (Option Value)) (p : Place) :
    execLineWith .quiet call run p line = pure .next := by
  simp only [execLineWith, h]
  split <;> rfl

section Ahead

variable {lines rest : List String} {i : Nat} {call : Caller}
  {run : List String → Run (Option Value)}

/-- A statement looks ahead only: after it, as many lines are left out as its block has. -/
theorem Statement.exec_follow (hrest : lines.drop (i + 1) = rest) (source : String)
    (go : Nat → Run (Option Value)) (st : Statement) :
    st.exec call run ⟨some lines, some i, source⟩ >>= LineResult.follow go i =
      st.execAhead call run rest go := by
  subst hrest
  cases st with
  | assign name expr => simp only [Statement.exec, Run.bind_assoc]; rfl
  | print expr => simp only [Statement.exec, Run.bind_assoc]; rfl
  | giveBack expr => simp only [Statement.exec, Run.bind_assoc]; rfl
  | define name params =>
    cases hsplit : splitBlock (lines.drop (i + 1)) with
    | none =>
      rw [Statement.exec, Place.block_of_splitBlock_none hsplit, Statement.execAhead, hsplit]
      rfl
    | some b =>
      rw [Statement.exec, Place.block_of_splitBlock hsplit, Statement.execAhead, hsplit]
      dsimp only
      rw [← follow_jump go i b.2]
      rfl
  | branch condition =>
    simp only [Statement.exec, Statement.execAhead, Run.bind_assoc]
    congr 1
    funext c
    cases hsplit : splitBlock (lines.drop (i + 1)) with
    | none =>
      rw [Place.block_of_splitBlock_none hsplit]
      rfl
    | some b =>
      rw [Place.block_of_splitBlock hsplit]
      dsimp only
      rw [← follow_jump go i b.2]
      cases c.truthy with
      | false => rfl
      | true =>
        -- The block is run on both sides, and what it gives back ends the run.
        change (run b.1 >>= _) >>= _ = run b.1 >>= _
        rw [Run.bind_assoc]
        congr 1
        funext given
        cases given <;> rfl

/-- The loop over lines looks ahead only. -/
theorem runFrom_eq_runAhead (hrest : lines.drop i = rest) (source : String) (skip : Nat) :
    runFrom (fun j => execLineWith .quiet call run ⟨some lines, some j, source⟩) skip i rest =
      runAhead call run skip rest := by
  induction rest generalizing i skip with
  | nil => cases skip <;> rfl
  | cons line rest ih =>
    -- What is ahead of the line at `i` are the lines that the loop has not yet come to.
    have hdrop : lines.drop (i + 1) = rest := by
      rw [← List.drop_drop, hrest]
      rfl
    cases skip with
    | succ skip => exact ih hdrop skip
    | zero =>
      have hgo : (fun skip => runFrom (fun j => execLineWith .quiet call run ⟨some lines, some j, source⟩)
          skip (i + 1) rest) = fun skip => runAhead call run skip rest := by
        funext skip
        exact ih hdrop skip
      rw [runFrom_cons, hgo]
      cases hst : Statement.ofLine? (Text.strip line) with
      | none =>
        rw [execLineWith_quiet_of_none hst, runAhead_of_none hst]
        rfl
      | some st =>
        rw [execLineWith_quiet_of_statement hst, runAhead_of_statement hst]
        exact st.exec_follow hdrop source _

/-- The blocks ahead of a statement are both missing, or both there and related: as what a branch runs,
as the body of a definition, and in what follows them. -/
inductive BlocksAhead (P : ∀ {α : Type}, Run α → Run α → Prop) (st : Statement)
    (run₁ run₂ : List String → Run (Option Value)) (rest₁ rest₂ : List String)
    (go₁ go₂ : Nat → Run (Option Value)) : Prop where
  | missing (h₁ : splitBlock rest₁ = none) (h₂ : splitBlock rest₂ = none)
  | found {block₁ block₂ : List String} {n₁ n₂ : Nat} (h₁ : splitBlock rest₁ = some (block₁, n₁))
      (h₂ : splitBlock rest₂ = some (block₂, n₂)) (hrun : P (run₁ block₁) (run₂ block₂))
      (hdefine : ∀ name params, st = .define name params →
        P (Run.modify fun s => { s with funcs := s.funcs.set name ⟨params, block₁⟩ })
          (Run.modify fun s => { s with funcs := s.funcs.set name ⟨params, block₂⟩ }))
      (hgo : P (go₁ (n₁ + 1)) (go₂ (n₂ + 1)))

theorem Statement.execAhead_congr {P : ∀ {α : Type}, Run α → Run α → Prop} (hP : LineCongruence P)
    {call₁ call₂ : Caller} {run₁ run₂ : List String → Run (Option Value)} {rest₁ rest₂ : List String}
    {go₁ go₂ : Nat → Run (Option Value)} {st : Statement}
    (htext : ∀ text ∈ st.texts, P (evalText call₁ text) (evalText call₂ text))
    (hnext : st.takesBlock = false → P (go₁ 0) (go₂ 0))
    (hahead : st.takesBlock = true → BlocksAhead P st run₁ run₂ rest₁ rest₂ go₁ go₂) :
    P (st.execAhead call₁ run₁ rest₁ go₁) (st.execAhead call₂ run₂ rest₂ go₂) := by
  cases st with
  | assign name expr =>
    refine hP.bind (htext expr (by simp [Statement.texts])) fun v => ?_
    exact hP.bind (hP.assign name v) fun _ => hnext rfl
  | print expr =>
    refine hP.bind (htext expr (by simp [Statement.texts])) fun v => ?_
    exact hP.bind (hP.print v) fun _ => hnext rfl
  | define name params =>
    cases hahead rfl with
    | missing h₁ h₂ =>
      simp only [Statement.execAhead, h₁, h₂]
      exact hP.fail _
    | found h₁ h₂ _ hdefine hgo =>
      simp only [Statement.execAhead, h₁, h₂]
      exact hP.bind (hdefine name params rfl) fun _ => hgo
  | giveBack expr => exact hP.bind (htext expr (by simp [Statement.texts])) fun v => hP.pure _
  | branch condition =>
    refine hP.bind (htext condition (by simp [Statement.texts])) fun c => ?_
    cases hahead rfl with
    | missing h₁ h₂ =>
      simp only [h₁, h₂]
      exact hP.fail _
    | found h₁ h₂ hrun _ hgo =>
      simp only [h₁, h₂]
      split
      · refine hP.bind hrun fun given => ?_
        cases given with
        | some v => exact hP.pure _
        | none => exact hgo
      · exact hgo

/-- Run all lines, looking ahead. Blocks do not nest: inside of one, a branch finds no end. -/
def runAll (call : Caller) (lines : List String) : Run (Option Value) :=
  runAhead call (runAhead call (fun _ => Run.fail .missingEnd) 0) 0 lines

theorem runBlock_quiet (call : Caller) :
    runBlock .quiet call = runAhead call (fun _ => Run.fail .missingEnd) 0 := by
  funext block
  exact runFrom_eq_runAhead rfl unnamedSource 0

theorem runLines_quiet (call : Caller) (source : String) (lines : List String) :
    runLines .quiet call source lines = runAll call lines := by
  rw [runLines, runBlock_quiet]
  exact runFrom_eq_runAhead rfl source 0

end Ahead

end LineScript
