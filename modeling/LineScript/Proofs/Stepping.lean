import LineScript.Proofs.Files.Path
import LineScript.Proofs.Loop
import LineScript.Proofs.Talk
import LineScript.Proofs.Trace

/-!
# Stepping

Stepping is turned on by the answers `step` and `next`, and nothing turns it off. While it is off a run
pauses exactly at the lines with a breakpoint, and while it is on it pauses at every line, however deep in
calls the line stands.
-/

namespace LineScript

open Run

/-! ## The rule of pausing -/

/-- The answer of a pause turns stepping on. -/
def Event.asksToStep : Event → Bool
  | .passes _ => false
  | .pauses _ => false
  | .answered _ action => action != .continue

/-- Whether stepping is on after events, if it was `on` before them. -/
def stepsAfter (on : Bool) (events : List Event) : Bool :=
  on || events.any Event.asksToStep

/-- While stepping is `on`, every line is paused at. While it is not, the lines with a breakpoint are. -/
def Event.Fits (on : Bool) : Event → Prop
  | .passes v => (on || v.breakpoint) = false
  | .pauses v => (on || v.breakpoint) = true
  | .answered _ _ => True

/-- All events fit, one after the other. -/
def Lawful (on : Bool) : List Event → Prop
  | [] => True
  | e :: es => e.Fits on ∧ Lawful (on || e.asksToStep) es

section Lawful

variable {on : Bool} {front back : List Event}

theorem stepsAfter_append (on : Bool) (front back : List Event) :
    stepsAfter on (front ++ back) = stepsAfter (stepsAfter on front) back := by
  simp [stepsAfter, Bool.or_assoc]

theorem stepsAfter_cons (on : Bool) (e : Event) (es : List Event) :
    stepsAfter on (e :: es) = stepsAfter (on || e.asksToStep) es := by
  simp [stepsAfter, Bool.or_assoc]

theorem lawful_append :
    Lawful on (front ++ back) ↔ Lawful on front ∧ Lawful (stepsAfter on front) back := by
  induction front generalizing on with
  | nil => simp [Lawful, stepsAfter]
  | cons e es ih => rw [List.cons_append, Lawful, ih, Lawful, stepsAfter_cons, and_assoc]

/-- An event fits what stepping is after the events before it. -/
theorem Lawful.fits {e : Event} (h : Lawful on (front ++ e :: back)) : e.Fits (stepsAfter on front) :=
  (lawful_append.mp h).2.1

end Lawful

/-! ## Runs with their events -/

namespace Run

/-- From the session `s`, the events of a run obey the rule, and they tell whether stepping is on after
the run. -/
structure TracedAt (m : Run α) (s : Session) (events : List Event) : Prop where
  lawful : Lawful s.debugger.singleStep events
  singleStep : (m s).2.debugger.singleStep = stepsAfter s.debugger.singleStep events

def TracedBy (m : Run α) (trace : Trace) : Prop :=
  ∀ s, TracedAt m s (trace s)

/-- A run that neither turns stepping on nor comes to a line. -/
abbrev KeepsStep (m : Run α) : Prop :=
  Keeps (·.debugger.singleStep) m

theorem TracedBy.of_keeps {m : Run α} (h : KeepsStep m) : TracedBy m .none :=
  fun s => ⟨trivial, by simpa [stepsAfter, Trace.none] using h s⟩

theorem TracedAt.bind {m : Run α} {k : α → Run β} {trace : Trace} {rest : α → Trace} {s : Session}
    (h : TracedAt m s (trace s)) (hk : ∀ a, TracedBy (k a) (rest a)) :
    TracedAt (m >>= k) s (trace.andThen m rest s) := by
  obtain ⟨hlawful, hstep⟩ := h
  unfold TracedBy at hk
  rcases hm : m s with ⟨o, t⟩
  rw [hm] at hstep
  cases o with
  | done a =>
    -- The second run starts with what stepping is after the first.
    obtain ⟨hlawful', hstep'⟩ := hk a t
    rw [hstep] at hlawful' hstep'
    simp only [Trace.andThen, hm]
    refine ⟨lawful_append.mpr ⟨hlawful, hlawful'⟩, ?_⟩
    rw [Run.bind_of_done hm, hstep', stepsAfter_append]
  | failed f =>
    simp only [Trace.andThen, hm]
    exact ⟨hlawful, by simpa only [Bind.bind, Run.bind, hm] using hstep⟩
  | unfinished =>
    simp only [Trace.andThen, hm]
    exact ⟨hlawful, by simpa only [Bind.bind, Run.bind, hm] using hstep⟩

theorem TracedBy.bind {m : Run α} {k : α → Run β} {trace : Trace} {rest : α → Trace}
    (h : TracedBy m trace) (hk : ∀ a, TracedBy (k a) (rest a)) :
    TracedBy (m >>= k) (trace.andThen m rest) :=
  fun s => (h s).bind hk

/-- What follows adds no events. -/
theorem TracedBy.bind_keeps {m : Run α} {k : α → Run β} {trace : Trace} (h : TracedBy m trace)
    (hk : ∀ a, KeepsStep (k a)) : TracedBy (m >>= k) trace := by
  have hnone : trace.andThen m (fun _ => .none) = trace := by
    funext s
    unfold Trace.andThen
    split <;> simp [Trace.none]
  rw [← hnone]
  exact h.bind fun a => .of_keeps (hk a)

theorem TracedBy.attempt {m : Run α} {trace : Trace} (h : TracedBy m trace) :
    TracedBy m.attempt trace := by
  intro s
  obtain ⟨hlawful, hstep⟩ := h s
  refine ⟨hlawful, hstep ▸ ?_⟩
  unfold Run.attempt
  split <;> rename_i hm <;> rw [hm]

end Run

/-! ## The dialogue -/

theorem write_keepsStep (text : String) : KeepsStep (write text) :=
  .modify fun s => by rw [Session.write_debugger]

theorem modifyDebugger_keepsStep {f : Debugger → Debugger} (h : ∀ d, (f d).singleStep = d.singleStep) :
    KeepsStep (modifyDebugger f) :=
  .modify fun s => h s.debugger

/-- No command of the dialogue turns stepping on or off. -/
theorem debugging_keepsStep : Debugging fun {_} m => KeepsStep m where
  toTalking := (Printing.mk (Keeps.sequential _) write_keepsStep).talking .attempt fun _ _ =>
    .modify fun _ => rfl
  addLine := fun n => modifyDebugger_keepsStep fun d => by unfold Debugger.addLine; split <;> rfl
  addPlace := fun source n => modifyDebugger_keepsStep fun d => by unfold Debugger.addPlace; split <;> rfl
  removeLine := fun n => modifyDebugger_keepsStep fun _ => rfl
  addWatch := fun expr => modifyDebugger_keepsStep fun _ => rfl
  removeWatch := fun expr => modifyDebugger_keepsStep fun _ => rfl

/-! ## Expressions -/

section Expressions

variable {call : Caller} {calls : CallTrace}

/-- The events of calls are those that `calls` gives. -/
def CallsTracedBy (call : Caller) (calls : CallTrace) : Prop :=
  ∀ name args, TracedBy (call name args) (calls name args)

mutual

theorem Expr.eval_tracedBy (hcall : CallsTracedBy call calls) :
    (e : Expr) → TracedBy (e.eval call) (e.trace call calls)
  | .const v => by
    simp only [Expr.eval, Expr.trace]
    exact .of_keeps (.pure v)
  | .name id => by
    simp only [Expr.eval, Expr.trace]
    exact .of_keeps fun s => (Keeps.ofResult (s.lookup id) : KeepsStep _) s
  | .binary op left right => by
    simp only [Expr.eval, Expr.trace]
    refine .bind (Expr.eval_tracedBy hcall left) fun a => ?_
    exact .bind_keeps (Expr.eval_tracedBy hcall right) fun b => .ofResult _
  | .unary op operand => by
    simp only [Expr.eval, Expr.trace]
    exact .bind_keeps (Expr.eval_tracedBy hcall operand) fun a => .ofResult _
  | .boolean op operands => by
    simp only [Expr.eval, Expr.trace]
    exact .bind_keeps (Expr.evalAll_tracedBy hcall operands) fun vs => .pure _
  | .compare first ops rest => by
    simp only [Expr.eval, Expr.trace]
    refine .bind (Expr.eval_tracedBy hcall first) fun a => ?_
    exact .bind_keeps (Expr.evalChain_tracedBy hcall a ops rest) fun b => .pure _
  | .call function args => by
    simp only [Expr.eval, Expr.trace]
    exact .bind (Expr.evalAll_tracedBy hcall args) fun vs => hcall function vs
  | .callOther => by
    simp only [Expr.eval, Expr.trace]
    exact .of_keeps (.fail _)
  | .refused form => by
    simp only [Expr.eval, Expr.trace]
    exact .of_keeps (.fail _)

theorem Expr.evalAll_tracedBy (hcall : CallsTracedBy call calls) :
    (es : List Expr) → TracedBy (Expr.evalAll call es) (Expr.traceAll call calls es)
  | [] => by
    simp only [Expr.evalAll, Expr.traceAll]
    exact .of_keeps (.pure _)
  | e :: es => by
    simp only [Expr.evalAll, Expr.traceAll]
    refine .bind (Expr.eval_tracedBy hcall e) fun v => ?_
    exact .bind_keeps (Expr.evalAll_tracedBy hcall es) fun vs => .pure _

theorem Expr.evalChain_tracedBy (hcall : CallsTracedBy call calls) (left : Value) :
    (ops : List CompareOp) → (es : List Expr) →
      TracedBy (Expr.evalChain call left ops es) (Expr.traceChain call calls left ops es)
  | op :: ops, e :: es => by
    simp only [Expr.evalChain, Expr.traceChain]
    refine .bind (Expr.eval_tracedBy hcall e) fun right => ?_
    cases op.apply left right with
    | error f => exact .of_keeps fun _ => rfl
    | ok b =>
      cases b with
      | true => exact Expr.evalChain_tracedBy hcall right ops es
      | false => exact .of_keeps (.pure _)
  | [], _ => by
    simp only [Expr.evalChain, Expr.traceChain]
    exact .of_keeps (.pure _)
  | _ :: _, [] => by
    simp only [Expr.evalChain, Expr.traceChain]
    exact .of_keeps (.pure _)

end

theorem evalText_tracedBy (hcall : CallsTracedBy call calls) (text : String) :
    TracedBy (evalText call text) (textTrace call calls text) := by
  cases hquoted : isQuoted (Text.strip text) with
  | true =>
    rw [evalText_of_quoted hquoted, textTrace_of_quoted hquoted]
    exact .of_keeps (.pure _)
  | false =>
    cases hparse : Expr.parse? (Text.strip text) with
    | some e =>
      rw [evalText_of_parse_some hquoted hparse, textTrace_of_parse_some hquoted hparse]
      exact Expr.eval_tracedBy hcall e
    | none =>
      rw [evalText_of_parse_none hquoted hparse, textTrace_of_parse_none hquoted hparse]
      exact .of_keeps fun _ => rfl

end Expressions

/-! ## Pauses -/

section Pauses

variable {call : Caller} {calls : CallTrace}

theorem showWatch_tracedBy (hcall : CallsTracedBy call calls) (w : String) :
    TracedBy (showWatch call w) (textTrace call calls w) := by
  have hshown : TracedBy (evalText call w >>= fun v => printValues [.str "   -", .str w, .str "=", v])
      (textTrace call calls w) :=
    (evalText_tracedBy hcall w).bind_keeps fun v => debugging_keepsStep.printValues _
  refine hshown.attempt.bind_keeps fun shown => ?_
  cases shown with
  | ok _ => exact .pure _
  | error f => exact debugging_keepsStep.printLine _

theorem showWatches_tracedBy (hcall : CallsTracedBy call calls) (watches : List String) :
    TracedBy (showWatches call watches) (watchesTrace call calls watches) := by
  induction watches with
  | nil => exact .of_keeps (.pure _)
  | cons w ws ih => exact .bind (showWatch_tracedBy hcall w) fun _ => ih

theorem listWatches_tracedBy (hcall : CallsTracedBy call calls) (watches : List String) :
    TracedBy (listWatches call watches) (listTrace call calls watches) := by
  unfold listWatches listTrace
  split
  · exact .of_keeps (.pure _)
  · exact .bind (.of_keeps (debugging_keepsStep.printLine _)) fun _ => showWatches_tracedBy hcall watches

theorem pauseAt_tracedBy (hcall : CallsTracedBy call calls) (source : String) (n : Int) (line : String) :
    TracedBy (pauseAt call source n line) (insideTrace call calls source n line) := by
  refine .bind (.of_keeps (write_keepsStep _)) fun _ t => ?_
  have hlist := listWatches_tracedBy hcall t.debugger.watches
  have hrest : ∀ _ : Unit, KeepsStep (Run.get >>= fun u => dialogue (u.input.length + 1)) := fun _ =>
    .bind .get fun u => debugging_keepsStep.dialogue _
  have hinside := hlist.bind_keeps hrest t
  exact ⟨hinside.lawful, hinside.singleStep⟩

theorem Debugger.singleStep_act (d : Debugger) (depth : Int) (v : Visit) (action : Action) :
    (d.act depth action).singleStep = (d.singleStep || (Event.answered v action).asksToStep) := by
  cases action <;> simp [Debugger.act, Event.asksToStep]

/-- The action after a pause turns stepping on if it is asked to. -/
theorem act_tracedBy (v : Visit) (action : Action) :
    TracedBy (Run.modify fun s => { s with debugger := s.debugger.act s.callDepth action })
      fun _ => [.answered v action] := by
  intro s
  refine ⟨⟨trivial, trivial⟩, ?_⟩
  change (s.debugger.act s.callDepth action).singleStep = _
  rw [Debugger.singleStep_act s.debugger s.callDepth v action, stepsAfter_cons]
  simp [stepsAfter]

/-- What happens before a line obeys the rule: the debugger looks at nothing but stepping and the
breakpoints. -/
theorem pauseIfAsked_tracedBy (hcall : CallsTracedBy call calls) (p : Place) (line : String) :
    TracedBy (pauseIfAsked call p line) (pauseTrace call calls p line) := by
  intro s
  have hpauses : s.debugger.pausesAt p.source p.lineNumber =
      (s.debugger.singleStep || (p.visit s).breakpoint) := rfl
  unfold pauseTrace
  cases hasked : s.debugger.pausesAt p.source p.lineNumber with
  | false =>
    rw [if_neg (by simp)]
    refine ⟨⟨hpauses.symm.trans hasked, trivial⟩, ?_⟩
    rw [pauseIfAsked_of_not_pausesAt hasked]
    simp [stepsAfter, Event.asksToStep]
  | true =>
    rw [if_pos rfl]
    obtain ⟨hlawful, hstep⟩ := (pauseAt_tracedBy hcall p.source p.lineNumber line).bind
      (act_tracedBy (p.visit s)) s
    -- The announcement of the pause is an event of its own, and turns nothing on.
    refine ⟨⟨hpauses.symm.trans hasked, ?_⟩, ?_⟩
    · rw [Event.asksToStep, Bool.or_false]
      exact hlawful
    · rw [pauseIfAsked_of_pausesAt hasked, stepsAfter_cons, Event.asksToStep, Bool.or_false]
      exact hstep

end Pauses

/-! ## Lines -/

section Lines

variable {call : Caller} {calls : CallTrace} {run : List String → Run (Option Value)}
  {blocks : List String → Trace}

theorem Statement.exec_tracedBy (hcall : CallsTracedBy call calls)
    (hrun : ∀ block, TracedBy (run block) (blocks block)) (p : Place) (st : Statement) :
    TracedBy (st.exec call run p) (st.trace call calls blocks p) := by
  cases st with
  | assign name expr =>
    refine (evalText_tracedBy hcall expr).bind_keeps fun v => ?_
    exact .bind (.modify fun _ => rfl) fun _ => .pure _
  | print expr =>
    refine (evalText_tracedBy hcall expr).bind_keeps fun v => ?_
    exact .bind (debugging_keepsStep.printValues _) fun _ => .pure _
  | define name params =>
    refine .of_keeps (.bind (.ofResult _) fun b => ?_)
    exact .bind (.modify fun _ => rfl) fun _ => .pure _
  | giveBack expr => exact (evalText_tracedBy hcall expr).bind_keeps fun v => .pure _
  | branch condition =>
    simp only [Statement.exec, Statement.trace]
    refine .bind (evalText_tracedBy hcall condition) fun c => ?_
    cases p.block with
    | error f => exact .of_keeps fun _ => rfl
    | ok b =>
      change TracedBy (if c.truthy then _ else _) (if c.truthy then _ else _)
      split
      · refine (hrun b.1).bind_keeps fun given => ?_
        cases given with
        | some v => exact .pure _
        | none => exact .pure _
      · exact .of_keeps (.pure _)

theorem execLineWith_tracedBy (hcall : CallsTracedBy call calls)
    (hrun : ∀ block, TracedBy (run block) (blocks block)) (p : Place) (line : String) :
    TracedBy (execLineWith .standard call run p line) (lineTrace call calls blocks p line) := by
  simp only [execLineWith, lineTrace]
  split
  · exact .of_keeps (.pure _)
  · refine .bind (pauseIfAsked_tracedBy hcall p line) fun _ => ?_
    cases Statement.ofLine? (Text.strip line) with
    | none => exact .of_keeps (.pure _)
    | some st => exact Statement.exec_tracedBy hcall hrun p st

/-- A loop over lines has the events of its lines. -/
theorem runFrom_tracedBy {exec : Nat → String → Run LineResult} {trace : Nat → String → Trace}
    (h : ∀ i line, TracedBy (exec i line) (trace i line)) (skip i : Nat) (lines : List String) :
    TracedBy (runFrom exec skip i lines) (loopTrace exec trace skip i lines) := by
  induction lines generalizing skip i with
  | nil => exact .of_keeps (.pure _)
  | cons line rest ih =>
    cases skip with
    | succ skip => exact ih skip (i + 1)
    | zero =>
      refine .bind (h i line) fun r => ?_
      cases r with
      | next => exact ih 0 (i + 1)
      | jump j => exact ih _ (i + 1)
      | returned v => exact .of_keeps (.pure _)

theorem runBlock_tracedBy (hcall : CallsTracedBy call calls) (block : List String) :
    TracedBy (runBlock .standard call block) (blockTrace call calls block) :=
  runFrom_tracedBy (fun _ line => execLineWith_tracedBy hcall (fun _ => .of_keeps (.fail _)) _ line) 0 0
    block

theorem runLines_tracedBy (hcall : CallsTracedBy call calls) (source : String) (lines : List String) :
    TracedBy (runLines .standard call source lines) (linesTrace call calls source lines) :=
  runFrom_tracedBy (fun _ line => execLineWith_tracedBy hcall (runBlock_tracedBy hcall) _ line) 0 0 lines

theorem callBody_tracedBy (hcall : CallsTracedBy call calls) (name : String) (f : Function)
    (args : List Value) :
    TracedBy (callBody .standard call name f args) (bodyTrace call calls name f args) := by
  intro s
  unfold bodyTrace
  by_cases harity : args.length = f.params.length
  · rw [callBody_of_length_eq name harity, if_neg (by simp [harity])]
    -- Entering and leaving the call change the variables and the depth only.
    obtain ⟨hlawful, hstep⟩ := (runLines_tracedBy hcall ("<func " ++ name ++ ">") f.body).bind_keeps
      (fun given => (.pure (given.getD .none) : KeepsStep _)) (s.enter f args)
    exact ⟨hlawful, hstep⟩
  · rw [callBody_of_length_ne name harity, if_pos (by simpa using harity)]
    exact TracedBy.of_keeps (.fail _) s

end Lines

theorem callBuiltin_keepsStep (name : String) (args : List Value) :
    KeepsStep (callBuiltin .standard name args) :=
  debugging_keepsStep.callBuiltin rfl (fun _ => .modify fun _ => rfl) name args

/-- The events of calls are told, however deeply the calls nest. -/
theorem callNamed_tracedBy (depth : Nat) : CallsTracedBy (callNamed .standard depth) (callTrace depth) := by
  induction depth with
  | zero =>
    intro name args s
    rw [callNamed_zero]
    cases hf : s.funcs.get? name with
    | some f =>
      refine ⟨trivial, ?_⟩
      rw [callWith_of_some hf]
      simp [Run.giveUp, callTrace, Trace.none, stepsAfter]
    | none =>
      refine ⟨trivial, ?_⟩
      rw [callWith_of_none hf]
      exact (TracedBy.of_keeps (callBuiltin_keepsStep name args) s).singleStep
  | succ depth ih =>
    intro name args s
    rw [callNamed_succ]
    unfold callTrace
    cases hf : s.funcs.get? name with
    | some f =>
      have hbody := callBody_tracedBy ih name f args s
      exact ⟨hbody.lawful, by rw [callWith_of_some hf]; exact hbody.singleStep⟩
    | none =>
      refine ⟨trivial, ?_⟩
      rw [callWith_of_none hf]
      exact (TracedBy.of_keeps (callBuiltin_keepsStep name args) s).singleStep

theorem runFile_tracedBy (depth : Nat) (path : String) :
    TracedBy (Host.standard.runFile depth path) (fileTrace depth path) := by
  intro s
  unfold fileTrace
  cases hlines : s.files.readLines path with
  | ok lines =>
    have hrun := runLines_tracedBy (callNamed_tracedBy depth) path lines s
    exact ⟨hrun.lawful, by rw [Host.runFile_of_readLines hlines]; exact hrun.singleStep⟩
  | error f =>
    refine ⟨trivial, ?_⟩
    rw [Host.runFile_of_readLines_error hlines]
    split <;> simp [stepsAfter]

/-! ## Answers that are overruled -/

def Event.isAnswer : Event → Bool
  | .passes _ => false
  | .pauses _ => false
  | .answered _ _ => true

def Event.isPause : Event → Bool
  | .passes _ => false
  | .pauses _ => true
  | .answered _ _ => false

/-- Until the next answer, a run that was told to continue pauses at breakpoints only, and one that was told
to go to the next line pauses no deeper in calls than before, breakpoints apart. -/
def Disciplined (events : List Event) : Prop :=
  ∀ (front between back : List Event) (v w : Visit) (action : Action),
    events = front ++ Event.answered v action :: between ++ Event.pauses w :: back →
    (∀ e ∈ between, e.isAnswer = false) →
    (action = .continue → w.breakpoint = true) ∧
    (action = .next → v.depth < w.depth → w.breakpoint = true)

/-- The run pauses at a line without a breakpoint because stepping is on, right after it was told to continue
or in a call after it was told to go to the next line. -/
def Overruled (on : Bool) (events : List Event) : Prop :=
  ∃ (front between back : List Event) (v w : Visit) (action : Action),
    events = front ++ Event.answered v action :: between ++ Event.pauses w :: back ∧
    (∀ e ∈ between, e.isPause = true) ∧ w.breakpoint = false ∧
    ((action = .continue ∧ stepsAfter on front = true) ∨ (action = .next ∧ v.depth < w.depth))

section Discipline

variable {on : Bool} {events : List Event}

theorem Overruled.not_disciplined (h : Overruled on events) : ¬ Disciplined events := by
  obtain ⟨front, between, back, v, w, action, hevents, hbetween, hbreak, hcase⟩ := h
  intro hdisciplined
  have hanswers : ∀ e ∈ between, e.isAnswer = false := by
    intro e he
    have hpause := hbetween e he
    cases e with
    | pauses _ => rfl
    | passes _ => cases hpause
    | answered _ _ => cases hpause
  obtain ⟨hcontinue, hnext⟩ := hdisciplined front between back v w action hevents hanswers
  rcases hcase with ⟨haction, -⟩ | ⟨haction, hdeeper⟩
  · exact absurd (hcontinue haction) (by simp [hbreak])
  · exact absurd (hnext haction hdeeper) (by simp [hbreak])

theorem stepsAfter_of_no_answer (on : Bool) {between : List Event} (h : ∀ e ∈ between, e.isAnswer = false) :
    stepsAfter on between = on := by
  have hany : between.any Event.asksToStep = false := by
    rw [List.any_eq_false]
    intro e he
    have hanswer := h e he
    cases e with
    | passes _ => simp [Event.asksToStep]
    | pauses _ => simp [Event.asksToStep]
    | answered _ _ => cases hanswer
  simp [stepsAfter, hany]

/-- While stepping is on, a run passes no line. -/
theorem Lawful.isPause_of_on {between : List Event} (h : Lawful true between)
    (hanswers : ∀ e ∈ between, e.isAnswer = false) : ∀ e ∈ between, e.isPause = true := by
  intro e he
  obtain ⟨front, back, rfl⟩ := List.append_of_mem he
  have hfits := h.fits
  rw [show stepsAfter true front = true by simp [stepsAfter]] at hfits
  have hanswer := hanswers e he
  cases e with
  | passes v => simp [Event.Fits] at hfits
  | pauses v => rfl
  | answered v action => cases hanswer

/-- A pause at a line without a breakpoint shows that stepping has been on since the last answer. -/
theorem Lawful.on_of_pause {front between back : List Event} {v w : Visit} {action : Action}
    (h : Lawful on (front ++ Event.answered v action :: between ++ Event.pauses w :: back))
    (hanswers : ∀ e ∈ between, e.isAnswer = false) (hbreak : w.breakpoint = false) :
    stepsAfter on (front ++ [.answered v action]) = true ∧ ∀ e ∈ between, e.isPause = true := by
  rw [List.append_cons front] at h
  have hfits : (stepsAfter on (front ++ [.answered v action] ++ between) || w.breakpoint) = true := h.fits
  rw [stepsAfter_append, stepsAfter_of_no_answer _ hanswers, hbreak, Bool.or_false] at hfits
  have hbetween := (lawful_append.mp (lawful_append.mp h).1).2
  rw [hfits] at hbetween
  exact ⟨hfits, hbetween.isPause_of_on hanswers⟩

/-- Where an answer is not followed, stepping is on and overrules it. -/
theorem Lawful.disciplined_iff (h : Lawful on events) : Disciplined events ↔ ¬ Overruled on events := by
  refine ⟨fun hdisciplined hover => hover.not_disciplined hdisciplined, fun hnot => ?_⟩
  rintro front between back v w action rfl hanswers
  refine ⟨fun haction => ?_, fun haction hdeeper => ?_⟩
  · by_contra hbreak
    rw [Bool.not_eq_true] at hbreak
    obtain ⟨hon, hpauses⟩ := h.on_of_pause hanswers hbreak
    -- To continue turns nothing on, so that stepping was on before the answer.
    have hbefore : stepsAfter on front = true := by
      rw [stepsAfter_append, haction, stepsAfter_cons] at hon
      simpa [stepsAfter, Event.asksToStep] using hon
    exact hnot ⟨front, between, back, v, w, action, rfl, hpauses, hbreak, .inl ⟨haction, hbefore⟩⟩
  · by_contra hbreak
    rw [Bool.not_eq_true] at hbreak
    obtain ⟨-, hpauses⟩ := h.on_of_pause hanswers hbreak
    exact hnot ⟨front, between, back, v, w, action, rfl, hpauses, hbreak, .inr ⟨haction, hdeeper⟩⟩

/-- As long as nobody asks to step, all answers are followed. -/
theorem not_overruled_of_off (h : stepsAfter on events = false) : ¬ Overruled on events := by
  rintro ⟨front, between, back, v, w, action, rfl, -, -, hcase⟩
  rw [List.append_cons front, stepsAfter_append, stepsAfter_append, stepsAfter_append] at h
  rcases hcase with ⟨-, hon⟩ | ⟨rfl, -⟩
  · rw [hon] at h
    simp [stepsAfter] at h
  · simp [stepsAfter, Event.asksToStep] at h

end Discipline

/-- A run of a script pauses at a line exactly if stepping is on or the line has a breakpoint. Stepping is on
from the first pause on that is answered with `step` or `next`, to the end of the run and beyond. The answers
`continue` and `next` are followed exactly if stepping overrules none of them; if nobody asks to step, all
are. -/
theorem stepping_discipline_iff (depth : Nat) (path : String) (s : Session) :
    let events := fileTrace depth path s
    let after := (Host.standard.runFile depth path s).2
    Lawful s.debugger.singleStep events ∧
    after.debugger.singleStep = stepsAfter s.debugger.singleStep events ∧
    (Disciplined events ↔ ¬ Overruled s.debugger.singleStep events) ∧
    (after.debugger.singleStep = false → Disciplined events) := by
  intro events after
  obtain ⟨hlawful, hstep⟩ := runFile_tracedBy depth path s
  refine ⟨hlawful, hstep, hlawful.disciplined_iff, fun hoff => ?_⟩
  exact hlawful.disciplined_iff.mpr (not_overruled_of_off (hstep ▸ hoff))

/-- A script of three lines with a breakpoint at its first one. The dialogue steps once and then tells the
run to continue. -/
def steppedOnce : Session :=
  { Session.fresh with
    debugger := { Debugger.idle with lines := [1] }
    input := ["s", "c"]
    files := .withScript "p" ["stryset x (1)", "stryset y (2)", "stryset z (3)"] }

/-- A script that calls a function in a line with a breakpoint. The dialogue asks for the next line. -/
def steppedOver : Session :=
  { Session.fresh with
    funcs := [("f", ⟨[], ["return 1"]⟩)]
    debugger := { Debugger.idle with places := [("p", 1)] }
    input := ["n"]
    files := .withScript "p" ["stryset x (f())"] }

theorem answers_overruled :
    ¬ Disciplined (fileTrace 1 "p" steppedOnce) ∧ ¬ Disciplined (fileTrace 1 "p" steppedOver) := by
  have honce : fileTrace 1 "p" steppedOnce =
      [Event.pauses ⟨"p", 1, 0, true⟩, Event.answered ⟨"p", 1, 0, true⟩ Action.step,
        Event.pauses ⟨"p", 2, 0, false⟩] ++
      Event.answered ⟨"p", 2, 0, false⟩ Action.continue :: [] ++
      Event.pauses ⟨"p", 3, 0, false⟩ :: [Event.answered ⟨"p", 3, 0, false⟩ Action.continue] := by
    decide +kernel
  have hover : fileTrace 1 "p" steppedOver =
      [Event.pauses ⟨"p", 1, 0, true⟩] ++
      Event.answered ⟨"p", 1, 0, true⟩ Action.next :: [] ++
      Event.pauses ⟨"<func f>", 1, 1, false⟩ ::
        [Event.answered ⟨"<func f>", 1, 1, false⟩ Action.continue] := by
    decide +kernel
  rw [honce, hover]
  refine ⟨fun h => ?_, fun h => ?_⟩
  · obtain ⟨hcontinue, -⟩ := h _ _ _ _ _ _ rfl (by simp)
    exact absurd (hcontinue rfl) (by decide)
  · obtain ⟨-, hnext⟩ := h _ _ _ _ _ _ rfl (by simp)
    exact absurd (hnext rfl (by decide)) (by decide)

end LineScript
