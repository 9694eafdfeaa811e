import LineScript.Proofs.Congruence

/-!
# Talking to the user

What is printed and read, the dialogue of a pause and the builtins are made of few steps, one after the
other. A property of runs that sequences inherit from their parts holds for all of them as soon as it holds
for these steps: `Run.Sequential` says the former, `Run.Printing`, `Run.Talking` and `Run.Debugging` name the
steps.
-/

namespace LineScript

/-- A stream that is open gets closed, and any other number is refused. -/
theorem openStream_eq (number : Nat) (s : Session) :
    openStream number s =
      if s.streams.opens number then
        (.done (), { s with streams := { s.streams with closed := number :: s.streams.closed } })
      else (.failed .descriptor, s) := by
  change (if s.streams.opens number then _ else _ : Run Unit) s = _
  split <;> rfl

namespace Run

/-- A property of runs that sequences have if their parts have it. -/
structure Sequential (P : ∀ {α : Type}, Run α → Prop) : Prop where
  pure : ∀ {α : Type} (a : α), P (Pure.pure a : Run α)
  fail : ∀ {α : Type} (f : Fault), P (Run.fail f : Run α)
  get : P Run.get
  bind : ∀ {α β : Type} {m : Run α} {k : α → Run β}, P m → (∀ a, P (k a)) → P (m >>= k)

/-- A property that printing a text has too. -/
structure Printing (P : ∀ {α : Type}, Run α → Prop) : Prop extends Sequential P where
  write : ∀ text, P (LineScript.write text)

/-- A property that reading a line and opening a stream have too. -/
structure Talking (P : ∀ {α : Type}, Run α → Prop) : Prop extends Printing P where
  attempt : ∀ {α : Type} {m : Run α}, P m → P m.attempt
  readLine : ∀ prompt, P (LineScript.readLine prompt)
  openStream : ∀ number, P (LineScript.openStream number)
  readStream : ∀ number, P (LineScript.readStream number)

/-- A property that the changes have too which a command makes to the debugger. -/
structure Debugging (P : ∀ {α : Type}, Run α → Prop) : Prop extends Talking P where
  addLine : ∀ n, P (modifyDebugger (·.addLine n))
  addPlace : ∀ source n, P (modifyDebugger (·.addPlace source n))
  removeLine : ∀ n, P (modifyDebugger (·.removeLine n))
  addWatch : ∀ expr, P (modifyDebugger (·.addWatch expr))
  removeWatch : ∀ expr, P (modifyDebugger (·.removeWatch expr))

end Run

open Run

variable {P : ∀ {α : Type}, Run α → Prop}

namespace Run.Sequential

variable (hP : Sequential P)

include hP

theorem ofResult {α : Type} (r : Result α) : P (Run.ofResult r) := by
  cases r with
  | ok a => exact hP.pure a
  | error f => exact hP.fail f

theorem congruence : Congruence fun {_} m _ => P m where
  pure := hP.pure
  fail := hP.fail
  bind := hP.bind

end Run.Sequential

namespace Run.Printing

variable (hP : Printing P)

include hP

/-! ## Printing and reading -/

theorem printLine (text : String) : P (LineScript.printLine text) :=
  hP.write _

theorem printValues (vs : List Value) : P (LineScript.printValues vs) := by
  -- The gap is empty before the first value and a blank before all others.
  have hgo : ∀ vs gap, P (printValues.go gap vs) := by
    intro vs
    induction vs with
    | nil => exact fun _ => hP.pure _
    | cons v vs ih =>
      intro gap
      simp only [printValues.go]
      refine hP.bind (hP.write gap) fun _ => ?_
      cases v.text? with
      | some text => exact hP.bind (hP.write text) fun _ => ih " "
      | none => exact hP.bind (hP.fail _) fun _ => ih " "
  refine hP.bind hP.get fun s => ?_
  split
  · exact hP.bind (hgo vs "") fun _ => hP.write "\n"
  · exact hP.pure _

theorem printVars (words : List Value) : P (LineScript.printVars words) := by
  refine hP.bind hP.get fun s => ?_
  split
  · exact hP.printValues _
  · split
    · exact hP.pure _
    · split
      · exact hP.bind (hP.write _) fun _ => hP.fail _
      · exact hP.fail _

/-- Lines and streams are read by changing the input. -/
theorem talking (hattempt : ∀ {α : Type} {m : Run α}, P m → P m.attempt)
    (hinput : ∀ input streams, P (setInput input streams)) : Talking P := by
  have hopen : ∀ number, P (openStream number) := by
    intro number
    refine hP.bind hP.get fun s => ?_
    split
    · exact hinput _ _
    · exact hP.fail _
  refine ⟨hP, hattempt, fun prompt => ?_, hopen, fun number => ?_⟩
  · refine hP.bind (hP.write prompt) fun _ => hP.bind hP.get fun s => ?_
    split
    · exact hP.fail _
    · exact hP.bind (hinput _ _) fun _ => hP.pure _
  · refine hP.bind (hopen number) fun _ => ?_
    split
    · exact hP.bind hP.get fun s => hP.bind (hinput _ _) fun _ => hP.pure _
    · exact hP.fail _

end Run.Printing

namespace Run.Talking

variable (hP : Talking P)

include hP

theorem askLine (prompt : Value) : P (LineScript.askLine prompt) :=
  hP.bind (hP.ofResult _) fun text => hP.bind (hP.readLine text) fun _ => hP.pure _

/-! ## Builtins -/

theorem readFile (file : Value) : P (LineScript.readFile file) := by
  refine hP.bind (hP.ofResult _) fun handle => ?_
  cases handle with
  | stream number => exact hP.readStream number
  | path p shown => exact hP.bind hP.get fun _ => hP.ofResult _

theorem writeFile (hfiles : ∀ files, P (Run.modify fun s => { s with files := files }))
    (file content : Value) : P (LineScript.writeFile file content) := by
  refine hP.bind (hP.ofResult _) fun handle => ?_
  cases handle with
  | stream number =>
    exact hP.bind (hP.openStream number) fun _ => hP.bind (hP.ofResult _) fun _ => hP.pure _
  | path p shown =>
    refine hP.bind hP.get fun s => ?_
    refine hP.bind (hP.ofResult _) fun emptied => hP.bind (hfiles emptied) fun _ => ?_
    refine hP.bind (hP.ofResult _) fun text => hP.bind (hP.ofResult _) fun written => ?_
    exact hP.bind (hfiles written) fun _ => hP.pure _

theorem builtin (hfiles : ∀ files, P (Run.modify fun s => { s with files := files })) (b : Builtin)
    (args : List Value) : P (b.call args) := by
  unfold Builtin.call
  split
  · exact hP.ofResult _
  · split
    · exact hP.readFile _
    · exact hP.fail _
    · exact hP.fail _
    · exact hP.writeFile hfiles _ _
    · exact hP.fail _
    · exact hP.fail _
    · exact hP.fail _
    · exact hP.askLine _
    · exact hP.askLine _
    · exact hP.fail _

theorem callBuiltin {host : Host} (hhost : host.builtin = Builtin.call)
    (hfiles : ∀ files, P (Run.modify fun s => { s with files := files })) (name : String)
    (args : List Value) : P (LineScript.callBuiltin host name args) := by
  unfold LineScript.callBuiltin
  split
  · rw [hhost]
    exact hP.builtin hfiles _ args
  · exact hP.fail _

/-! ## Watches -/

theorem showWatches {call : Caller} (heval : ∀ text, P (evalText call text)) (watches : List String) :
    P (LineScript.showWatches call watches) := by
  induction watches with
  | nil => exact hP.pure _
  | cons w ws ih =>
    refine hP.bind ?_ fun _ => ih
    -- A watch that fails is shown as such, so its fault does not leave the pause.
    have hshown := hP.bind (heval w) fun v => hP.printValues [.str "   -", .str w, .str "=", v]
    refine hP.bind (hP.attempt hshown) fun shown => ?_
    cases shown with
    | ok _ => exact hP.pure _
    | error f => exact hP.printLine _

theorem listWatches {call : Caller} (heval : ∀ text, P (evalText call text)) (watches : List String) :
    P (LineScript.listWatches call watches) := by
  unfold LineScript.listWatches
  split
  · exact hP.pure _
  · exact hP.bind (hP.printLine _) fun _ => hP.showWatches heval _

end Run.Talking

namespace Run.Debugging

variable (hP : Debugging P)

include hP

/-! ## The dialogue of a pause -/

theorem setBreakpoint (arg : String) : P (LineScript.setBreakpoint arg) := by
  unfold LineScript.setBreakpoint
  split
  · refine hP.bind (hP.ofResult _) fun n => ?_
    exact hP.bind (hP.addPlace _ n) fun _ => hP.printLine _
  · refine hP.bind (hP.ofResult _) fun n => ?_
    exact hP.bind (hP.addLine n) fun _ => hP.printLine _

theorem deleteBreakpoint (arg : String) : P (LineScript.deleteBreakpoint arg) := by
  unfold LineScript.deleteBreakpoint
  split
  · exact hP.bind (hP.removeLine _) fun _ => hP.printLine _
  · exact hP.printLine _

theorem perform (c : Command) : P c.perform := by
  cases c with
  | go action => exact hP.pure _
  | breakAt arg => exact hP.setBreakpoint arg
  | delete arg => exact hP.deleteBreakpoint arg
  | stack => exact hP.bind hP.get fun s => hP.printVars _
  | watch expr => exact hP.bind (hP.addWatch expr) fun _ => hP.printLine _
  | unwatch expr => exact hP.removeWatch expr
  | vars => exact hP.printVars []
  | help => exact hP.printLine commandHelp
  | unknown => exact hP.printLine _

/-- A dialogue of any length has what each of its commands has. -/
theorem dialogue (fuel : Nat) : P (LineScript.dialogue fuel) := by
  induction fuel with
  | zero => exact hP.pure _
  | succ fuel ih =>
    refine hP.bind (hP.attempt (hP.readLine _)) fun r => ?_
    split
    · -- The end of the input lets the run go on.
      exact hP.pure _
    · exact hP.fail _
    · split
      · exact hP.pure _
      · exact hP.bind (hP.perform _) fun _ => ih

end Run.Debugging

end LineScript
