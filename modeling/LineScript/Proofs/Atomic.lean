import LineScript.Proofs.Closed
import LineScript.Proofs.Quiet
import LineScript.Proofs.Scope

/-!
# Lines on their own

A line that stands in no script, as in a dialogue, is carried out as a whole or not at all. What it
evaluates leaves the variables and the functions of a closed session as they were, and so does a pause
before it. A header finds no block behind it and fails. The only change that is left is the assignment of a
variable. It is the last step of its line, so that nothing can fail behind it.
-/

namespace LineScript

open Run

/-- The place of a line that stands in no script. -/
def Place.alone : Place :=
  ⟨none, none, unnamedSource⟩

/-- What evaluation keeps in a closed session. -/
def Session.bindings (s : Session) : (Table Value × Int × Table Value) × Table Function :=
  (s.scope, s.funcs)

theorem Session.bindings_eq_iff {s t : Session} :
    t.bindings = s.bindings ↔ SameScope s t ∧ t.funcs = s.funcs := by
  constructor
  · intro h
    exact ⟨sameScope_of_scope_eq (congrArg Prod.fst h), congrArg Prod.snd h⟩
  · rintro ⟨hscope, hfuncs⟩
    simp only [Session.bindings, Session.scope, hscope.vars, hscope.callDepth, hscope.globals, hfuncs]

/-! ## What is evaluated before a change -/

section Evaluation

variable {s : Session}

theorem hidesDialogue_bindings (s : Session) : HidesDialogue fun t => t.bindings = s.bindings :=
  fun _ _ _ _ _ => rfl

theorem callNamed_bindings (closed : s.Closed) (depth : Nat) (name : String) (args : List Value) :
    Preserves (fun t => t.bindings = s.bindings) (callNamed .standard depth name args) := by
  intro t ht
  -- The session that is called in is closed as well, for it has the same functions.
  have hclosed : t.Closed := closed.of_funcs (congrArg Prod.snd ht)
  have hscope := callNamed_keeps depth name args t
  have hfuncs := callNamed_funcs hclosed depth name args t rfl
  exact (Prod.ext hscope hfuncs : _ = t.bindings).trans ht

theorem evalText_bindings (closed : s.Closed) (depth : Nat) (text : String) :
    Preserves (fun t => t.bindings = s.bindings) (evalText (callNamed .standard depth) text) :=
  evalText_preserves fun name _ => callNamed_bindings closed depth name

/-- A pause leaves the bindings alone, although its watches call functions. -/
theorem pauseIfAsked_bindings (closed : s.Closed) (depth : Nat) (p : Place) (line : String) :
    (pauseIfAsked (callNamed .standard depth) p line s).2.bindings = s.bindings := by
  apply pauseIfAsked_preserves (hidesDialogue_bindings s) p line rfl
  intro w _
  exact evalText_bindings closed depth w

end Evaluation

/-! ## Statements without a block -/

section Statements

variable {call : Caller} {run : List String → Run (Option Value)} {p : Place} {Inv : Session → Prop}
  {f : Fault}

/-- Where no block is found, a statement that assigns nothing preserves what its texts preserve. -/
theorem Statement.exec_preserves_of_no_block (hInv : HidesDialogue Inv) (hblock : p.block = .error f)
    (htext : ∀ text, Preserves Inv (evalText call text)) {st : Statement}
    (hst : ∀ name expr, st ≠ .assign name expr) : Preserves Inv (st.exec call run p) := by
  cases st with
  | assign name expr => exact absurd rfl (hst name expr)
  | print expr =>
    apply Preserves.bind (htext expr)
    intro v
    exact .bind (.of_keeps (printValues_keeps hInv [v])) fun _ => .pure _
  | define name params =>
    rw [Statement.exec, hblock]
    exact .fail f
  | giveBack expr => exact .bind (htext expr) fun v => .pure _
  | branch condition =>
    -- The condition is evaluated before the block is looked for.
    apply Preserves.bind (htext condition)
    intro c
    rw [hblock]
    exact .fail f

end Statements

/-! ## Lines -/

/-- How a line on its own ends, and what it leaves behind: the bindings that it found, or these with the
variable that it names set to the value of its expression. -/
inductive CarriedOut (call : Caller) (line : String) (s : Session) :
    Outcome LineResult → Session → Prop where
  | unchanged {o : Outcome LineResult} {t : Session} (hsame : t.bindings = s.bindings)
      (hassigns : ∀ r, o = .done r →
        ∀ name expr, Statement.ofLine? (Text.strip line) ≠ some (.assign name expr)) :
      CarriedOut call line s o t
  | assigned {name expr : String} {v : Value} {t u : Session}
      (hline : Statement.ofLine? (Text.strip line) = some (.assign name expr))
      (hstart : t.bindings = s.bindings) (hvalue : evalText call expr t = (.done v, u))
      (hsame : u.bindings = s.bindings) :
      CarriedOut call line s (.done .next) { u with vars := u.vars.set name v }

section Lines

variable {call : Caller} {s t : Session} {line : String}

/-- What comes before a change leaves the bindings alone, and if it fails, nothing comes behind it. -/
theorem CarriedOut.bind {m : Run α} {k : α → Run LineResult} (hm : (m t).2.bindings = s.bindings)
    (hk : ∀ a u, m t = (.done a, u) → CarriedOut call line s (k a u).1 (k a u).2) :
    CarriedOut call line s ((m >>= k) t).1 ((m >>= k) t).2 := by
  simp only [Bind.bind, Run.bind]
  rcases hrun : m t with ⟨o, u⟩
  rw [hrun] at hm
  cases o with
  | done a => exact hk a u hrun
  | failed f =>
    apply CarriedOut.unchanged hm
    intro r hr
    cases hr
  | unfinished =>
    apply CarriedOut.unchanged hm
    intro r hr
    cases hr

/-- A statement on its own, after the pause before it. -/
theorem Statement.carriedOut {st : Statement} (closed : s.Closed) (depth : Nat)
    (run : List String → Run (Option Value)) (hst : Statement.ofLine? (Text.strip line) = some st)
    (ht : t.bindings = s.bindings) :
    CarriedOut (callNamed .standard depth) line s (st.exec (callNamed .standard depth) run .alone t).1
      (st.exec (callNamed .standard depth) run .alone t).2 := by
  have htext := evalText_bindings closed depth
  by_cases hassign : ∃ name expr, st = .assign name expr
  · obtain ⟨name, expr, rfl⟩ := hassign
    -- Only if the expression has a value is there something to assign.
    apply CarriedOut.bind (htext expr t ht)
    intro v u hvalue
    have hafter := htext expr t ht
    rw [hvalue] at hafter
    exact .assigned hst ht hvalue hafter
  · have hother : ∀ name expr, st ≠ .assign name expr := by
      intro name expr h
      exact hassign ⟨name, expr, h⟩
    have hkeeps : Preserves (fun t => t.bindings = s.bindings)
        (st.exec (callNamed .standard depth) run .alone) :=
      Statement.exec_preserves_of_no_block (hidesDialogue_bindings s) rfl htext hother
    apply CarriedOut.unchanged (hkeeps t ht)
    intro r _ name expr hline
    exact hother name expr (Option.some.inj (hst.symm.trans hline))

/-- A line on its own is carried out as a whole or not at all. -/
theorem execLine_carriedOut (closed : s.Closed) (depth : Nat) (line : String) :
    CarriedOut (callNamed .standard depth) line s
      (execLine .standard (callNamed .standard depth) .alone line s).1
      (execLine .standard (callNamed .standard depth) .alone line s).2 := by
  simp only [execLine, execLineWith]
  split
  · -- An empty line and a comment assign nothing.
    rename_i hvoid
    apply CarriedOut.unchanged rfl
    intro r _ name expr hline
    rw [Statement.ofLine?_of_isVoid hvoid] at hline
    cases hline
  · have hpause := pauseIfAsked_bindings closed depth .alone line
    apply CarriedOut.bind hpause
    intro _ t hbefore
    have ht : t.bindings = s.bindings := by rwa [hbefore] at hpause
    cases hst : Statement.ofLine? (Text.strip line) with
    | none =>
      apply CarriedOut.unchanged ht
      intro r _ name expr hline
      rw [hst] at hline
      cases hline
    | some st => exact Statement.carriedOut closed depth _ hst ht

end Lines

/-- A line that stands in no script, executed in a closed session with any debugger and at any depth of calls,
leaves the functions and the depth of calls as they were. If it ends without a result, it also leaves the
variables as they were. If it has a result, then only an assignment has changed them: it has set the variable
that it names to the value of its expression, and no other. -/
theorem lone_line_atomic (depth : Nat) {s : Session} (closed : s.Closed) (line : String) :
    let after := execLine .standard (callNamed .standard depth) .alone line s
    after.2.funcs = s.funcs ∧ after.2.callDepth = s.callDepth ∧
    (after.1.isDone = false → after.2.vars = s.vars) ∧
    (after.1.isDone = true →
      (∀ name expr, Statement.ofLine? (Text.strip line) = some (.assign name expr) →
        ∃ t u v, SameScope s t ∧ t.funcs = s.funcs ∧
          Host.standard.evaluate depth expr t = (.done v, u) ∧ after.2.vars = s.vars.set name v) ∧
      ((∀ name expr, Statement.ofLine? (Text.strip line) ≠ some (.assign name expr)) →
        after.2.vars = s.vars)) := by
  have hline := execLine_carriedOut closed depth line
  dsimp only
  generalize (execLine .standard (callNamed .standard depth) .alone line s).1 = o,
    (execLine .standard (callNamed .standard depth) .alone line s).2 = t at hline ⊢
  cases hline with
  | unchanged hsame hassigns =>
    obtain ⟨hscope, hfuncs⟩ := Session.bindings_eq_iff.mp hsame
    refine ⟨hfuncs, hscope.callDepth, fun _ => hscope.vars, fun hdone => ⟨?_, fun _ => hscope.vars⟩⟩
    intro name expr hst
    cases o with
    | done r => exact absurd hst (hassigns r rfl name expr)
    | failed f => cases hdone
    | unfinished => cases hdone
  | @assigned name expr v t u hst hstart hvalue hsame =>
    obtain ⟨hscope, hfuncs⟩ := Session.bindings_eq_iff.mp hsame
    obtain ⟨hscope', hfuncs'⟩ := Session.bindings_eq_iff.mp hstart
    refine ⟨hfuncs, hscope.callDepth, fun hdone => (by cases hdone), fun _ => ⟨?_, ?_⟩⟩
    · intro name' expr' hst'
      obtain ⟨rfl, rfl⟩ : name = name' ∧ expr = expr' := by simpa [hst] using hst'
      exact ⟨t, u, v, hscope', hfuncs', hvalue, by rw [hscope.vars]⟩
    · intro hother
      exact absurd hst (hother name expr)

/-- A function that sets two variables, one of them of its caller, and then fails. -/
def halfDone : Function :=
  ⟨["n"], ["stryset x (n)", "stryset y (n + 1)", "return y / 0"]⟩

/-- A function that sets a variable of its caller. -/
def doubled : Function :=
  ⟨["n"], ["stryset x (n)", "return x * 2"]⟩

/-- A session that pauses before every line outside of scripts and in the midst of a function, and shows the
value of a call there. -/
def meddling : Session :=
  { Session.fresh with
    vars := [("x", .int 1)]
    funcs := [("half", halfDone), ("double", doubled)]
    debugger := { Debugger.idle with lines := [0], places := [("<func half>", 2)], watches := ["double(5)"] }
    input := ["vars", "c", "bt"] }

theorem meddling_lines_atomic :
    meddling.Closed ∧
    (execLine .standard (callNamed .standard 2) .alone "stryset x (half(3))" meddling).2.vars =
      [("x", .int 1)] ∧
    ∃ v, (execLine .standard (callNamed .standard 2) .alone "stryset z (double(3))" meddling).2.vars =
      [("x", .int 1), ("z", v)] := by
  have hclosed : meddling.Closed := by decide +kernel
  obtain ⟨-, -, hfails, -⟩ := lone_line_atomic 2 hclosed "stryset x (half(3))"
  obtain ⟨-, -, -, hdone⟩ := lone_line_atomic 2 hclosed "stryset z (double(3))"
  have hline : Statement.ofLine? (Text.strip "stryset z (double(3))") = some (.assign "z" "double(3)") := by
    decide +kernel
  obtain ⟨t, u, v, -, -, -, hvars⟩ := (hdone (by decide +kernel)).1 _ _ hline
  exact ⟨hclosed, hfails (by decide +kernel), v, hvars⟩

end LineScript
