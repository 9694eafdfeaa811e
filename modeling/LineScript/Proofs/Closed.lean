import LineScript.Proofs.Blocks
import LineScript.Proofs.Loop
import LineScript.Proofs.Repl

/-!
# Closed sessions

A body is what stands before an `end`, so that no body holds one. A session is closed if that is so of
all its functions. Evaluation runs bodies only: in a closed session no definition in them finds its end,
and the functions stay as they are. A line outside of bodies may define a function, and the block that
it takes has no `end` either. So a session that starts closed stays closed, whatever is done in it.
-/

namespace LineScript

open Run

/-- No function of the session has an `end` in its body. -/
def Session.Closed (s : Session) : Prop :=
  s.funcs.All fun _ f => Endless f.body

instance (s : Session) : Decidable s.Closed :=
  inferInstanceAs (Decidable (s.funcs.All fun _ f => Endless f.body))

/-- A line of a body has no block. -/
theorem Place.block_of_endless {lines : List String} (h : Endless lines) (i : Nat) (source : String) :
    Place.block ⟨some lines, some i, source⟩ = .error .missingEnd :=
  Place.block_of_splitBlock_none (h.drop _).splitBlock_eq_none source

/-! ## Evaluation -/

section Evaluation

variable {funcs : Table Function} {call : Caller}

theorem hidesLines_funcs (funcs : Table Function) : HidesLines fun s => s.funcs = funcs where
  dialogue := fun _ _ _ _ _ => rfl
  scope := fun _ _ _ => rfl

/-- A body leaves the functions as they are if the calls in it do. -/
theorem runBody_funcs (hcall : ∀ name args, Preserves (·.funcs = funcs) (call name args)) (name : String)
    {f : Function} (hbody : Endless f.body) :
    Preserves (·.funcs = funcs) (runBody .standard call name f) := by
  have htext : ∀ text, Preserves (·.funcs = funcs) (evalText call text) := fun text =>
    evalText_preserves fun name _ => hcall name
  refine .bind (runFrom_preserves (fun i line _ => ?_) 0 0) fun _ => .pure _
  -- No line of the body has a block, so none defines a function and none takes a branch.
  have hblock := Place.block_of_endless hbody i ("<func " ++ name ++ ">")
  refine execLineWith_preserves (fun s hs => ?_) fun st _ => ?_
  · exact pauseIfAsked_preserves (hidesLines_funcs funcs).dialogue _ line hs fun w _ => htext w
  · refine Statement.exec_preserves (hidesLines_funcs funcs) (fun text _ => htext text) ?_ ?_
    · intro _ _ block stop hb
      rw [hblock] at hb
      cases hb
    · intro block stop hb
      rw [hblock] at hb
      cases hb

theorem callBody_funcs (hcall : ∀ name args, Preserves (·.funcs = funcs) (call name args)) (name : String)
    {f : Function} (hbody : Endless f.body) (args : List Value) :
    Preserves (·.funcs = funcs) (callBody .standard call name f args) := by
  by_cases harity : args.length = f.params.length
  · rw [callBody_of_length_eq name harity]
    exact inCall_preserves (hidesLines_funcs funcs) (runBody_funcs hcall name hbody) f args
  · rw [callBody_of_length_ne name harity]
    exact .fail _

/-- Calls leave the functions of a closed session as they are, however deeply they nest. -/
theorem callNamed_funcs (hclosed : funcs.All fun _ f => Endless f.body) (depth : Nat) (name : String)
    (args : List Value) : Preserves (·.funcs = funcs) (callNamed .standard depth name args) := by
  induction depth generalizing name args with
  | zero =>
    rw [callNamed_zero]
    exact callWith_preserves (hidesLines_funcs funcs).dialogue (fun _ _ => rfl) fun _ hs _ _ => hs
  | succ depth ih =>
    rw [callNamed_succ]
    refine callWith_preserves (hidesLines_funcs funcs).dialogue (fun _ _ => rfl) ?_
    rintro s rfl f hf
    exact callBody_funcs ih name (hclosed.get? hf) args s rfl

end Evaluation

section Sessions

variable {s : Session}

theorem evaluate_funcs (hs : s.Closed) (depth : Nat) (text : String) :
    (Host.standard.evaluate depth text s).2.funcs = s.funcs := by
  unfold Host.evaluate
  exact evalText_preserves (fun name _ => callNamed_funcs hs depth name) s rfl

theorem Expr.eval_funcs (hs : s.Closed) (depth : Nat) (e : Expr) :
    (e.eval (callNamed .standard depth) s).2.funcs = s.funcs :=
  Expr.eval_preserves (fun name _ => callNamed_funcs hs depth name) s rfl

theorem callFunction_funcs (hs : s.Closed) (depth : Nat) (name : String) (args : List Value) :
    (Host.standard.callFunction depth name args s).2.funcs = s.funcs := by
  cases hf : s.funcs.get? name with
  | none => rw [callFunction_of_none hf]
  | some f =>
    rw [callFunction_of_some hf]
    exact callBody_funcs (callNamed_funcs hs depth) name (hs.get? hf) args s rfl

end Sessions

/-! ## Lines -/

theorem Session.Closed.of_funcs {s t : Session} (hs : s.Closed) (h : t.funcs = s.funcs) : t.Closed := by
  unfold Session.Closed
  rw [h]
  exact hs

theorem hidesLines_closed : HidesLines Session.Closed where
  dialogue := fun _ _ _ _ _ => rfl
  scope := fun _ _ _ => rfl

theorem callNamed_closed (depth : Nat) (name : String) (args : List Value) :
    Preserves Session.Closed (callNamed .standard depth name args) :=
  fun s hs => hs.of_funcs (callNamed_funcs hs depth name args s rfl)

/-- A line defines nothing but blocks. -/
theorem linesCongruence_closed (depth : Nat) :
    LinesCongruence (fun {_} m _ => Preserves Session.Closed m) (fun _ => True) .standard .standard
      (callNamed .standard depth) (callNamed .standard depth) := by
  have htext : ∀ text, Preserves Session.Closed (evalText (callNamed .standard depth) text) := fun text =>
    evalText_preserves fun name _ => callNamed_closed depth name
  exact {
    toLineCongruence := hidesLines_closed.lineCongruence
    text := fun _ text _ => htext text
    define := fun _ _ _ hblock _ _ hs => Table.All.set hs hblock
    before := fun p line _ hs =>
      pauseIfAsked_preserves hidesLines_closed.dialogue p line hs fun w _ => htext w }

theorem execLine_closed (depth : Nat) (p : Place) (line : String) :
    Preserves Session.Closed (execLine .standard (callNamed .standard depth) p line) :=
  (linesCongruence_closed depth).execLine trivial fun _ _ _ _ _ => trivial

theorem execute_closed (p : Place) (line : String) : Preserves Session.Closed (execute p line) := by
  unfold execute callAny
  exact execLine_closed maxCallDepth p line

theorem runLines_closed (depth : Nat) (source : String) (lines : List String) :
    Preserves Session.Closed (runLines .standard (callNamed .standard depth) source lines) :=
  (linesCongruence_closed depth).runLines (fun _ _ => trivial) source

theorem runFile_closed (depth : Nat) (path : String) :
    Preserves Session.Closed (Host.standard.runFile depth path) := by
  refine .bind (.of_keeps .get) fun s => ?_
  dsimp only
  split
  · exact .bind (.of_keeps (printLine_keeps hidesLines_closed.dialogue _)) fun _ => .pure _
  · exact .bind (.of_keeps (.ofResult _)) fun lines => runLines_closed depth path lines

/-- A dialogue of lines and commands stays closed. -/
theorem Repl.run_closed : Preserves Session.Closed Repl.run :=
  Repl.run_preserves hidesLines_closed.dialogue (fun _ _ => rfl) (execute_closed _)

end LineScript
