import LineScript.Proofs.Frame

/-!
# Scope

Evaluating an expression leaves the variables, the depth of calls and the global registers as they
were, whatever it calls and however it ends. A line of a body may change the variables, so the
induction on the depth of calls alternates between two views of a session: what evaluation keeps, and
what executing a line keeps. A call gives back the variables that its body has changed.
-/

namespace LineScript

open Run

/-- Two sessions have the same variables in the same order, the same depth of calls and the same
global registers. -/
structure SameScope (s t : Session) : Prop where
  vars : t.vars = s.vars
  callDepth : t.callDepth = s.callDepth
  globals : t.globals = s.globals

def Session.scope (s : Session) : Table Value × Int × Table Value :=
  (s.vars, s.callDepth, s.globals)

def Session.surroundings (s : Session) : Int × Table Value :=
  (s.callDepth, s.globals)

theorem sameScope_of_scope_eq {s t : Session} (h : t.scope = s.scope) : SameScope s t := by
  simp only [Session.scope, Prod.mk.injEq] at h
  exact ⟨h.1, h.2.1, h.2.2⟩

/-! ## Bodies -/

variable {call : Caller}

theorem respected_surroundings (c : Int × Table Value) :
    Respected (fun _ => True) (Fixed Session.surroundings c) where
  names := sameNames_fixed _ c
  silent := by rintro s₁ _ ⟨rfl, -⟩; rfl
  funcs := by rintro s₁ _ ⟨rfl, -⟩; rfl
  callsOnly := fun _ _ _ _ _ _ _ => trivial
  setVars := by rintro s₁ _ vars ⟨rfl, h⟩; exact ⟨rfl, h⟩
  setFunc := by rintro s₁ _ name f ⟨rfl, h⟩ _; exact ⟨rfl, h⟩
  write := by
    rintro s₁ _ text ⟨rfl, h⟩
    exact ⟨rfl, (write_keeps (fun _ _ _ _ _ => rfl) text s₁).trans h⟩

/-- A body changes variables, but neither the depth of calls nor the global registers. -/
theorem runBody_keeps (hcall : ∀ name args, Keeps Session.scope (call name args)) (name : String)
    (f : Function) : Keeps Session.surroundings (runBody .standard call name f) := by
  -- What evaluation keeps includes what a line keeps.
  have hcall' : ∀ name args, Keeps Session.surroundings (call name args) := fun name args =>
    (hcall name args).comp Prod.snd
  refine keeps_iff_matches.mpr fun c => ?_
  refine runBody_matches (respected_surroundings c) (fun p line => ?_)
    (fun name _ args => keeps_iff_matches.mp (hcall' name args) c) (fun _ _ _ _ => trivial) name
  refine keeps_iff_matches.mp (fun s => ?_) c
  exact pauseIfAsked_keeps (fun _ _ _ _ _ => rfl) p line fun w _ =>
    evalText_keeps fun name _ => hcall' name

/-! ## Calls -/

/-- Leaving a call restores what its body was allowed to change. -/
theorem inCall_keeps {m : Run α} (h : Keeps Session.surroundings m) (f : Function)
    (args : List Value) : Keeps Session.scope (m.inCall f args) := by
  intro s
  have hbody := h (s.enter f args)
  change ((m (s.enter f args)).2.leave s).scope = s.scope
  simp only [Session.surroundings, Session.enter, Prod.mk.injEq] at hbody
  obtain ⟨hdepth, hglobals⟩ := hbody
  simp only [Session.scope, Session.leave, Session.enter, hdepth, hglobals]
  simp

theorem callBody_keeps (hcall : ∀ name args, Keeps Session.scope (call name args)) (name : String)
    (f : Function) (args : List Value) : Keeps Session.scope (callBody .standard call name f args) := by
  by_cases harity : args.length = f.params.length
  · rw [callBody_of_length_eq name harity]
    exact inCall_keeps (runBody_keeps hcall name f) f args
  · rw [callBody_of_length_ne name harity]
    exact .fail _

theorem callNamed_keeps (depth : Nat) (name : String) (args : List Value) :
    Keeps Session.scope (callNamed .standard depth name args) := by
  -- At depth zero only builtins are called, and a function is given up at once.
  induction depth generalizing name args with
  | zero =>
    rw [callNamed]
    refine .bind .get fun s => ?_
    split
    · exact fun _ => rfl
    · exact callBuiltin_keeps (fun _ _ _ _ _ => rfl) (fun _ _ => rfl) name args
  | succ depth ih =>
    rw [callNamed]
    refine .bind .get fun s => ?_
    split
    · exact callBody_keeps ih name _ args
    · exact callBuiltin_keeps (fun _ _ _ _ _ => rfl) (fun _ _ => rfl) name args

/-- Evaluating a text or an expression and calling a function leave the scope as it was, from every
session, at every depth of calls, and whether they give a value, fail or are given up. -/
theorem sameScope_after_evaluation (depth : Nat) (s : Session) :
    (∀ text, SameScope s (Host.standard.evaluate depth text s).2) ∧
    (∀ e : Expr, SameScope s (e.eval (callNamed .standard depth) s).2) ∧
    (∀ name args, SameScope s (Host.standard.callFunction depth name args s).2) := by
  have hcall := callNamed_keeps depth
  refine ⟨fun text => ?_, fun e => ?_, fun name args => ?_⟩
  · exact sameScope_of_scope_eq (evalText_keeps (fun name _ => hcall name) s)
  · exact sameScope_of_scope_eq (Expr.eval_keeps (fun name _ => hcall name) s)
  · refine sameScope_of_scope_eq ((?_ : Keeps Session.scope _) s)
    refine .bind .get fun t => ?_
    split
    · exact callBody_keeps hcall name _ args
    · exact .fail _

end LineScript
