import LineScript.Proofs.Blocks
import LineScript.Proofs.Mentions

/-!
# Congruences of runs

A relation between runs is a congruence if equal ends are related, and sequences of related runs are
again. Expressions, statements and loops over lines respect every congruence: they are related on both
sides as soon as the names that they read, the calls that they make and the changes that they make to a
session are. Simulations of one run by another, invariants and bounds on the depth of calls are all
congruences.
-/

namespace LineScript

namespace Run

/-- A relation that holds between equal ends and between sequences of related runs. -/
structure Congruence (P : ∀ {α : Type}, Run α → Run α → Prop) : Prop where
  pure : ∀ {α : Type} (a : α), P (Pure.pure a : Run α) (Pure.pure a)
  fail : ∀ {α : Type} (f : Fault), P (Run.fail f : Run α) (Run.fail f)
  bind : ∀ {α β : Type} {m₁ m₂ : Run α} {k₁ k₂ : α → Run β}, P m₁ m₂ → (∀ a, P (k₁ a) (k₂ a)) →
    P (m₁ >>= k₁) (m₂ >>= k₂)

/-- A congruence that also relates the changes that a line makes by itself. -/
structure LineCongruence (P : ∀ {α : Type}, Run α → Run α → Prop) : Prop extends Congruence P where
  assign : ∀ name v, P (Run.modify fun s => { s with vars := s.vars.set name v })
    (Run.modify fun s => { s with vars := s.vars.set name v })
  print : ∀ v, P (printValues [v]) (printValues [v])

def lookup (id : String) : Run Value :=
  fun s => Run.ofResult (s.lookup id) s

/-- The value of a text that is no expression. -/
def lookupText (text : String) : Run Value :=
  fun s => (.done (s.lookupText text), s)

variable {P : ∀ {α : Type}, Run α → Run α → Prop}

namespace Congruence

theorem ofResult (hP : Congruence P) {α : Type} (r : Result α) :
    P (Run.ofResult r) (Run.ofResult r) := by
  cases r with
  | ok a => exact hP.pure a
  | error f => exact hP.fail f

/-- What follows a result has to be related only for the value that the result is. -/
theorem ofResult_bind (hP : Congruence P) {α β : Type} {r : Result α} {k₁ k₂ : α → Run β}
    (hk : ∀ a, r = .ok a → P (k₁ a) (k₂ a)) :
    P (Run.ofResult r >>= k₁) (Run.ofResult r >>= k₂) := by
  cases r with
  | ok a => exact hk a rfl
  | error f => exact hP.fail f

end Congruence

end Run

open Run

variable {P : ∀ {α : Type}, Run α → Run α → Prop} {call₁ call₂ : Caller}

/-! ## Expressions -/

/-- Reading a name gives related runs, both in an expression and as a whole text. -/
structure Readable (P : ∀ {α : Type}, Run α → Run α → Prop) (name : String) : Prop where
  lookup : P (Run.lookup name) (Run.lookup name)
  lookupText : P (Run.lookupText name) (Run.lookupText name)

/-- The calls of a name are related, whatever the arguments are. -/
def Callable (P : ∀ {α : Type}, Run α → Run α → Prop) (call₁ call₂ : Caller) (name : String) :
    Prop :=
  ∀ args, P (call₁ name args) (call₂ name args)

mutual

theorem Expr.eval_congr (hP : Congruence P) :
    (e : Expr) → (∀ id ∈ e.names, Readable P id) → (∀ name ∈ e.callees, Callable P call₁ call₂ name) →
      P (e.eval call₁) (e.eval call₂)
  | .const v, _, _ => by
    simp only [Expr.eval]
    exact hP.pure v
  | .name id, hname, _ => by
    simp only [Expr.eval]
    exact (hname id (by simp [Expr.names])).lookup
  | .binary op left right, hname, hcall => by
    simp only [Expr.names, List.mem_append] at hname
    simp only [Expr.callees, List.mem_append] at hcall
    simp only [Expr.eval]
    refine hP.bind ?_ fun a => hP.bind ?_ fun b => hP.ofResult _
    · exact Expr.eval_congr hP left (fun n hn => hname n (.inl hn)) fun n hn => hcall n (.inl hn)
    · exact Expr.eval_congr hP right (fun n hn => hname n (.inr hn)) fun n hn => hcall n (.inr hn)
  | .unary op operand, hname, hcall => by
    simp only [Expr.names] at hname
    simp only [Expr.callees] at hcall
    simp only [Expr.eval]
    exact hP.bind (Expr.eval_congr hP operand hname hcall) fun a => hP.ofResult _
  | .boolean op operands, hname, hcall => by
    simp only [Expr.names] at hname
    simp only [Expr.callees] at hcall
    simp only [Expr.eval]
    exact hP.bind (Expr.evalAll_congr hP operands hname hcall) fun vs => hP.pure _
  | .compare first ops rest, hname, hcall => by
    simp only [Expr.names, List.mem_append] at hname
    simp only [Expr.callees, List.mem_append] at hcall
    simp only [Expr.eval]
    refine hP.bind ?_ fun a => hP.bind ?_ fun b => hP.pure _
    · exact Expr.eval_congr hP first (fun n hn => hname n (.inl hn)) fun n hn => hcall n (.inl hn)
    · exact Expr.evalChain_congr hP a ops rest (fun n hn => hname n (.inr hn))
        fun n hn => hcall n (.inr hn)
  | .call function args, hname, hcall => by
    simp only [Expr.names] at hname
    simp only [Expr.callees, List.mem_cons] at hcall
    simp only [Expr.eval]
    refine hP.bind ?_ fun vs => hcall function (.inl rfl) vs
    exact Expr.evalAll_congr hP args hname fun n hn => hcall n (.inr hn)
  | .callOther, _, _ => by
    simp only [Expr.eval]
    exact hP.fail _
  | .refused form, _, _ => by
    simp only [Expr.eval]
    exact hP.fail _

theorem Expr.evalAll_congr (hP : Congruence P) :
    (es : List Expr) → (∀ id ∈ Expr.namesAll es, Readable P id) →
      (∀ name ∈ Expr.calleesAll es, Callable P call₁ call₂ name) →
      P (Expr.evalAll call₁ es) (Expr.evalAll call₂ es)
  | [], _, _ => by
    simp only [Expr.evalAll]
    exact hP.pure _
  | e :: es, hname, hcall => by
    simp only [Expr.namesAll, List.mem_append] at hname
    simp only [Expr.calleesAll, List.mem_append] at hcall
    simp only [Expr.evalAll]
    refine hP.bind ?_ fun v => hP.bind ?_ fun vs => hP.pure _
    · exact Expr.eval_congr hP e (fun n hn => hname n (.inl hn)) fun n hn => hcall n (.inl hn)
    · exact Expr.evalAll_congr hP es (fun n hn => hname n (.inr hn)) fun n hn => hcall n (.inr hn)

theorem Expr.evalChain_congr (hP : Congruence P) (left : Value) :
    (ops : List CompareOp) → (es : List Expr) → (∀ id ∈ Expr.namesAll es, Readable P id) →
      (∀ name ∈ Expr.calleesAll es, Callable P call₁ call₂ name) →
      P (Expr.evalChain call₁ left ops es) (Expr.evalChain call₂ left ops es)
  | op :: ops, e :: es, hname, hcall => by
    simp only [Expr.namesAll, List.mem_append] at hname
    simp only [Expr.calleesAll, List.mem_append] at hcall
    simp only [Expr.evalChain]
    refine hP.bind ?_ fun right => hP.bind (hP.ofResult _) fun b => ?_
    · exact Expr.eval_congr hP e (fun n hn => hname n (.inl hn)) fun n hn => hcall n (.inl hn)
    · -- The operands after a false link are evaluated on neither side.
      cases b with
      | true =>
        exact Expr.evalChain_congr hP right ops es (fun n hn => hname n (.inr hn))
          fun n hn => hcall n (.inr hn)
      | false => exact hP.pure _
  | [], _, _, _ => by
    simp only [Expr.evalChain]
    exact hP.pure _
  | _ :: _, [], _, _ => by
    simp only [Expr.evalChain]
    exact hP.pure _

end

theorem evalText_of_quoted {call : Caller} {text : String}
    (h : isQuoted (Text.strip text) = true) :
    evalText call text = pure (.str (unquoted (Text.strip text))) := by
  simp [evalText, h]

theorem evalText_of_parse_some {call : Caller} {text : String} {e : Expr}
    (h : isQuoted (Text.strip text) = false) (hparse : Expr.parse? (Text.strip text) = some e) :
    evalText call text = e.eval call := by
  simp [evalText, h, hparse]

theorem evalText_of_parse_none {call : Caller} {text : String}
    (h : isQuoted (Text.strip text) = false) (hparse : Expr.parse? (Text.strip text) = none) :
    evalText call text = Run.lookupText (Text.strip text) := by
  simp only [evalText, h, hparse]
  rfl

/-- Texts are related if the names and the calls in them are. -/
theorem evalText_congr (hP : Congruence P) {text : String} (hname : ∀ id ∈ textNames text, Readable P id)
    (hcall : ∀ name ∈ textCallees text, Callable P call₁ call₂ name) :
    P (evalText call₁ text) (evalText call₂ text) := by
  unfold textNames at hname
  unfold textCallees at hcall
  cases hquoted : isQuoted (Text.strip text) with
  | true =>
    -- Quoted text is its own value: no name is read, whatever it would mean as an expression.
    rw [evalText_of_quoted hquoted, evalText_of_quoted hquoted]
    exact hP.pure _
  | false =>
    cases hparse : Expr.parse? (Text.strip text) with
    | some e =>
      simp only [hparse] at hname hcall
      rw [evalText_of_parse_some hquoted hparse, evalText_of_parse_some hquoted hparse]
      exact Expr.eval_congr hP e hname hcall
    | none =>
      simp only [hparse] at hname
      rw [evalText_of_parse_none hquoted hparse, evalText_of_parse_none hquoted hparse]
      exact (hname _ List.mem_cons_self).lookupText

/-! ## Lines -/

variable {run₁ run₂ : List String → Run (Option Value)} {p : Place}

/-- A statement respects a congruence if its texts, its definition and its block do. -/
theorem Statement.exec_congr (hP : LineCongruence P) {st : Statement}
    (htext : ∀ text ∈ st.texts, P (evalText call₁ text) (evalText call₂ text))
    (hdefine : ∀ name params block stop, p.block = .ok (block, stop) →
      P (Run.modify fun s => { s with funcs := s.funcs.set name ⟨params, block⟩ })
        (Run.modify fun s => { s with funcs := s.funcs.set name ⟨params, block⟩ }))
    (hrun : ∀ block stop, p.block = .ok (block, stop) → P (run₁ block) (run₂ block)) :
    P (st.exec call₁ run₁ p) (st.exec call₂ run₂ p) := by
  cases st with
  | assign name expr =>
    refine hP.bind (htext expr (by simp [Statement.texts])) fun v => ?_
    exact hP.bind (hP.assign name v) fun _ => hP.pure _
  | print expr =>
    refine hP.bind (htext expr (by simp [Statement.texts])) fun v => ?_
    exact hP.bind (hP.print v) fun _ => hP.pure _
  | define name params =>
    refine hP.ofResult_bind fun b hb => ?_
    exact hP.bind (hdefine name params b.1 b.2 hb) fun _ => hP.pure _
  | giveBack expr =>
    exact hP.bind (htext expr (by simp [Statement.texts])) fun v => hP.pure _
  | branch condition =>
    refine hP.bind (htext condition (by simp [Statement.texts])) fun c => ?_
    refine hP.ofResult_bind fun b hb => ?_
    dsimp only
    split
    · refine hP.bind (hrun b.1 b.2 hb) fun given => ?_
      cases given with
      | some v => exact hP.pure _
      | none => exact hP.pure _
    · exact hP.pure _

variable {host₁ host₂ : Host}

/-- A line respects a congruence if what happens before it and its statement do. -/
theorem execLineWith_congr (hP : Congruence P) {line : String}
    (hbefore : P (host₁.beforeLine call₁ p line) (host₂.beforeLine call₂ p line))
    (hst : ∀ st, Statement.ofLine? (Text.strip line) = some st →
      P (st.exec call₁ run₁ p) (st.exec call₂ run₂ p)) :
    P (execLineWith host₁ call₁ run₁ p line) (execLineWith host₂ call₂ run₂ p line) := by
  simp only [execLineWith]
  split
  · exact hP.pure _
  · refine hP.bind hbefore fun _ => ?_
    cases hline : Statement.ofLine? (Text.strip line) with
    | none => exact hP.pure _
    | some st => exact hst st hline

theorem runFrom_congr (hP : Congruence P) {exec₁ exec₂ : Nat → String → Run LineResult}
    {lines : List String} (h : ∀ i, ∀ line ∈ lines, P (exec₁ i line) (exec₂ i line)) (skip i : Nat) :
    P (runFrom exec₁ skip i lines) (runFrom exec₂ skip i lines) := by
  induction lines generalizing skip i with
  | nil => exact hP.pure _
  | cons line rest ih =>
    have ih := ih fun i l hl => h i l (List.mem_cons_of_mem _ hl)
    cases skip with
    | succ skip => exact ih skip (i + 1)
    | zero =>
      refine hP.bind (h i line List.mem_cons_self) fun r => ?_
      cases r with
      | next => exact ih 0 (i + 1)
      | jump j =>
        -- Both sides got the same result, so they skip the same number of lines.
        exact ih _ (i + 1)
      | returned v => exact hP.pure _

/-! ## Runs of lines -/

/-- A congruence for all lines that are `ok`: it relates their texts, the definitions of functions with
such lines in their bodies, and what happens before a line. -/
structure LinesCongruence (P : ∀ {α : Type}, Run α → Run α → Prop) (ok : String → Prop)
    (host₁ host₂ : Host) (call₁ call₂ : Caller) : Prop extends LineCongruence P where
  text : ∀ {line}, ok line → ∀ text ∈ lineTexts line, P (evalText call₁ text) (evalText call₂ text)
  define : ∀ name params block, Endless block → (∀ line ∈ block, ok line) →
    P (Run.modify fun s => { s with funcs := s.funcs.set name ⟨params, block⟩ })
      (Run.modify fun s => { s with funcs := s.funcs.set name ⟨params, block⟩ })
  before : ∀ p line, P (host₁.beforeLine call₁ p line) (host₂.beforeLine call₂ p line)

namespace LinesCongruence

variable {ok : String → Prop}

theorem execLineWith (hP : LinesCongruence P ok host₁ host₂ call₁ call₂) {line : String} (hline : ok line)
    (hblock : ∀ block stop, p.block = .ok (block, stop) → ∀ l ∈ block, ok l)
    (hrun : ∀ block, (∀ l ∈ block, ok l) → P (run₁ block) (run₂ block)) :
    P (execLineWith host₁ call₁ run₁ p line) (execLineWith host₂ call₂ run₂ p line) := by
  refine execLineWith_congr hP.toCongruence (hP.before p line) fun st hst => ?_
  -- A definition stores the block that it takes, and a branch runs it.
  refine Statement.exec_congr hP.toLineCongruence (fun text htext => ?_)
    (fun name params block stop hb => ?_) fun block stop hb => hrun block (hblock block stop hb)
  · exact hP.text hline text (lineTexts_of_statement hst ▸ htext)
  · exact hP.define name params block (Place.endless_of_block hb) (hblock block stop hb)

theorem runLinesWith (hP : LinesCongruence P ok host₁ host₂ call₁ call₂) {lines : List String}
    (hlines : ∀ l ∈ lines, ok l) (hrun : ∀ block, (∀ l ∈ block, ok l) → P (run₁ block) (run₂ block))
    (source : String) :
    P (runLinesWith host₁ call₁ run₁ source lines) (runLinesWith host₂ call₂ run₂ source lines) := by
  refine runFrom_congr hP.toCongruence (fun i line hline => ?_) 0 0
  -- A block is made of lines around the header.
  refine hP.execLineWith (hlines line hline) (fun block stop hb l hl => ?_) hrun
  exact hlines l (Place.mem_of_mem_block rfl hb hl)

/-- Blocks do not nest: inside of one, a branch finds no end. -/
theorem runBlock (hP : LinesCongruence P ok host₁ host₂ call₁ call₂) (block : List String)
    (hblock : ∀ l ∈ block, ok l) : P (runBlock host₁ call₁ block) (runBlock host₂ call₂ block) :=
  hP.runLinesWith hblock (fun _ _ => hP.fail _) unnamedSource

theorem execLine (hP : LinesCongruence P ok host₁ host₂ call₁ call₂) {line : String} (hline : ok line)
    (hblock : ∀ block stop, p.block = .ok (block, stop) → ∀ l ∈ block, ok l) :
    P (execLine host₁ call₁ p line) (execLine host₂ call₂ p line) :=
  hP.execLineWith hline hblock hP.runBlock

theorem runLines (hP : LinesCongruence P ok host₁ host₂ call₁ call₂) {lines : List String}
    (hlines : ∀ l ∈ lines, ok l) (source : String) :
    P (runLines host₁ call₁ source lines) (runLines host₂ call₂ source lines) :=
  hP.runLinesWith hlines hP.runBlock source

theorem runBody (hP : LinesCongruence P ok host₁ host₂ call₁ call₂) {f : Function}
    (hbody : ∀ l ∈ f.body, ok l) (name : String) :
    P (runBody host₁ call₁ name f) (runBody host₂ call₂ name f) :=
  hP.bind (hP.runLines hbody _) fun _ => hP.pure _

end LinesCongruence

end LineScript
