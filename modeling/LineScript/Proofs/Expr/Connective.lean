import LineScript.Proofs.Quiet
import Mathlib

/-!
# Boolean operators and chains of comparisons

The usual meaning of a boolean operator evaluates its operands up to the first one that decides, and gives
the value of that operand. Evaluation goes on instead to the last operand and gives a truth value. The two
are the same exactly if the operand at which evaluation could stop has a truth value for its value, and the
operands behind it have values and no effects.

A chain of comparisons stops at its first false link, and the conjunction of its links does not. Without
calls nothing else tells them apart: where the conjunction has a value the chain has the same one, and where
the chain fails the conjunction fails in the same way.
-/

namespace LineScript

open Run

/-! ## Operators that stop -/

/-- Whether the value of an operand decides: a false one decides `and`, and a true one decides `or`. -/
def BoolOp.decidedBy : BoolOp → Value → Bool
  | .and, v => !v.truthy
  | .or, v => v.truthy

/-- The operator between two values: the first one if it decides, and else the second. -/
def BoolOp.pick (op : BoolOp) (a b : Value) : Value :=
  if op.decidedBy a then a else b

/-- The value of the first operand that decides, or else of the last one. The operands behind it are not
evaluated. -/
def Expr.evalUntil (call : Caller) (op : BoolOp) : Expr → List Expr → Run Value
  | e, [] => e.eval call
  | e, next :: rest => do
    let v ← e.eval call
    if op.decidedBy v then return v else Expr.evalUntil call op next rest

/-- From session `s`, the operands can be evaluated up to one with value `v`, in session `t` after it, at
which evaluation could stop: the first one that decides, or else the last. Behind it stand `back`. -/
inductive StopsAt (call : Caller) (op : BoolOp) :
    List Expr → Session → Value → List Expr → Session → Prop where
  | last {e : Expr} {s t : Session} {v : Value} (h : e.eval call s = (.done v, t)) :
      StopsAt call op [e] s v [] t
  | decided {e : Expr} {back : List Expr} {s t : Session} {v : Value} (h : e.eval call s = (.done v, t))
      (hv : op.decidedBy v = true) : StopsAt call op (e :: back) s v back t
  | later {e : Expr} {es back : List Expr} {s t u : Session} {v w : Value}
      (h : e.eval call s = (.done v, t)) (hv : op.decidedBy v = false)
      (hrest : StopsAt call op es t w back u) : StopsAt call op (e :: es) s w back u

section Operators

variable {call : Caller} {op : BoolOp} {e : Expr} {es back : List Expr} {s t : Session} {v : Value}

theorem BoolOp.apply_of_decided (hv : op.decidedBy v = true) (vs : List Value) :
    op.apply (v :: vs) = v.truthy := by
  cases op <;> simp_all [BoolOp.decidedBy, BoolOp.apply]

theorem BoolOp.apply_of_not_decided (hv : op.decidedBy v = false) (vs : List Value) :
    op.apply (v :: vs) = op.apply vs := by
  cases op <;> simp_all [BoolOp.decidedBy, BoolOp.apply]

theorem BoolOp.apply_singleton (op : BoolOp) (v : Value) : op.apply [v] = v.truthy := by
  cases op <;> simp [BoolOp.apply]

theorem Expr.eval_boolean (call : Caller) (op : BoolOp) (es : List Expr) :
    (Expr.boolean op es).eval call = Expr.evalAll call es >>= fun vs => pure (.bool (op.apply vs)) := by
  rw [Expr.eval]

theorem Expr.eval_boolean_cons (h : e.eval call s = (.done v, t)) (es : List Expr) :
    (Expr.boolean op (e :: es)).eval call s =
      (Expr.evalAll call es >>= fun vs => pure (.bool (op.apply (v :: vs)))) t := by
  rw [Expr.eval_boolean, Expr.evalAll, Run.bind_assoc, Run.bind_of_done h, Run.bind_assoc]
  rfl

theorem Expr.eval_boolean_of_failed {f : Fault} (h : e.eval call s = (.failed f, t)) (es : List Expr) :
    (Expr.boolean op (e :: es)).eval call s = (.failed f, t) := by
  rw [Expr.eval_boolean, Expr.evalAll, Run.bind_assoc, Run.bind_of_failed h]

/-- Behind an operand that decides, the others are evaluated all the same. -/
theorem Expr.eval_boolean_of_decided (h : e.eval call s = (.done v, t)) (hv : op.decidedBy v = true)
    (es : List Expr) :
    (Expr.boolean op (e :: es)).eval call s =
      (Expr.evalAll call es >>= fun _ => pure (.bool v.truthy)) t := by
  simp only [Expr.eval_boolean_cons h, BoolOp.apply_of_decided hv]

theorem Expr.eval_boolean_of_not_decided (h : e.eval call s = (.done v, t)) (hv : op.decidedBy v = false)
    (es : List Expr) :
    (Expr.boolean op (e :: es)).eval call s = (Expr.boolean op es).eval call t := by
  simp only [Expr.eval_boolean_cons h, BoolOp.apply_of_not_decided hv, Expr.eval_boolean]

/-- Evaluation goes on from where it could stop, and gives the truth value of what it has there. -/
theorem StopsAt.eval_boolean (h : StopsAt call op es s v back t) :
    (Expr.boolean op es).eval call s = (Expr.evalAll call back >>= fun _ => pure (.bool v.truthy)) t := by
  induction h with
  | last h =>
    rw [Expr.eval_boolean_cons h, Expr.evalAll, Run.pure_bind, Run.pure_bind, BoolOp.apply_singleton]
  | decided h hv => exact Expr.eval_boolean_of_decided h hv _
  | later h hv _ ih => rw [Expr.eval_boolean_of_not_decided h hv, ih]

/-- A stop is where the operators that stop have their value. -/
theorem StopsAt.evalUntil_eq {first : Expr} {rest : List Expr}
    (h : StopsAt call op (first :: rest) s v back t) :
    Expr.evalUntil call op first rest s = (.done v, t) := by
  generalize hes : first :: rest = es at h
  induction h generalizing first rest with
  | last h =>
    obtain ⟨rfl, rfl⟩ := List.cons.inj hes
    exact h
  | decided h hv =>
    obtain ⟨rfl, rfl⟩ := List.cons.inj hes
    cases rest with
    | nil => exact h
    | cons next rest =>
      rw [Expr.evalUntil, Run.bind_of_done h, if_pos hv]
      rfl
  | later h hv hrest ih =>
    obtain ⟨rfl, rfl⟩ := List.cons.inj hes
    cases rest with
    | nil => cases hrest
    | cons next rest =>
      rw [Expr.evalUntil, Run.bind_of_done h, hv, if_neg Bool.false_ne_true]
      exact ih rfl

/-- An operand without a value ends both meanings of the operator. -/
theorem Expr.eval_boolean_of_not_done (h : ∀ v t, e.eval call s ≠ (.done v, t)) (rest : List Expr) :
    (Expr.boolean op (e :: rest)).eval call s = Expr.evalUntil call op e rest s := by
  rw [Expr.eval_boolean, Expr.evalAll, Run.bind_assoc]
  cases rest with
  | nil =>
    refine (Run.bind_of_not_done h _ pure).trans ?_
    rw [Run.bind_pure, Expr.evalUntil]
  | cons next rest =>
    rw [Expr.evalUntil]
    exact Run.bind_of_not_done h _ _

/-- There is a stop, or evaluation ends before one for both meanings of the operator. -/
theorem stopsAt_or_eq (call : Caller) (op : BoolOp) (first : Expr) (rest : List Expr) (s : Session) :
    (∃ v back t, StopsAt call op (first :: rest) s v back t) ∨
      (Expr.boolean op (first :: rest)).eval call s = Expr.evalUntil call op first rest s := by
  induction rest generalizing first s with
  | nil =>
    by_cases hfirst : ∃ v t, first.eval call s = (.done v, t)
    · obtain ⟨v, t, hfirst⟩ := hfirst
      exact .inl ⟨v, [], t, .last hfirst⟩
    · exact .inr (Expr.eval_boolean_of_not_done (fun v t h => hfirst ⟨v, t, h⟩) [])
  | cons next rest ih =>
    by_cases hfirst : ∃ v t, first.eval call s = (.done v, t)
    · obtain ⟨v, t, hfirst⟩ := hfirst
      cases hv : op.decidedBy v with
      | true => exact .inl ⟨v, next :: rest, t, .decided hfirst hv⟩
      | false =>
        rcases ih next t with ⟨w, back, u, hrest⟩ | hsame
        · exact .inl ⟨w, back, u, .later hfirst hv hrest⟩
        · right
          rw [Expr.eval_boolean_of_not_decided hfirst hv, hsame, Expr.evalUntil, Run.bind_of_done hfirst,
            hv, if_neg Bool.false_ne_true]
    · exact .inr (Expr.eval_boolean_of_not_done (fun v t h => hfirst ⟨v, t, h⟩) (next :: rest))

end Operators

/-- Between two values, the operators that stop are those that pick one of the values. A boolean operator
means the same as the one that stops, with the same end in the same session, exactly if evaluation never
finds a stop, or the value there is a truth value and the operands behind it have values and change
nothing. -/
theorem boolean_means_stopping_iff (call : Caller) (op : BoolOp) (first : Expr) (rest : List Expr)
    (s : Session) :
    (∀ a b, Expr.evalUntil call op (.const a) [.const b] s = (.done (op.pick a b), s)) ∧
    ((Expr.boolean op (first :: rest)).eval call s = Expr.evalUntil call op first rest s ↔
      ∀ v back t, StopsAt call op (first :: rest) s v back t →
        v = .bool v.truthy ∧ ∃ vs, Expr.evalAll call back t = (.done vs, t)) := by
  refine ⟨fun a b => ?_, fun hsame v back t hstop => ?_, fun h => ?_⟩
  · simp only [Expr.evalUntil, Expr.eval, Run.pure_bind, BoolOp.pick]
    split <;> rfl
  · rw [hstop.eval_boolean, hstop.evalUntil_eq] at hsame
    obtain ⟨vs, u, hback, hvalue⟩ := Run.bind_eq_done hsame
    obtain ⟨hv, rfl⟩ : Value.bool v.truthy = v ∧ u = t := by
      simpa [Pure.pure, Run.pure] using hvalue
    exact ⟨hv.symm, vs, hback⟩
  · rcases stopsAt_or_eq call op first rest s with ⟨v, back, t, hstop⟩ | hsame
    · obtain ⟨hv, vs, hback⟩ := h v back t hstop
      rw [hstop.eval_boolean, hstop.evalUntil_eq, Run.bind_of_done hback, ← hv]
      rfl
    · exact hsame

/-- A session in which a quotient has to be guarded. -/
def Session.withZero : Session :=
  { Session.fresh with vars := [("x", .int 6), ("y", .int 0)] }

/-- A guard does not guard, and the value of an operand is lost. -/
theorem guard_evaluated_past : ∃ guard guarded,
    Expr.parse? "y != 0 and x / y > 1" = some (.boolean .and [guard, guarded]) ∧
    Expr.evalUntil callAny .and guard [guarded] .withZero = (.done (.bool false), .withZero) ∧
    (Expr.boolean .and [guard, guarded]).eval callAny .withZero =
      (.failed (.zero .division), .withZero) ∧
    Expr.evalUntil callAny .and (.const (.int 2)) [.const (.int 3)] .withZero =
      (.done (.int 3), .withZero) ∧
    (Expr.boolean .and [.const (.int 2), .const (.int 3)]).eval callAny .withZero =
      (.done (.bool true), .withZero) := by
  refine ⟨.compare (.name "y") [.ne] [.const (.int 0)],
    .compare (.binary .div (.name "x") (.name "y")) [.gt] [.const (.int 1)], by cbv, ?_, ?_, ?_, ?_⟩
  all_goals rfl

/-! ## Runs that only answer -/

/-- A run that ends with a value or with a fault, and changes nothing. -/
def Run.Answers (m : Run α) : Prop :=
  ∀ s, ∃ r : Result α, m s = Run.ofResult r s

theorem congruence_answers : Congruence fun {_} m _ => Answers m where
  pure := fun a _ => ⟨.ok a, rfl⟩
  fail := fun f _ => ⟨.error f, rfl⟩
  bind := by
    intro α β m _ k _ hm hk s
    obtain ⟨r, hr⟩ := hm s
    cases r with
    | ok a =>
      obtain ⟨r', hr'⟩ := hk a s
      exact ⟨r', (Run.bind_of_done hr).trans hr'⟩
    | error f => exact ⟨.error f, Run.bind_of_failed hr⟩

theorem readable_answers (name : String) : Readable (fun {_} m _ => Answers m) name where
  lookup := fun s => ⟨s.lookup name, rfl⟩
  lookupText := fun s => ⟨.ok (s.lookupText name), rfl⟩

/-- An expression without calls only answers. -/
theorem Expr.eval_answers {e : Expr} (h : e.callees = []) (call : Caller) : Answers (e.eval call) :=
  @Expr.eval_congr _ call call congruence_answers e (fun id _ => readable_answers id) (by simp [h])

theorem Expr.evalAll_answers {es : List Expr} (h : Expr.calleesAll es = []) (call : Caller) :
    Answers (Expr.evalAll call es) :=
  @Expr.evalAll_congr _ call call congruence_answers es (fun id _ => readable_answers id) (by simp [h])

/-! ## Chains -/

/-- The comparison of a first operand with others, each behind its operator. -/
def Expr.chain (first : Expr) (links : List (CompareOp × Expr)) : Expr :=
  .compare first (links.map Prod.fst) (links.map Prod.snd)

/-- The links of a chain, each as a comparison of its own. -/
def Expr.links : Expr → List (CompareOp × Expr) → List Expr
  | _, [] => []
  | left, link :: rest => Expr.chain left [link] :: Expr.links link.2 rest

section Chains

variable {call : Caller} {left : Expr} {link : CompareOp × Expr} {rest : List (CompareOp × Expr)}
  {s : Session} {a b : Value}

theorem Expr.eval_chain_nil (h : left.eval call s = (.done a, s)) :
    (Expr.chain left []).eval call s = (.done (.bool true), s) := by
  rw [Expr.chain, Expr.eval, Run.bind_of_done h]
  rfl

/-- A link that holds passes its right operand on, which has the same value when it is asked again. -/
theorem Expr.eval_chain_cons (hleft : left.eval call s = (.done a, s))
    (hright : link.2.eval call s = (.done b, s)) (rest : List (CompareOp × Expr)) :
    (Expr.chain left (link :: rest)).eval call s =
      (Run.ofResult (link.1.apply a b) >>= fun holds =>
        if holds then (Expr.chain link.2 rest).eval call else pure (.bool false)) s := by
  rw [Expr.chain, Expr.eval, Run.bind_of_done hleft, List.map_cons, List.map_cons, Expr.evalChain,
    Run.bind_assoc, Run.bind_of_done hright, Run.bind_assoc]
  cases link.1.apply a b with
  | error f => rfl
  | ok holds =>
    cases holds with
    | false => rfl
    | true =>
      change _ = (Expr.chain link.2 rest).eval call s
      rw [Expr.chain, Expr.eval, Run.bind_of_done hright]
      rfl

theorem Expr.eval_chain_of_failed {f : Fault} (hleft : left.eval call s = (.done a, s))
    (hright : link.2.eval call s = (.failed f, s)) (rest : List (CompareOp × Expr)) :
    (Expr.chain left (link :: rest)).eval call s = (.failed f, s) := by
  rw [Expr.chain, Expr.eval, Run.bind_of_done hleft, List.map_cons, List.map_cons, Expr.evalChain,
    Run.bind_assoc, Run.bind_of_failed hright]

theorem Expr.calleesAll_links (hleft : left.callees = [])
    (hrest : Expr.calleesAll (rest.map Prod.snd) = []) : Expr.calleesAll (Expr.links left rest) = [] := by
  induction rest generalizing left with
  | nil => rfl
  | cons link rest ih =>
    simp only [List.map_cons, Expr.calleesAll, List.append_eq_nil_iff] at hrest
    simp [Expr.links, Expr.chain, Expr.callees, Expr.calleesAll, hleft, hrest.1, ih hrest.1 hrest.2]

/-- The conjunction of the links ends as the chain does, or it fails behind a false link at which the chain
has stopped. -/
theorem Expr.eval_links_cases (hleft : left.eval call s = (.done a, s))
    (hrest : Expr.calleesAll (rest.map Prod.snd) = []) :
    (Expr.boolean .and (Expr.links left rest)).eval call s = (Expr.chain left rest).eval call s ∨
      (Expr.chain left rest).eval call s = (.done (.bool false), s) ∧
        ∃ f, (Expr.boolean .and (Expr.links left rest)).eval call s = (.failed f, s) := by
  induction rest generalizing left a with
  | nil =>
    rw [Expr.eval_chain_nil hleft]
    exact .inl rfl
  | cons link rest ih =>
    simp only [List.map_cons, Expr.calleesAll, List.append_eq_nil_iff] at hrest
    obtain ⟨hright, hrest⟩ := hrest
    rw [Expr.links]
    obtain ⟨r, hr⟩ := Expr.eval_answers hright call s
    cases r with
    | error f =>
      rw [Expr.eval_boolean_of_failed (Expr.eval_chain_of_failed hleft hr []),
        Expr.eval_chain_of_failed hleft hr rest]
      exact .inl rfl
    | ok b =>
      have hlink := Expr.eval_chain_cons hleft hr []
      have hchain := Expr.eval_chain_cons hleft hr rest
      cases hop : link.1.apply a b with
      | error f =>
        rw [hop] at hlink hchain
        rw [Expr.eval_boolean_of_failed hlink, hchain]
        exact .inl rfl
      | ok holds =>
        rw [hop] at hlink hchain
        cases holds with
        | true =>
          -- Both go on with the next link, the conjunction by evaluating its left operand again.
          have htrue : (Expr.chain left [link]).eval call s = (.done (.bool true), s) :=
            hlink.trans (Expr.eval_chain_nil hr)
          rw [Expr.eval_boolean_of_not_decided htrue rfl, hchain]
          exact ih hr hrest
        | false =>
          -- The chain stops here. The conjunction goes on, and is false or fails.
          obtain ⟨r', hr'⟩ := Expr.evalAll_answers (Expr.calleesAll_links hright hrest) call s
          rw [Expr.eval_boolean_of_decided hlink rfl, hchain]
          cases r' with
          | ok vs => exact .inl (Run.bind_of_done hr')
          | error f => exact .inr ⟨rfl, f, Run.bind_of_failed hr'⟩

end Chains

/-- A chain of comparisons without calls is the conjunction of its links: if the conjunction has a value, the
chain has the same value, and if the chain fails, the conjunction fails with the same fault. -/
theorem chain_is_conjunction_of_links (call : Caller) (first : Expr) {links : List (CompareOp × Expr)}
    (s : Session) (hlinks : links ≠ []) (hcalls : (Expr.chain first links).callees = []) :
    (∀ v t, (Expr.boolean .and (Expr.links first links)).eval call s = (.done v, t) →
      (Expr.chain first links).eval call s = (.done v, t)) ∧
    ∀ f t, (Expr.chain first links).eval call s = (.failed f, t) →
      (Expr.boolean .and (Expr.links first links)).eval call s = (.failed f, t) := by
  simp only [Expr.chain, Expr.callees, List.append_eq_nil_iff] at hcalls
  obtain ⟨hfirst, hrest⟩ := hcalls
  obtain ⟨r, hr⟩ := Expr.eval_answers hfirst call s
  cases r with
  | error f =>
    -- The first operand ends the chain, and the conjunction in its first link.
    have hchain : ∀ links, (Expr.chain first links).eval call s = (.failed f, s) := by
      intro links
      rw [Expr.chain, Expr.eval, Run.bind_of_failed hr]
    obtain ⟨link, rest, rfl⟩ := List.exists_cons_of_ne_nil hlinks
    rw [Expr.links, Expr.eval_boolean_of_failed (hchain [link]), hchain]
    exact ⟨fun _ _ h => h, fun _ _ h => h⟩
  | ok a =>
    rcases Expr.eval_links_cases hr hrest with hsame | ⟨hfalse, f, hfails⟩
    · rw [hsame]
      exact ⟨fun _ _ h => h, fun _ _ h => h⟩
    · rw [hfalse, hfails]
      exact ⟨fun _ _ h => by simp at h, fun _ _ h => by simp at h⟩

/-- A chain whose links hold, and a chain that fails at its first link. -/
theorem bounds_are_conjunctions :
    (Expr.chain (.const (.int 0)) [(.le, .name "y"), (.lt, .name "x")]).eval callAny .withZero =
      (.done (.bool true), .withZero) ∧
    (Expr.boolean .and (Expr.links (.name "y") [(.lt, .const (.str "a")), (.lt, .name "x")])).eval callAny
      .withZero = (.failed (.type (.unordered "<" .int .str)), .withZero) := by
  refine ⟨?_, ?_⟩
  · exact (chain_is_conjunction_of_links callAny _ .withZero (by simp) rfl).1 _ _ rfl
  · exact (chain_is_conjunction_of_links callAny _ .withZero (by simp) rfl).2 _ _ rfl

-- The conjunction may fail where the chain has a value: behind a false link.
example :
    (Expr.chain (.name "x") [(.lt, .name "y"), (.lt, .const (.str "a"))]).eval callAny .withZero =
      (.done (.bool false), .withZero) ∧
    (Expr.boolean .and (Expr.links (.name "x") [(.lt, .name "y"), (.lt, .const (.str "a"))])).eval callAny
      .withZero = (.failed (.type (.unordered "<" .int .str)), .withZero) :=
  ⟨rfl, rfl⟩

end LineScript
