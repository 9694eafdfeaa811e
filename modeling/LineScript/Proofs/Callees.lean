import LineScript.Interpreter
import LineScript.Proofs.Table

/-!
# What a script calls

The names that an expression, a text or a line calls. A call counts wherever it stands, also where it
would never be evaluated.
-/

namespace LineScript

mutual

def Expr.callees : Expr → List String
  | .const _ | .name _ | .callOther | .refused _ => []
  | .binary _ left right => left.callees ++ right.callees
  | .unary _ operand => operand.callees
  | .boolean _ operands => Expr.calleesAll operands
  | .compare first _ rest => first.callees ++ Expr.calleesAll rest
  | .call function args => function :: Expr.calleesAll args

/-- The names that several expressions call. -/
def Expr.calleesAll : List Expr → List String
  | [] => []
  | e :: es => e.callees ++ Expr.calleesAll es

end

/-- The names that a text calls, if it is an expression. -/
def textCallees (text : String) : List String :=
  match Expr.parse? (Text.strip text) with
  | some e => e.callees
  | none => []

/-- The texts of a statement that are evaluated as expressions. -/
def Statement.texts : Statement → List String
  | .assign _ expr | .print expr | .giveBack expr => [expr]
  | .define _ _ => []
  | .branch condition => [condition]

def lineCallees (line : String) : List String :=
  match Statement.ofLine? (Text.strip line) with
  | some st => st.texts.flatMap textCallees
  | none => []

/-- Every call in the lines is of a name that is allowed. -/
def CallsOnly (allowed : String → Prop) (lines : List String) : Prop :=
  ∀ line ∈ lines, ∀ name ∈ lineCallees line, allowed name

/-- Every call in the bodies of the functions of a session is of a name that is allowed. -/
def Session.CallsOnly (s : Session) (allowed : String → Prop) : Prop :=
  ∀ f ∈ s.funcs, LineScript.CallsOnly allowed f.2.body

variable {allowed : String → Prop}

instance [DecidablePred allowed] (lines : List String) : Decidable (CallsOnly allowed lines) :=
  inferInstanceAs (Decidable (∀ line ∈ lines, ∀ name ∈ lineCallees line, allowed name))

instance [DecidablePred allowed] (s : Session) : Decidable (s.CallsOnly allowed) :=
  inferInstanceAs (Decidable (∀ f ∈ s.funcs, CallsOnly allowed f.2.body))

theorem CallsOnly.mono {permitted : String → Prop} {lines : List String}
    (h : CallsOnly allowed lines) (hmono : ∀ name, allowed name → permitted name) :
    CallsOnly permitted lines :=
  fun line hline name hname => hmono name (h line hline name hname)

theorem Session.CallsOnly.mono {permitted : String → Prop} {s : Session}
    (h : s.CallsOnly allowed) (hmono : ∀ name, allowed name → permitted name) :
    s.CallsOnly permitted :=
  fun f hf => (h f hf).mono hmono

theorem Session.CallsOnly.all {s : Session} (h : s.CallsOnly allowed) :
    s.funcs.All fun _ f => LineScript.CallsOnly allowed f.body :=
  h

theorem Session.CallsOnly.body {s : Session} {name : String} {f : Function}
    (h : s.CallsOnly allowed) (hf : s.funcs.get? name = some f) :
    LineScript.CallsOnly allowed f.body :=
  h.all.get? hf

theorem Session.CallsOnly.set {s : Session} {name : String} {f : Function}
    (h : s.CallsOnly allowed) (hf : LineScript.CallsOnly allowed f.body) :
    ({ s with funcs := s.funcs.set name f } : Session).CallsOnly allowed :=
  h.all.set hf

/-! ## The lines of a block -/

theorem mem_of_mem_splitBlock {lines block : List String} {n : Nat} {line : String}
    (h : splitBlock lines = some (block, n)) (hline : line ∈ block) : line ∈ lines := by
  induction lines generalizing block n with
  | nil => simp [splitBlock] at h
  | cons l rest ih =>
    rw [splitBlock] at h
    split at h
    · simp only [Option.some.injEq, Prod.mk.injEq] at h
      simp [← h.1] at hline
    · obtain ⟨⟨b, m⟩, hb, he⟩ := Option.map_eq_some_iff.mp h
      simp only [Prod.mk.injEq] at he
      rw [← he.1] at hline
      rcases List.mem_cons.mp hline with rfl | hline
      · exact List.mem_cons_self
      · exact List.mem_cons_of_mem _ (ih hb hline)

/-- The block after a line is made of the lines around it. -/
theorem Place.mem_of_mem_block {p : Place} {lines block : List String} {stop : Int} {line : String}
    (hlines : p.lines = some lines) (h : p.block = .ok (block, stop)) (hline : line ∈ block) :
    line ∈ lines := by
  unfold Place.block at h
  rw [hlines] at h
  cases hi : p.index with
  | none => simp [hi] at h
  | some i =>
    simp only [hi, parseBlock, bind, Except.bind] at h
    cases hfrom : linesFrom lines (i + 1) with
    | error f => simp [hfrom] at h
    | ok around =>
      simp only [hfrom] at h
      split at h
      · rename_i b n hsplit
        simp only [pure, Except.pure, Except.ok.injEq, Prod.mk.injEq] at h
        have hmem : line ∈ around := mem_of_mem_splitBlock hsplit (h.1 ▸ hline)
        -- A negative index starts among the last lines and goes on with the first.
        unfold linesFrom at hfrom
        split at hfrom
        · simp only [Except.ok.injEq] at hfrom
          exact List.mem_of_mem_drop (hfrom ▸ hmem)
        · split at hfrom
          · cases hfrom
          · simp only [Except.ok.injEq] at hfrom
            rcases List.mem_append.mp (hfrom ▸ hmem) with hmem | hmem
            · exact List.mem_of_mem_drop hmem
            · exact hmem
      · cases h

end LineScript
