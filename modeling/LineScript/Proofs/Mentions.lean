import LineScript.Proofs.Callees

/-!
# What a script mentions

The names whose value an expression, a text or a line asks for. The name of a function that is called
is none of them, for functions have a table of their own. A text that is no expression mentions itself
as a whole.
-/

namespace LineScript

mutual

/-- The names that an expression mentions. -/
def Expr.names : Expr → List String
  | .const _ | .callOther | .refused _ => []
  | .name id => [id]
  | .binary _ left right => left.names ++ right.names
  | .unary _ operand => operand.names
  | .boolean _ operands => Expr.namesAll operands
  | .compare first _ rest => first.names ++ Expr.namesAll rest
  | .call _ args => Expr.namesAll args

/-- The names that several expressions mention. -/
def Expr.namesAll : List Expr → List String
  | [] => []
  | e :: es => e.names ++ Expr.namesAll es

end

def textNames (text : String) : List String :=
  match Expr.parse? (Text.strip text) with
  | some e => e.names
  | none => [Text.strip text]

/-- The texts of a line that are evaluated. -/
def lineTexts (line : String) : List String :=
  match Statement.ofLine? (Text.strip line) with
  | some st => st.texts
  | none => []

theorem lineTexts_of_statement {line : String} {st : Statement}
    (h : Statement.ofLine? (Text.strip line) = some st) : lineTexts line = st.texts := by
  simp only [lineTexts, h]

theorem mem_lineCallees {line text name : String} (htext : text ∈ lineTexts line)
    (hname : name ∈ textCallees text) : name ∈ lineCallees line := by
  unfold lineTexts at htext
  unfold lineCallees
  cases hst : Statement.ofLine? (Text.strip line) with
  | none =>
    simp only [hst] at htext
    cases htext
  | some st =>
    simp only [hst] at htext
    exact List.mem_flatMap.mpr ⟨text, htext, hname⟩

/-- Every name that the lines mention is allowed. -/
def MentionsOnly (allowed : String → Prop) (lines : List String) : Prop :=
  ∀ line ∈ lines, ∀ text ∈ lineTexts line, ∀ name ∈ textNames text, allowed name

/-- Every name that the bodies of the functions of a session mention is allowed. -/
def Session.MentionsOnly (s : Session) (allowed : String → Prop) : Prop :=
  s.funcs.All fun _ f => LineScript.MentionsOnly allowed f.body

variable {allowed : String → Prop}

instance [DecidablePred allowed] (lines : List String) : Decidable (MentionsOnly allowed lines) :=
  inferInstanceAs (Decidable (∀ line ∈ lines, ∀ text ∈ lineTexts line, ∀ name ∈ textNames text,
    allowed name))

instance [DecidablePred allowed] (s : Session) : Decidable (s.MentionsOnly allowed) :=
  inferInstanceAs (Decidable (s.funcs.All fun _ f => MentionsOnly allowed f.body))

end LineScript
