import LineScript.Proofs.Frame
import Mathlib

/-!
# Variables that nothing mentions

Hide some names. If no text of a script or of a function mentions a hidden name, then two sessions that
differ in the variables of hidden names only are not told apart: the runs end the same way, print the
same and leave the same files and functions, and the variables differ again in hidden names only. A
hidden name may well be set by a line, or be a parameter. Functions see the variables of their callers,
so that the agreement is kept through calls too.
-/

namespace LineScript

open Run

variable {hidden : String → Prop}

/-! ## Tables -/

namespace Table

variable {α : Type} {t u : Table α}

/-- Two tables give the same value to every name that is not hidden. -/
def AgreeOutside (hidden : String → Prop) (t u : Table α) : Prop :=
  ∀ name, ¬ hidden name → t.get? name = u.get? name

theorem AgreeOutside.set (h : t.AgreeOutside hidden u) (key : String) (a : α) :
    (t.set key a).AgreeOutside hidden (u.set key a) := by
  intro name hname
  rw [get?_set, get?_set, h name hname]

variable [DecidablePred hidden]

/-- The entries of the names that are not hidden, in order. -/
def outside (hidden : String → Prop) [DecidablePred hidden] (t : Table α) : Table α :=
  t.filter fun entry => !decide (hidden entry.1)

theorem get?_outside {name : String} (hname : ¬ hidden name) (t : Table α) :
    (t.outside hidden).get? name = t.get? name := by
  induction t with
  | nil => rfl
  | cons e rest ih =>
    obtain ⟨k, b⟩ := e
    unfold outside at ih ⊢
    by_cases hk : hidden k
    · -- The entry is left out, and its name is not the one that is asked for.
      have hne : name ≠ k := by
        rintro rfl
        exact hname hk
      simp [get?_cons, hk, hne, ih]
    · simp [get?_cons, hk, ih]

theorem agreeOutside_of_outside_eq (h : t.outside hidden = u.outside hidden) :
    t.AgreeOutside hidden u := by
  intro name hname
  rw [← get?_outside hname t, ← get?_outside hname u, h]

theorem outside_set (t : Table α) (key : String) (a : α) :
    (t.set key a).outside hidden =
      if hidden key then t.outside hidden else (t.outside hidden).set key a := by
  induction t with
  | nil => by_cases h : hidden key <;> simp [Table.set, outside, h]
  | cons e rest ih =>
    obtain ⟨k, b⟩ := e
    unfold outside at ih ⊢
    by_cases hk : k = key
    · -- The entry is changed in place, and is left out before and after if its name is hidden.
      subst hk
      by_cases h : hidden k <;> simp [Table.set, h]
    · by_cases h : hidden key <;> by_cases hidk : hidden k <;> simp [Table.set, hk, h, hidk, ih]

end Table

/-- Agreement of variables that hides what the hidden names are set to. -/
structure Hides (hidden : String → Prop) (agree : Table Value → Table Value → Prop) : Prop where
  outside : ∀ {t u}, agree t u → t.AgreeOutside hidden u
  set : ∀ {t u} name v, agree t u → agree (t.set name v) (u.set name v)

theorem hides_agreeOutside (hidden : String → Prop) : Hides hidden (Table.AgreeOutside hidden) where
  outside := id
  set := fun name v h => h.set name v

/-- The order of the variables may be kept too. -/
theorem hides_outside (hidden : String → Prop) [DecidablePred hidden] :
    Hides hidden fun t u => t.outside hidden = u.outside hidden where
  outside := Table.agreeOutside_of_outside_eq
  set := fun name v h => by rw [Table.outside_set, Table.outside_set, h]

/-! ## Sessions -/

/-- The sessions are the same but for their variables, which agree. Nothing in them mentions a hidden
name, and the debugger is off. -/
def Blurred (hidden : String → Prop) (agree : Table Value → Table Value → Prop) (s₁ s₂ : Session) : Prop :=
  ∃ vars, s₂ = { s₁ with vars := vars } ∧ agree s₁.vars vars ∧ s₁.debugger.Off ∧
    s₁.MentionsOnly (¬ hidden ·)

section Blurred

variable {agree : Table Value → Table Value → Prop}

theorem Session.write_withVars (s : Session) (vars : Table Value) (text : String) :
    ({ s with vars := vars } : Session).write text = { s.write text with vars := vars } := by
  unfold Session.write
  dsimp only
  split <;> rfl

theorem sharesWorld_blurred : SharesWorld (Blurred hidden agree) where
  silent := by
    rintro s _ ⟨vars, rfl, -⟩
    rfl
  write := by
    rintro s _ text ⟨vars, rfl, hrest⟩
    refine ⟨vars, Session.write_withVars s vars text, ?_⟩
    unfold Session.write
    cases s.silent with
    | true => exact hrest
    | false => exact hrest
  files := by
    rintro s _ ⟨vars, rfl, -⟩
    rfl
  input := by
    rintro s _ ⟨vars, rfl, -⟩
    rfl
  streams := by
    rintro s _ ⟨vars, rfl, -⟩
    rfl
  setFiles := by
    rintro s _ files ⟨vars, rfl, hrest⟩
    exact ⟨vars, rfl, hrest⟩
  setInput := by
    rintro s _ input streams ⟨vars, rfl, hrest⟩
    exact ⟨vars, rfl, hrest⟩

theorem readable_blurred (hhides : Hides hidden agree) {name : String} (hname : ¬ hidden name) :
    Readable (fun {_} => Matches (fun _ => False) (Blurred hidden agree)) name where
  lookup := by
    rintro s _ ⟨vars, rfl, hagree, hrest⟩
    have hget := hhides.outside hagree name hname
    have hlookup : s.lookup name = ({ s with vars := vars } : Session).lookup name := by
      simp only [Session.lookup, hget]
    simp only [Run.lookup, MatchesAt, ← hlookup]
    exact Matches.ofResult _ ⟨vars, rfl, hagree, hrest⟩
  lookupText := by
    rintro s _ ⟨vars, rfl, hagree, hrest⟩
    have hget := hhides.outside hagree name hname
    refine .inr ⟨?_, vars, rfl, hagree, hrest⟩
    simp only [Run.lookupText, Session.lookupText, hget]

theorem lineCongruence_blurred (hhides : Hides hidden agree) :
    LineCongruence fun {_} => Matches (fun _ => False) (Blurred hidden agree) where
  toCongruence := congruence_matches _ _
  assign := by
    intro name v
    refine .modify ?_
    rintro s _ ⟨vars, rfl, hagree, hrest⟩
    -- The name may be hidden: it is set to the same value on both sides.
    exact ⟨vars.set name v, rfl, hhides.set name v hagree, hrest⟩
  print := fun v => printValues_matches sharesWorld_blurred.toPrintsAlike [v]

/-- No text of the line mentions a hidden name. -/
def Unmentioned (hidden : String → Prop) (line : String) : Prop :=
  ∀ text ∈ lineTexts line, ∀ name ∈ textNames text, ¬ hidden name

theorem linesCongruence_blurred (hhides : Hides hidden agree) {call : Caller}
    (hcall : ∀ name args,
      Matches (fun _ => False) (Blurred hidden agree) (call name args) (call name args)) :
    LinesCongruence (fun {_} => Matches (fun _ => False) (Blurred hidden agree)) (Unmentioned hidden)
      .standard .standard call call where
  toLineCongruence := lineCongruence_blurred hhides
  text := by
    intro line hline text htext
    exact evalText_congr (congruence_matches _ _)
      (fun name hname => readable_blurred hhides (hline text htext name hname)) fun name _ => hcall name
  define := by
    intro name params block _ hblock
    refine .modify ?_
    rintro s _ ⟨vars, rfl, hagree, off, hmentions⟩
    exact ⟨vars, rfl, hagree, off, hmentions.set hblock⟩
  before := by
    refine pauseIfAsked_matches_of_off ?_ call call
    rintro s _ ⟨vars, rfl, -, off, -⟩
    exact ⟨off, off⟩

/-! ## Calls -/

theorem Hides.bindParams (hhides : Hides hidden agree) {t u : Table Value} (h : agree t u)
    (params : List String) (args : List Value) :
    agree (bindParams t params args) (bindParams u params args) := by
  induction params generalizing t u args with
  | nil => exact h
  | cons p ps ih =>
    cases args with
    | nil => exact h
    | cons v vs => exact ih (hhides.set p v h) vs

theorem keptByCalls_blurred (hhides : Hides hidden agree) : KeptByCalls (Blurred hidden agree) where
  enter := by
    rintro s _ f args ⟨vars, rfl, hagree, hrest⟩
    exact ⟨_, rfl, hhides.bindParams hagree f.params args, hrest⟩
  leave := by
    -- The variables of the callers agree, and all else is as the bodies left it.
    rintro s _ t _ ⟨vars, rfl, hagree, -⟩ ⟨_, rfl, -, hrest⟩
    exact ⟨vars, rfl, hagree, hrest⟩

theorem callNamed_blurred (hhides : Hides hidden agree) (depth : Nat) (name : String) (args : List Value) :
    Matches (fun _ => False) (Blurred hidden agree) (callNamed .standard depth name args)
      (callNamed .standard depth name args) := by
  have hfuncs : ∀ ⦃s₁ s₂⦄, Blurred hidden agree s₁ s₂ → s₁.funcs = s₂.funcs := by
    rintro s _ ⟨vars, rfl, -⟩
    rfl
  have hbuiltin : ∀ name args, Matches (fun _ => False) (Blurred hidden agree)
      (callBuiltin .standard name args) (callBuiltin .standard name args) :=
    sharesWorld_blurred.callBuiltin
  induction depth generalizing name args with
  | zero =>
    rw [callNamed_zero]
    exact callWith_matches hfuncs (hbuiltin name args) fun _ _ h _ _ => Matches.giveUp h
  | succ depth ih =>
    rw [callNamed_succ]
    refine callWith_matches hfuncs (hbuiltin name args) fun s₁ s₂ h f hf => ?_
    -- The body is stored in the session, so that it mentions no hidden name either.
    obtain ⟨-, -, -, -, hmentions⟩ := id h
    refine callBody_matches (keptByCalls_blurred hhides) ?_ args h
    exact (linesCongruence_blurred hhides ih).runBody (hmentions.get? hf) name

/-- A run of a script from blurred sessions ends the same way, in blurred sessions. -/
theorem runFile_blurred (hhides : Hides hidden agree) (depth : Nat) {path : String} {s₁ s₂ : Session}
    (h : Blurred hidden agree s₁ s₂)
    (hscript : ∀ lines, s₁.files.readLines path = .ok lines → MentionsOnly (¬ hidden ·) lines) :
    (Host.standard.runFile depth path s₁).1 = (Host.standard.runFile depth path s₂).1 ∧
    Blurred hidden agree (Host.standard.runFile depth path s₁).2
      (Host.standard.runFile depth path s₂).2 := by
  have hentry : s₁.files.entry? path = s₂.files.entry? path := by
    rw [sharesWorld_blurred.files h]
  have hlines := linesCongruence_blurred hhides (callNamed_blurred hhides depth)
  exact (runFile_matches sharesWorld_blurred.toPrintsAlike h hentry fun lines hread =>
    hlines.runLines (hscript lines hread) path).same

end Blurred

/-! ## Irrelevance -/

/-- If neither the script nor a function mentions a hidden name, sessions that differ in the variables of
hidden names only lead to the same outcome, and to sessions that differ in these variables only. Where
the order of the other variables was the same, it stays the same. -/
theorem hidden_variables_irrelevant (hidden : String → Prop) [DecidablePred hidden] (depth : Nat)
    (path : String) (s : Session) (vars : Table Value) (hvars : s.vars.AgreeOutside hidden vars)
    (off : s.debugger.Off) (hfuncs : s.MentionsOnly (¬ hidden ·))
    (hscript : ∀ lines, s.files.readLines path = .ok lines → MentionsOnly (¬ hidden ·) lines) :
    let one := Host.standard.runFile depth path s
    let other := Host.standard.runFile depth path { s with vars := vars }
    one.1 = other.1 ∧ other.2 = { one.2 with vars := other.2.vars } ∧
      one.2.vars.AgreeOutside hidden other.2.vars ∧
      (s.vars.outside hidden = vars.outside hidden →
        one.2.vars.outside hidden = other.2.vars.outside hidden) := by
  obtain ⟨houtcome, _, hsame, hagree, -⟩ := runFile_blurred (hides_agreeOutside hidden) depth
    ⟨vars, rfl, hvars, off, hfuncs⟩ hscript
  refine ⟨houtcome, ?_, ?_, fun horder => ?_⟩
  · rw [hsame]
  · rw [hsame]
    exact hagree
  · -- The same argument once more, with the agreement that keeps the order.
    obtain ⟨-, _, hsame, hagree, -⟩ := runFile_blurred (hides_outside hidden) depth
      ⟨vars, rfl, horder, off, hfuncs⟩ hscript
    rw [hsame]
    exact hagree

/-- A script that sets a hidden name and calls a function with a hidden parameter. -/
def secretiveScript : String :=
  "stryset secret (1)\nstryset y (noted(y, 3))\nif (y):\nstryprint y\nend\nreturn other words\n"

/-- The script at the path `p`, and the function that it calls. -/
def secretive : Session :=
  { Session.fresh with
    vars := [("token", .int 5), ("y", .int 2)]
    funcs := [("noted", ⟨["x", "secret"], ["stryset token (x)", "return x + y"]⟩)]
    files := (Files.FileTree.empty Files.work).put ["work", "p"]
      (.file (Text.Utf8.encode secretiveScript)) }

theorem secretive_lines : secretive.files.readLines "p" =
    .ok ["stryset secret (1)\n", "stryset y (noted(y, 3))\n", "if (y):\n", "stryprint y\n", "end\n",
      "return other words\n"] := by
  cbv

theorem secretive_hidden_irrelevant :
    (Host.standard.runFile 3 "p" secretive).1 =
      (Host.standard.runFile 3 "p" { secretive with vars := [("y", .int 2), ("secret", .none)] }).1 := by
  have hvars : secretive.vars.AgreeOutside (· ∈ ["secret", "token"]) [("y", .int 2), ("secret", .none)] :=
    Table.agreeOutside_of_outside_eq rfl
  have hlines : ∀ lines, secretive.files.readLines "p" = .ok lines →
      MentionsOnly (¬ · ∈ ["secret", "token"]) lines := by
    intro lines h
    rw [secretive_lines] at h
    cases h
    decide +kernel
  exact (hidden_variables_irrelevant (· ∈ ["secret", "token"]) 3 "p" secretive _ hvars ⟨rfl, rfl, rfl⟩
    (by decide +kernel) hlines).1

end LineScript
