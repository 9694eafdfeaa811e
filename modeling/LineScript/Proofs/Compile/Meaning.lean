import LineScript.Compile
import LineScript.Proofs.Listing
import Mathlib

/-!
# What compiled lines mean

A compiled program without blocks assigns and prints. Its lines are read as instructions, and a run of
instructions depends on what becomes of a text with fields before it is printed: `filled` puts the
values of its fields into it, `literal` leaves it as it is. The two runs print the same exactly if no
text that is reached is changed when its fields are filled.
-/

namespace LineScript

open Run

/-! ## Runs that only add to the output -/

def Session.withOutput (s : Session) (out : List Output) : Session :=
  { s with output := out }

/-- A run adds to the output, and what it does does not depend on what has been printed before. -/
def Run.Appends (m : Run α) : Prop :=
  ∀ s : Session, ∃ (o : Outcome α) (t : Session) (new : List Output),
    ∀ out, m (s.withOutput out) = (o, t.withOutput (new ++ out))

namespace Run.Appends

theorem pure (a : α) : Appends (Pure.pure a : Run α) :=
  fun s => ⟨.done a, s, [], fun _ => rfl⟩

theorem fail (f : Fault) : Appends (Run.fail f : Run α) :=
  fun s => ⟨.failed f, s, [], fun _ => rfl⟩

theorem ofResult (r : Result α) : Appends (Run.ofResult r) := by
  cases r with
  | ok a => exact .pure a
  | error f => exact .fail f

theorem bind {m : Run α} {k : α → Run β} (hm : Appends m) (hk : ∀ a, Appends (k a)) :
    Appends (m >>= k) := by
  intro s
  obtain ⟨o, t, new, hm⟩ := hm s
  have hbind : ∀ out, (m >>= k) (s.withOutput out) = Run.bind m k (s.withOutput out) := fun _ => rfl
  cases o with
  | done a =>
    -- What the second run adds comes on top of what the first one has added.
    obtain ⟨o', t', new', hk⟩ := hk a t
    refine ⟨o', t', new' ++ new, fun out => ?_⟩
    rw [hbind, Run.bind, hm]
    exact (hk (new ++ out)).trans (by rw [List.append_assoc])
  | failed f => exact ⟨.failed f, t, new, fun out => by rw [hbind, Run.bind, hm]⟩
  | unfinished => exact ⟨.unfinished, t, new, fun out => by rw [hbind, Run.bind, hm]⟩

end Run.Appends

/-- Adding to the output is a congruence that looks at one side only. -/
theorem congruence_appends : Congruence fun {_} m _ => Appends m where
  pure := Appends.pure
  fail := Appends.fail
  bind := Appends.bind

theorem readable_appends (name : String) : Readable (fun {_} m _ => Appends m) name where
  lookup := fun s => Appends.ofResult (s.lookup name) s
  lookupText := fun s => ⟨.done (s.lookupText name), s, [], fun _ => rfl⟩

/-- Leaving the session alone is one as well. -/
theorem congruence_keeps : Congruence fun {_} m _ => Keeps id m where
  pure := Keeps.pure
  fail := Keeps.fail
  bind := Keeps.bind

theorem readable_keeps (name : String) : Readable (fun {_} m _ => Keeps id m) name where
  lookup := fun s => Keeps.ofResult (s.lookup name) s
  lookupText := fun _ => rfl

/-- What is printed for a value that has a text. -/
def printedPieces (text : String) : List Output :=
  [.text "\n", .text text, .text ""]

section Printing

variable {s : Session} {v : Value}

theorem printValues_of_text (hs : s.silent = false) {text : String} (h : v.text? = some text) :
    printValues [v] s = (.done (), s.withOutput (printedPieces text ++ s.output)) := by
  simp [printValues, printValues.go, Bind.bind, Run.bind, Run.get, hs, h, write, Run.modify,
    Session.write, Pure.pure, Run.pure, Session.withOutput, printedPieces]

theorem printValues_of_no_text (hs : s.silent = false) (h : v.text? = none) :
    printValues [v] s =
      (.failed (.value (.digitLimit none)), s.withOutput (.text "" :: s.output)) := by
  simp [printValues, printValues.go, Bind.bind, Run.bind, Run.get, hs, h, write, Run.modify,
    Session.write, Run.fail, Session.withOutput]

end Printing

theorem printValues_appends (v : Value) : Appends (printValues [v]) := by
  intro s
  cases hs : s.silent with
  | true => exact ⟨.done (), s, [], fun out => printValues_of_silent (s := s.withOutput out) hs [v]⟩
  | false =>
    cases h : v.text? with
    | some text =>
      exact ⟨_, s, printedPieces text, fun out => printValues_of_text (s := s.withOutput out) hs h⟩
    | none => exact ⟨_, s, [.text ""], fun out => printValues_of_no_text (s := s.withOutput out) hs h⟩

namespace Compile

open Text

/-! ## Values of expressions -/

/-- In a program without calls no name can be called. -/
def noCalls : Caller :=
  fun name _ => Run.fail (.name (.function name))

/-- The value of an expression. A text in quotes that is none stands for what is between them. -/
def valueOf (text : String) : Run Value :=
  match Expr.parse? (strip text) with
  | some e => e.eval noCalls
  | none =>
    if isQuoted (strip text) then pure (.str (unquoted (strip text)))
    else Run.fail (.name (.identifier (strip text)))

theorem valueOf_strip (text : String) : valueOf (strip text) = valueOf text := by
  simp only [valueOf, strip_strip]

theorem valueOf_congr {P : ∀ {α : Type}, Run α → Run α → Prop} (hP : Congruence P)
    (hread : ∀ id, Readable P id) (text : String) : P (valueOf text) (valueOf text) := by
  unfold valueOf
  split
  · exact Expr.eval_congr hP _ (fun id _ => hread id) fun _ _ _ => hP.fail _
  · split
    · exact hP.pure _
    · exact hP.fail _

/-! ## Fields -/

/-- A word in braces at the start of a text, and what follows it. -/
def field? : List Char → Option (List Char × List Char)
  | '{' :: cs =>
    match cs.span isWord with
    | (c :: word, '}' :: rest) => some (c :: word, rest)
    | _ => none
  | _ => none

theorem field?_eq_some_iff {cs word rest : List Char} :
    field? cs = some (word, rest) ↔
      cs = '{' :: (word ++ '}' :: rest) ∧ word ≠ [] ∧ ∀ c ∈ word, isWord c = true := by
  constructor
  · intro h
    unfold field? at h
    split at h
    · rename_i cs
      have hsplit : cs.takeWhile isWord ++ cs.dropWhile isWord = cs := List.takeWhile_append_dropWhile
      rw [List.span_eq_takeWhile_dropWhile] at h
      split at h
      · rename_i c front back hspan
        simp only [Prod.mk.injEq] at hspan
        cases h
        refine ⟨by rw [← hspan.1, ← hspan.2, hsplit], List.cons_ne_nil _ _, fun d hd => ?_⟩
        rw [← hspan.1] at hd
        exact List.mem_takeWhile_imp hd
      · cases h
    · cases h
  · rintro ⟨rfl, hne, hword⟩
    have hspan : (word ++ '}' :: rest).span isWord = (word, '}' :: rest) :=
      span_append hword (by rintro _ ⟨⟩; decide)
    obtain ⟨c, cs, rfl⟩ := List.exists_cons_of_ne_nil hne
    simp only [field?, hspan]

/-- A word in braces stands somewhere in a text. -/
def HasField (cs : List Char) : Prop :=
  ∃ word, word ≠ [] ∧ (∀ c ∈ word, isWord c = true) ∧ '{' :: (word ++ ['}']) <:+: cs

inductive Piece where
  | char (c : Char)
  | field (word : List Char)
  deriving DecidableEq, Repr

/-- The parts of a text after `skip` of its characters. -/
def piecesFrom : Nat → List Char → List Piece
  | _, [] => []
  | skip + 1, _ :: cs => piecesFrom skip cs
  | 0, c :: cs =>
    match field? (c :: cs) with
    | some (word, _) => .field word :: piecesFrom (word.length + 1) cs
    | none => .char c :: piecesFrom 0 cs

/-- Put the values of fields into a text. -/
def fill : List Piece → Run String
  | [] => pure ""
  | .char c :: ps => do
    let rest ← fill ps
    return String.singleton c ++ rest
  | .field word :: ps => do
    let v ← valueOf (String.ofList word)
    match v.text? with
    | some text =>
      let rest ← fill ps
      return text ++ rest
    | none => Run.fail (.value (.digitLimit none))

/-- A text with the values of its fields in their places. -/
def filled (text : String) : Run String :=
  fill (piecesFrom 0 text.toList)

def literal (text : String) : Run String :=
  pure text

theorem fill_congr {P : ∀ {α : Type}, Run α → Run α → Prop} (hP : Congruence P)
    (hread : ∀ id, Readable P id) (ps : List Piece) : P (fill ps) (fill ps) := by
  induction ps with
  | nil => exact hP.pure _
  | cons p ps ih =>
    cases p with
    | char c => exact hP.bind ih fun _ => hP.pure _
    | field word =>
      refine hP.bind (valueOf_congr hP hread _) fun v => ?_
      split
      · exact hP.bind ih fun _ => hP.pure _
      · exact hP.fail _

theorem filled_appends (text : String) : Appends (filled text) :=
  fill_congr congruence_appends readable_appends _

/-- The fields are filled without any change to the session. -/
theorem filled_keeps (text : String) : Keeps id (filled text) :=
  fill_congr congruence_keeps readable_keeps _

theorem fill_chars (cs : List Char) : fill (cs.map .char) = pure (String.ofList cs) := by
  induction cs with
  | nil => rfl
  | cons c cs ih =>
    rw [List.map_cons, fill, ih]
    have hcons : String.singleton c ++ String.ofList cs = String.ofList (c :: cs) := by
      simp
    rw [← hcons]
    rfl

/-- The parts of a text are its characters exactly if no field stands in it. -/
theorem piecesFrom_eq_chars_iff {cs : List Char} : piecesFrom 0 cs = cs.map .char ↔ ¬ HasField cs := by
  unfold HasField
  induction cs with
  | nil => simp [piecesFrom]
  | cons c cs ih =>
    -- A field stands in the text if it is met here or stands in the rest.
    have hhere : (∃ word, word ≠ [] ∧ (∀ d ∈ word, isWord d = true) ∧
        '{' :: (word ++ ['}']) <+: c :: cs) ↔ field? (c :: cs) ≠ none := by
      constructor
      · rintro ⟨word, hne, hword, rest, hrest⟩
        have hfield : field? (c :: cs) = some (word, rest) :=
          field?_eq_some_iff.mpr ⟨by simp [← hrest], hne, hword⟩
        simp [hfield]
      · intro hsome
        obtain ⟨⟨word, rest⟩, hfield⟩ := Option.ne_none_iff_exists'.mp hsome
        obtain ⟨hchars, hne, hword⟩ := field?_eq_some_iff.mp hfield
        exact ⟨word, hne, hword, rest, by simp [hchars]⟩
    simp only [List.infix_cons_iff, and_or_left, exists_or, not_or, hhere, ← ih, not_not]
    cases hfield : field? (c :: cs) with
    | some found => simp [piecesFrom, hfield]
    | none => simp [piecesFrom, hfield]

instance (cs : List Char) : Decidable (HasField cs) :=
  decidable_of_iff (¬ piecesFrom 0 cs = cs.map .char) (by rw [piecesFrom_eq_chars_iff, not_not])

/-- A text without fields is printed as it is. -/
theorem filled_of_not_hasField {text : String} (h : ¬ HasField text.toList) :
    filled text = literal text := by
  rw [filled, piecesFrom_eq_chars_iff.mpr h, fill_chars, String.ofList_toList, literal]

/-! ## Instructions -/

inductive Instruction where
  | assign (name expr : String)
  | print (expr : String)
  | printFilled (text : String)
  | skip
  deriving DecidableEq, Repr

/-- The text between the quotes of a text with fields. -/
def filledText? (cs : List Char) : Option (List Char) := do
  let rest ← after? "f\"".toList cs
  let text ← Statement.beforeLast? '"' rest
  if text.any fun c => c == '"' || c == '\\' then none else some text

namespace Instruction

/-- What is printed: a text with fields, or an expression. -/
def ofPrinted (inside : List Char) : Instruction :=
  match filledText? inside with
  | some text => .printFilled (String.ofList text)
  | none => .print (String.ofList inside)

/-- `print(inside)` -/
def print? (cs : List Char) : Option Instruction := do
  let rest ← after? "print(".toList cs
  let inside ← Statement.beforeLast? ')' rest
  return ofPrinted inside

/-- `name = expr` -/
def assign? (cs : List Char) : Option Instruction :=
  let (name, rest) := cs.span isWord
  if name.isEmpty then none
  else (after? " = ".toList rest).map fun expr => .assign (String.ofList name) (String.ofList expr)

/-- The instruction that a line of the main function is. -/
def ofLine? (line : String) : Option Instruction := do
  let rest ← after? "    ".toList line.toList
  let cs ← Statement.beforeLast? '\n' rest
  print? cs <|> assign? cs <|> if cs == "pass".toList then some .skip else none

/-- The instructions of a compiled file: the lines of its main function, which an empty line ends. -/
def ofFile? (file : List String) : Option (List Instruction) :=
  ((file.drop 2).takeWhile (· != "\n")).mapM ofLine?

/-- Execute an instruction, where `text` says what is printed for a text with fields. -/
def exec (text : String → Run String) : Instruction → Run Unit
  | .assign name expr => do
    let v ← valueOf expr
    Run.modify fun s => { s with vars := s.vars.set name v }
  | .print expr => do
    let v ← valueOf expr
    printValues [v]
  | .printFilled t => do
    let shown ← text t
    printValues [.str shown]
  | .skip => pure ()

/-- Execute instructions one after the other. -/
def run (text : String → Run String) : List Instruction → Run (Option Value)
  | [] => pure none
  | i :: is => do
    i.exec text
    run text is

/-! ## Two runs of the same instructions -/

/-- No text that is reached is changed when its fields are filled. -/
def Unchanged (program : List Instruction) (s : Session) : Prop :=
  ∀ front text back t, program = front ++ .printFilled text :: back →
    run literal front s = (.done none, t) → filled text t = (.done text, t)

section Runs

variable {text : String → Run String} {i : Instruction} {is : List Instruction} {s : Session}

theorem exec_appends (htext : ∀ t, Appends (text t)) (i : Instruction) : Appends (i.exec text) := by
  cases i with
  | assign name expr =>
    refine .bind (valueOf_congr congruence_appends readable_appends expr) fun v => ?_
    exact fun s => ⟨.done (), { s with vars := s.vars.set name v }, [], fun _ => rfl⟩
  | print expr =>
    exact .bind (valueOf_congr congruence_appends readable_appends expr) printValues_appends
  | printFilled t => exact .bind (htext t) fun _ => printValues_appends _
  | skip => exact .pure _

theorem run_appends (htext : ∀ t, Appends (text t)) (is : List Instruction) :
    Appends (run text is) := by
  induction is with
  | nil => exact .pure _
  | cons i is ih => exact .bind (exec_appends htext i) fun _ => ih

theorem exec_literal_silent (i : Instruction) : Keeps (·.silent) (i.exec literal) := by
  have hvalue : ∀ expr, Keeps (·.silent) (valueOf expr) := fun expr =>
    (valueOf_congr congruence_keeps readable_keeps expr).comp Session.silent
  have hprint : ∀ v, Keeps (·.silent) (printValues [v]) := fun v =>
    printValues_keeps (fun _ _ _ _ _ => rfl) [v]
  cases i with
  | assign name expr => exact .bind (hvalue expr) fun _ => .modify fun _ => rfl
  | print expr => exact .bind (hvalue expr) hprint
  | printFilled t => exact .bind (.pure _) fun _ => hprint _
  | skip => exact .pure _

theorem exec_printFilled_literal (hs : s.silent = false) (t : String) :
    (printFilled t).exec literal s = (.done (), s.withOutput (printedPieces t ++ s.output)) :=
  printValues_of_text hs rfl

theorem exec_printFilled (hs : s.silent = false) {t shown : String}
    (h : filled t s = (.done shown, s)) :
    (printFilled t).exec filled s = (.done (), s.withOutput (printedPieces shown ++ s.output)) := by
  rw [exec, Run.bind_of_done h]
  exact printValues_of_text hs rfl

/-- What is unchanged among instructions is so for the first one and, where it goes on, for the
others. -/
theorem unchanged_cons_iff :
    Unchanged (i :: is) s ↔ (∀ t, i = .printFilled t → filled t s = (.done t, s)) ∧
      ∀ t, i.exec literal s = (.done (), t) → Unchanged is t := by
  constructor
  · intro h
    refine ⟨fun t hi => h [] t is s (by rw [hi]; rfl) rfl, ?_⟩
    intro u hexec front t back v his hrun
    refine h (i :: front) t back v (by rw [his]; rfl) ?_
    rw [run, Run.bind_of_done hexec, hrun]
  · rintro ⟨hfirst, hrest⟩ front t back u hsplit hrun
    cases front with
    | nil =>
      obtain ⟨rfl, rfl⟩ := List.cons.inj hsplit
      obtain rfl : s = u := congrArg Prod.snd hrun
      exact hfirst t rfl
    | cons j front =>
      obtain ⟨rfl, his⟩ := List.cons.inj hsplit
      obtain ⟨_, v, hexec, hrun⟩ := Run.bind_eq_done hrun
      exact hrest v hexec front t back u his hrun

/-- An instruction that does the same in both runs ends both in the same way, or both go on behind it
from the same session. -/
theorem run_cons_of_exec_eq (h : i.exec filled s = i.exec literal s) (is : List Instruction) :
    (∃ t, i.exec literal s = (.done (), t) ∧ t.silent = s.silent ∧
      run filled (i :: is) s = run filled is t ∧ run literal (i :: is) s = run literal is t) ∨
    (∀ t, i.exec literal s ≠ (.done (), t)) ∧
      run filled (i :: is) s = run literal (i :: is) s := by
  rcases hexec : i.exec literal s with ⟨o, t⟩
  have hboth : ∀ text, i.exec text s = (o, t) →
      run text (i :: is) s = Run.bind (fun _ => (o, t)) (fun _ => run text is) s := by
    intro text hi
    change Run.bind (i.exec text) (fun _ => run text is) s = _
    simp only [Run.bind, hi]
  rw [hboth filled (h.trans hexec), hboth literal hexec]
  cases o with
  | done u =>
    have hsilent := exec_literal_silent i s
    rw [hexec] at hsilent
    exact .inl ⟨t, rfl, hsilent, rfl, rfl⟩
  | failed f => exact .inr ⟨fun _ => by simp, rfl⟩
  | unfinished => exact .inr ⟨fun _ => by simp, rfl⟩

/-- Only a text with fields can tell the two runs apart. -/
theorem exec_filled_eq (h : ∀ t, i ≠ .printFilled t) : i.exec filled s = i.exec literal s := by
  cases i with
  | printFilled t => exact absurd rfl (h t)
  | assign _ _ | print _ | skip => rfl

def added (text : String → Run String) (is : List Instruction) (s : Session) : List Output :=
  (run text is (s.withOutput [])).2.output

theorem output_run (htext : ∀ t, Appends (text t)) (is : List Instruction) (s : Session) :
    (run text is s).2.output = added text is s ++ s.output := by
  obtain ⟨o, t, new, hrun⟩ := run_appends htext is s
  have hnew : added text is s = new := by
    rw [added, hrun, List.append_nil]
    rfl
  have hs : run text is s = (o, t.withOutput (new ++ s.output)) := hrun s.output
  rw [hnew, hs]
  rfl

theorem output_literal (is : List Instruction) (s : Session) :
    (run literal is s).2.output = added literal is s ++ s.output :=
  output_run (fun _ => .pure _) is s

theorem output_filled (is : List Instruction) (s : Session) :
    (run filled is s).2.output = added filled is s ++ s.output :=
  output_run filled_appends is s

theorem output_literal_cons (hs : s.silent = false) (t : String) (is : List Instruction) :
    (run literal (.printFilled t :: is) s).2.output =
      added literal is s ++ (printedPieces t ++ s.output) := by
  rw [run, Run.bind_of_done (exec_printFilled_literal hs t), output_literal]
  rfl

/-- A text with fields is printed with their values, or one of them has none and the run ends. -/
theorem output_filled_cons (hs : s.silent = false) (t : String) (is : List Instruction) :
    (∃ shown, filled t s = (.done shown, s) ∧ (run filled (.printFilled t :: is) s).2.output =
      added filled is s ++ (printedPieces shown ++ s.output)) ∨
    (run filled (.printFilled t :: is) s).2.output = s.output := by
  -- The fields are looked up in one session, and it is there for what follows.
  have hkeeps : (filled t s).2 = s := filled_keeps t s
  rcases hfilled : filled t s with ⟨o, u⟩
  rw [hfilled] at hkeeps
  subst hkeeps
  have hrun : run filled (.printFilled t :: is) u =
      Run.bind (Run.bind (fun _ => (o, u)) fun shown => printValues [.str shown])
        (fun _ => run filled is) u := by
    change Run.bind (Run.bind (filled t) fun shown => printValues [.str shown]) _ u = _
    simp only [Run.bind, hfilled]
  cases o with
  | done shown =>
    refine .inl ⟨shown, rfl, ?_⟩
    rw [run, Run.bind_of_done (exec_printFilled hs hfilled), output_filled]
    rfl
  | failed f => exact .inr (by rw [hrun]; rfl)
  | unfinished => exact .inr (by rw [hrun]; rfl)

/-- If no text is changed, filling fields makes no difference. -/
theorem Unchanged.run_eq (h : Unchanged is s) : run filled is s = run literal is s := by
  induction is generalizing s with
  | nil => rfl
  | cons i is ih =>
    obtain ⟨hfirst, hrest⟩ := unchanged_cons_iff.mp h
    have hexec : i.exec filled s = i.exec literal s := by
      by_cases hi : ∃ t, i = .printFilled t
      · obtain ⟨t, rfl⟩ := hi
        rw [exec, exec, Run.bind_of_done (hfirst t rfl)]
        rfl
      · exact exec_filled_eq fun t ht => hi ⟨t, ht⟩
    rcases run_cons_of_exec_eq hexec is with ⟨t, hdone, -, hfilled, hliteral⟩ | ⟨-, hsame⟩
    · rw [hfilled, hliteral, ih (hrest t hdone)]
    · exact hsame

/-- If both runs print the same, no text is changed. -/
theorem unchanged_of_output_eq (hs : s.silent = false)
    (h : (run literal is s).2.output = (run filled is s).2.output) : Unchanged is s := by
  induction is generalizing s with
  | nil =>
    intro front t back u hsplit
    simp at hsplit
  | cons i is ih =>
    refine unchanged_cons_iff.mpr ?_
    by_cases hi : ∃ t, i = .printFilled t
    · obtain ⟨t, rfl⟩ := hi
      rw [output_literal_cons hs] at h
      rcases output_filled_cons hs t is with ⟨shown, hshown, hfilled⟩ | hfilled
      · -- Both add as much behind this text, so that it is the same in both.
        rw [hfilled, ← List.append_assoc, ← List.append_assoc, List.append_left_inj] at h
        have hlength : (added literal is s).length = (added filled is s).length := by
          simpa [printedPieces] using congrArg List.length h
        obtain ⟨hadded, hprinted⟩ := List.append_inj h hlength
        obtain rfl : t = shown := by simpa [printedPieces] using hprinted
        refine ⟨fun t' ht' => by cases ht'; exact hshown, fun u hu => ?_⟩
        rw [exec_printFilled_literal hs] at hu
        obtain rfl : _ = u := congrArg Prod.snd hu
        refine ih hs ?_
        rw [output_literal, output_filled]
        exact congrArg (· ++ _) hadded
      · -- The run that has ended here lacks what the other one prints.
        rw [hfilled, ← List.append_assoc, List.append_left_eq_self] at h
        simp [printedPieces] at h
    · have hexec : i.exec filled s = i.exec literal s := exec_filled_eq fun t ht => hi ⟨t, ht⟩
      refine ⟨fun t ht => absurd ⟨t, ht⟩ hi, fun u hu => ?_⟩
      rcases run_cons_of_exec_eq hexec is with ⟨t, hdone, hsilent, hfilled, hliteral⟩ | ⟨hstop, -⟩
      · obtain rfl : t = u := congrArg Prod.snd (hdone.symm.trans hu)
        rw [hfilled, hliteral] at h
        exact ih (hsilent.trans hs) h
      · exact absurd hu (hstop u)

/-- The two runs print the same exactly if no text is changed. -/
theorem output_eq_iff (hs : s.silent = false) :
    (run literal is s).2.output = (run filled is s).2.output ↔ Unchanged is s :=
  ⟨unchanged_of_output_eq hs, fun h => by rw [h.run_eq]⟩

end Runs

end Instruction

end Compile

end LineScript
