import LineScript.Proofs.Compile.Recognition
import LineScript.Proofs.Compile.Meaning
import LineScript.Proofs.Straight
import LineScript.Proofs.Transparency
import LineScript.Proofs.Expr.Quoted

/-!
# Compiled and interpreted scripts agree

A script of assignments and prints is run by the interpreter, and its compiled lines are run by what
they mean. Both read the lines in the same way, so that the two runs are those of the same
instructions. They differ only in texts with fields, which the interpreter prints as they are.
-/

namespace LineScript.Compile

open Text Statement

/-! ## Statements and forms -/

section Forms

variable {text name expr : String}

/-- The compiler takes an assignment for what the interpreter takes it. -/
theorem ofLine_of_statement_assign (h : Statement.ofLine? text = some (.assign name expr)) :
    Form.ofLine text = .assign name expr ∧ name.toList ≠ [] ∧ ∀ c ∈ name.toList, isWord c = true := by
  have hread : Statement.assign? text.toList = some (.assign name expr) := ofLine?_eq_some_iff.mp h
  refine ⟨(ofLine_eq_iff rfl).mpr (assign?_eq_some_iff.mpr hread), ?_⟩
  simp only [Statement.assign?, Option.bind_eq_bind, Option.bind_eq_some_iff] at hread
  obtain ⟨behind, hword, ⟨name, rest⟩, hname, inside, hopen, body, hclose, expr, hexpr, hst⟩ := hread
  obtain ⟨hne, hwords, -, -⟩ := parts_of_takeName? hname
  cases hst
  rw [String.toList_ofList]
  exact ⟨hne, hwords⟩

/-- The compiler takes a print for what the interpreter takes it, without blanks around it. -/
theorem ofLine_of_statement_print (h : Statement.ofLine? text = some (.print expr)) :
    Form.ofLine text = .print (strip expr) := by
  have hread : Statement.print? text.toList = some (.print expr) := ofLine?_eq_some_iff.mp h
  exact (ofLine_eq_iff rfl).mpr (print?_eq_some_iff.mpr ⟨expr, hread, rfl⟩)

end Forms

/-! ## Lines of straight scripts -/

/-- A text in quotes, without quotes and backslashes between them. -/
def InQuotes (text : String) : Prop :=
  ∃ quote body, Expr.IsQuote quote ∧ text.toList = quote :: (body ++ [quote]) ∧
    ∀ c ∈ body, ¬ Expr.IsQuote c ∧ c ≠ '\\'

/-- A text that is an expression without calls, or stands in quotes. -/
def Elementary (expr : String) : Prop :=
  (∃ e, Expr.parse? (strip expr) = some e ∧ e.callees = []) ∨ InQuotes (strip expr)

/-- A line that is empty, a comment, an assignment or a print. -/
inductive StraightLine (line : String) : Prop where
  | void (h : isVoid (strip line) = true)
  | assign {name expr : String} (h : Statement.ofLine? (strip line) = some (.assign name expr))
      (elementary : Elementary expr)
  | print {expr : String} (h : Statement.ofLine? (strip line) = some (.print expr))
      (elementary : Elementary expr)

/-- An expression to print whose compiled form says what it is: what is in quotes can stand in the
quotes of a text with fields, and what is not is no such text itself. -/
structure PrintsAsRead (expr : String) : Prop where
  quoted : isQuoted expr = true → ∀ c ∈ (unquoted expr).toList, c ≠ '"' ∧ c ≠ '\\'
  bare : isQuoted expr = false → filledText? expr.toList = none

/-- A line whose quotes are taken for the same by the interpreter and in its compiled form. -/
structure PlainLine (line : String) : Prop where
  assign : ∀ name expr, Statement.ofLine? (strip line) = some (.assign name expr) →
    PlainlyQuoted (strip expr)
  print : ∀ expr, Statement.ofLine? (strip line) = some (.print expr) → PrintsAsRead (strip expr)

instance (text : String) : Decidable (PlainlyQuoted text) :=
  decidable_of_iff (isQuoted text = true →
      (unquoted text).toList.all (fun c => some c != text.toList.head? && c != '\\') = true)
    (by simp [PlainlyQuoted])

instance (expr : String) : Decidable (PrintsAsRead expr) :=
  decidable_of_iff ((isQuoted expr = true →
      (unquoted expr).toList.all (fun c => c != '"' && c != '\\') = true) ∧
      (isQuoted expr = false → filledText? expr.toList = none))
    ⟨fun h => ⟨by simpa using h.1, h.2⟩, fun h => ⟨by simpa using h.quoted, h.bare⟩⟩

/-- The instruction that a statement is compiled to. -/
def instructionOf? : Statement → Option Instruction
  | .assign name expr => some (.assign name expr)
  | .print expr =>
    some (if isQuoted (strip expr) then .printFilled (unquoted (strip expr)) else .print (strip expr))
  | _ => none

/-- The instruction that a line is compiled to. -/
def instruction? (line : String) : Option Instruction :=
  (Statement.ofLine? (strip line)).bind instructionOf?

theorem instruction?_of_statement {line : String} {st : Statement}
    (h : Statement.ofLine? (strip line) = some st) : instruction? line = instructionOf? st := by
  rw [instruction?, h, Option.bind_some]

theorem instruction?_of_isVoid {line : String} (h : isVoid (strip line) = true) :
    instruction? line = none := by
  rw [instruction?, Statement.ofLine?_of_isVoid h, Option.bind_none]

/-! ## Values -/

theorem InQuotes.isQuoted {text : String} (h : InQuotes text) : isQuoted text = true := by
  obtain ⟨quote, body, hquote, hchars, -⟩ := h
  have hstart : startsWith text (String.singleton quote) = true :=
    startsWith_iff.mpr ⟨body ++ [quote], by simp [hchars]⟩
  have hend : endsWith text (String.singleton quote) = true :=
    endsWith_iff.mpr ⟨quote :: body, by simp [hchars]⟩
  rw [LineScript.isQuoted, Bool.or_eq_true, Bool.and_eq_true, Bool.and_eq_true]
  rcases hquote with rfl | rfl
  · exact .inl ⟨hstart, hend⟩
  · exact .inr ⟨hstart, hend⟩

/-- The interpreter finds the value of an expression. -/
theorem evalText_eq_valueOf {expr : String} (helementary : Elementary expr)
    (hplain : PlainlyQuoted (strip expr)) (call : Caller) : evalText call expr = valueOf expr := by
  cases hquoted : isQuoted (strip expr) with
  | true =>
    rw [evalText_of_quoted hquoted, valueOf]
    cases hparse : Expr.parse? (strip expr) with
    | some e =>
      dsimp only
      rw [eq_const_of_plainlyQuoted hparse hplain hquoted]
      rfl
    | none => simp only [hquoted, if_true]
  | false =>
    rcases helementary with ⟨e, hparse, hcalls⟩ | hquotes
    · have hfree : textCallees expr = [] := by simp only [textCallees, hparse, hcalls]
      rw [evalText_eq_of_callFree hfree call noCalls, evalText_of_parse_some hquoted hparse, valueOf]
      simp only [hparse]
    · rw [hquotes.isQuoted] at hquoted
      cases hquoted

/-! ## The interpreter -/

section Runs

variable {lines : List String}

theorem endless_of_straight (hstraight : ∀ line ∈ lines, StraightLine line) : Endless lines := by
  intro line hline
  have hvoid : isVoid "end" = false := by decide +kernel
  have hnone : Statement.ofLine? "end" = none := by decide +kernel
  cases hclose : closesBlock line with
  | false => rfl
  | true =>
    have hend : strip line = "end" := by simpa [closesBlock] using hclose
    cases hstraight line hline with
    | void h => simp [hend, hvoid] at h
    | assign h _ => simp [hend, hnone] at h
    | print h _ => simp [hend, hnone] at h

/-- The interpreter executes the instructions of a script, and leaves texts with fields as they are. -/
theorem runStraight_eq_run (hstraight : ∀ line ∈ lines, StraightLine line)
    (hplain : ∀ line ∈ lines, PlainLine line) (call : Caller) :
    runStraight call lines = Instruction.run literal (lines.filterMap instruction?) := by
  induction lines with
  | nil => rfl
  | cons line rest ih =>
    obtain ⟨hline, hrest⟩ := List.forall_mem_cons.mp hstraight
    obtain ⟨hquotes, hplain⟩ := List.forall_mem_cons.mp hplain
    have ih := ih hrest hplain
    cases hline with
    | void h =>
      have hnone := Statement.ofLine?_of_isVoid h
      rw [runStraight_of_none hnone, List.filterMap_cons_none (instruction?_of_isVoid h), ih]
    | @assign name expr h elementary =>
      rw [runStraight_of_statement h, List.filterMap_cons_some (instruction?_of_statement h),
        execStraight, evalText_eq_valueOf elementary (hquotes.assign name expr h) call, ih]
      -- The same three steps, bracketed otherwise.
      exact (Run.bind_assoc _ _ _).symm
    | @print expr h elementary =>
      rw [runStraight_of_statement h, List.filterMap_cons_some (instruction?_of_statement h),
        execStraight, ih]
      cases hquoted : isQuoted (strip expr) with
      | true =>
        rw [evalText_of_quoted hquoted, if_pos rfl]
        rfl
      | false =>
        have hvacuous : PlainlyQuoted (strip expr) := by simp [PlainlyQuoted, hquoted]
        rw [evalText_eq_valueOf elementary hvacuous call, ← valueOf_strip, if_neg Bool.false_ne_true]
        exact (Run.bind_assoc _ _ _).symm

theorem runLines_eq_run {s : Session} (off : s.debugger.Off)
    (hstraight : ∀ line ∈ lines, StraightLine line) (hplain : ∀ line ∈ lines, PlainLine line)
    (source : String) :
    runLines .standard callAny source lines s =
      Instruction.run literal (lines.filterMap instruction?) s := by
  rw [callAny, runLines_eq_quiet off, runLines_quiet, runAll,
    (endless_of_straight hstraight).runAhead_eq, runStraight_eq_run hstraight hplain]

theorem runFile_eq_run {s : Session} {path : String} (off : s.debugger.Off)
    (source : s.files.readLines path = .ok lines) (hstraight : ∀ line ∈ lines, StraightLine line)
    (hplain : ∀ line ∈ lines, PlainLine line) :
    runFile path s = Instruction.run literal (lines.filterMap instruction?) s := by
  rw [runFile, Host.runFile_of_readLines source]
  exact runLines_eq_run off hstraight hplain path

end Runs

/-! ## The compiled lines -/

section Compiled

variable {expr : String}

theorem ofLine?_indented (text : String) :
    Instruction.ofLine? ("    " ++ text ++ "\n") =
      (Instruction.print? text.toList <|> Instruction.assign? text.toList <|>
        if text.toList == "pass".toList then some .skip else none) := by
  have hchars : ("    " ++ text ++ "\n").toList = "    ".toList ++ (text.toList ++ ['\n']) := by simp
  simp only [Instruction.ofLine?, hchars, after?_append, beforeLast?_append, Option.bind_eq_bind,
    Option.bind_some]

theorem ofLine?_assign {name : String} (hne : name.toList ≠ [])
    (hname : ∀ c ∈ name.toList, isWord c = true) (expr : String) :
    Instruction.ofLine? ("    " ++ (name ++ " = " ++ expr) ++ "\n") = some (.assign name expr) := by
  have hspan : (name ++ " = " ++ expr).toList.span isWord = (name.toList, " = ".toList ++ expr.toList) := by
    rw [String.toList_append, String.toList_append, List.append_assoc]
    exact span_append hname (by rintro _ ⟨⟩; decide)
  -- A bracket right behind the word would be needed for a print.
  have hprint : after? "print(".toList (name ++ " = " ++ expr).toList = none := by
    refine after?_eq_none_iff.mpr ?_
    rintro ⟨rest, hrest⟩
    have hbracket : ("print".toList ++ '(' :: rest).span isWord = ("print".toList, '(' :: rest) :=
      span_append (List.all_eq_true.mp (by decide +kernel)) (by rintro _ ⟨⟩; decide)
    have hsame : "print".toList ++ '(' :: rest = (name ++ " = " ++ expr).toList := hrest
    rw [hsame, hspan] at hbracket
    cases (Prod.mk.inj hbracket).2
  rw [ofLine?_indented]
  simp only [Instruction.print?, hprint, Instruction.assign?, hspan, after?_append,
    String.ofList_toList]
  simp [hne]

theorem ofLine?_printText (h : PrintsAsRead expr) :
    Instruction.ofLine? ("    " ++ printText expr ++ "\n") =
      some (if isQuoted expr then .printFilled (unquoted expr) else .print expr) := by
  have hprint : ∀ inside : List Char, Instruction.print? ("print(".toList ++ (inside ++ [')'])) =
      some (Instruction.ofPrinted inside) := by
    intro inside
    simp only [Instruction.print?, after?_append, beforeLast?_append, Option.bind_eq_bind,
      Option.bind_some]
    rfl
  rw [ofLine?_indented, printText]
  cases hquoted : isQuoted expr with
  | true =>
    have hchars : ("print(f\"" ++ unquoted expr ++ "\")").toList =
        "print(".toList ++ (("f\"".toList ++ ((unquoted expr).toList ++ ['"'])) ++ [')']) := by
      simp
    have htext : filledText? ("f\"".toList ++ ((unquoted expr).toList ++ ['"'])) =
        some (unquoted expr).toList := by
      have hany : (unquoted expr).toList.any (fun c => c == '"' || c == '\\') = false := by
        rw [List.any_eq_false]
        intro c hc
        simp [h.quoted hquoted c hc]
      simp only [filledText?, after?_append, beforeLast?_append, Option.bind_eq_bind, Option.bind_some,
        hany, Bool.false_eq_true, if_false]
    rw [if_pos rfl, if_pos rfl, hchars, hprint, Instruction.ofPrinted, htext]
    simp
  | false =>
    have hchars : ("print(" ++ expr ++ ")").toList = "print(".toList ++ (expr.toList ++ [')']) := by simp
    rw [if_neg Bool.false_ne_true, if_neg Bool.false_ne_true, hchars, hprint, Instruction.ofPrinted,
      h.bare hquoted]
    simp

/-- The form of a line that is a statement. -/
theorem forms_of_statement {line : String} {st : Statement}
    (h : Statement.ofLine? (strip line) = some st) : forms [line] = [Form.ofLine (strip line)] := by
  simp [forms, Statement.isVoid_of_ofLine? h]

/-- A form that opens no block and closes none is written at the depth of all the others. -/
theorem mapM_emit_cons {form : Form} {fs : List Form} {text : String} {i : Instruction}
    {is : List Instruction} (htext : form.text? = some text) (hown : form.ownDepth 0 = 0)
    (hnext : form.nextDepth 0 = 0) (hread : Instruction.ofLine? ("    " ++ text ++ "\n") = some i)
    (hrest : ((emit 0 fs).map fun line => "    " ++ line ++ "\n").mapM Instruction.ofLine? = some is) :
    ((emit 0 (form :: fs)).map fun line => "    " ++ line ++ "\n").mapM Instruction.ofLine? =
      some (i :: is) := by
  have hdepth : atDepth 0 text = text := by simp [atDepth]
  rw [emit, htext, hown, hnext, Option.map_some, hdepth]
  simp [hread, hrest]

/-- The lines of the main function are the instructions of the script. -/
theorem mapM_emit {lines : List String} (hstraight : ∀ line ∈ lines, StraightLine line)
    (hplain : ∀ line ∈ lines, PlainLine line) :
    ((emit 0 (forms lines)).map fun line => "    " ++ line ++ "\n").mapM Instruction.ofLine? =
      some (lines.filterMap instruction?) := by
  induction lines with
  | nil => rfl
  | cons line rest ih =>
    obtain ⟨hline, hrest⟩ := List.forall_mem_cons.mp hstraight
    obtain ⟨hquotes, hplain⟩ := List.forall_mem_cons.mp hplain
    have ih := ih hrest hplain
    have hforms : forms (line :: rest) = forms [line] ++ forms rest := forms_append [line] rest
    rw [hforms]
    cases hline with
    | void h =>
      rw [List.filterMap_cons_none (instruction?_of_isVoid h)]
      simpa [forms, h] using ih
    | @assign name expr h elementary =>
      obtain ⟨hform, hne, hname⟩ := ofLine_of_statement_assign h
      rw [List.filterMap_cons_some (instruction?_of_statement h), forms_of_statement h, hform,
        List.singleton_append]
      exact mapM_emit_cons rfl rfl rfl (ofLine?_assign hne hname expr) ih
    | @print expr h elementary =>
      rw [List.filterMap_cons_some (instruction?_of_statement h), forms_of_statement h,
        ofLine_of_statement_print h, List.singleton_append]
      exact mapM_emit_cons rfl rfl rfl (ofLine?_printText (hquotes.print expr h)) ih

/-- The compiled file holds the instructions of the script, or one that does nothing. -/
theorem exists_program {lines : List String} (hstraight : ∀ line ∈ lines, StraightLine line)
    (hplain : ∀ line ∈ lines, PlainLine line) :
    ∃ program, Instruction.ofFile? ((programLines lines).map (· ++ "\n")) = some program ∧
      ∀ text, Instruction.run text program = Instruction.run text (lines.filterMap instruction?) := by
  have hmain : (((programLines lines).map (· ++ "\n")).drop 2).takeWhile (· != "\n") =
      (body lines).map (fun line => "    " ++ line ++ "\n") := by
    have hdrop : ((programLines lines).map (· ++ "\n")).drop 2 =
        (body lines).map (fun line => "    " ++ line ++ "\n") ++
          ["\n", "if __name__=='__main__':\n", "    _stryke_main()\n"] := by
      simp [programLines, Function.comp_def]
    rw [hdrop, List.takeWhile_append_of_pos]
    · simp
    · -- The blanks in front of it keep every line of the body from being empty.
      intro line hline
      obtain ⟨inner, -, rfl⟩ := List.mem_map.mp hline
      rw [bne_iff_ne]
      intro heq
      have hchars := congrArg String.toList heq
      simp at hchars
  have hemit := mapM_emit hstraight hplain
  unfold Instruction.ofFile?
  rw [hmain, body]
  cases hout : emit 0 (forms lines) with
  | nil =>
    rw [hout] at hemit
    have hnone : lines.filterMap instruction? = [] := (Option.some.inj hemit).symm
    refine ⟨[.skip], by decide, fun text => ?_⟩
    rw [hnone]
    rfl
  | cons line out =>
    rw [hout] at hemit
    exact ⟨_, hemit, fun _ => rfl⟩

end Compiled

/-! ## Agreement -/

/-- No quoted text is changed by its fields when the interpreter comes to print it. -/
def TextsUnchanged (path : String) (lines : List String) (s : Session) : Prop :=
  ∀ front line back expr t, lines = front ++ line :: back →
    Statement.ofLine? (strip line) = some (.print expr) → isQuoted (strip expr) = true →
    runLines .standard callAny path front s = (.done none, t) →
    filled (unquoted (strip expr)) t = (.done (unquoted (strip expr)), t)

theorem instruction?_eq_printFilled_iff {line text : String} :
    instruction? line = some (.printFilled text) ↔
      ∃ expr, Statement.ofLine? (strip line) = some (.print expr) ∧ isQuoted (strip expr) = true ∧
        text = unquoted (strip expr) := by
  constructor
  · intro h
    obtain ⟨st, hst, hinstruction⟩ := Option.bind_eq_some_iff.mp h
    cases st with
    | print expr =>
      refine ⟨expr, hst, ?_⟩
      cases hquoted : isQuoted (strip expr) with
      | true =>
        simp only [instructionOf?, hquoted, if_true, Option.some.injEq,
          Instruction.printFilled.injEq] at hinstruction
        exact ⟨rfl, hinstruction.symm⟩
      | false => simp [instructionOf?, hquoted] at hinstruction
    | assign _ _ | define _ _ | giveBack _ | branch _ => cases hinstruction
  · rintro ⟨expr, hst, hquoted, rfl⟩
    rw [instruction?_of_statement hst, instructionOf?, if_pos hquoted]

theorem unchanged_iff_textsUnchanged {path : String} {lines : List String} {s : Session}
    (off : s.debugger.Off) (hstraight : ∀ line ∈ lines, StraightLine line)
    (hplain : ∀ line ∈ lines, PlainLine line) :
    Instruction.Unchanged (lines.filterMap instruction?) s ↔ TextsUnchanged path lines s := by
  have hrun : ∀ front line back, lines = front ++ line :: back →
      runLines .standard callAny path front s =
        Instruction.run literal (front.filterMap instruction?) s := by
    intro front line back hsplit
    exact runLines_eq_run off (fun l hl => hstraight l (by simp [hsplit, hl]))
      (fun l hl => hplain l (by simp [hsplit, hl])) path
  constructor
  · intro h front line back expr t hsplit hst hquoted hfront
    rw [hrun front line back hsplit] at hfront
    have hline := instruction?_eq_printFilled_iff.mpr ⟨expr, hst, hquoted, rfl⟩
    refine h _ _ (back.filterMap instruction?) t ?_ hfront
    rw [hsplit, List.filterMap_append, List.filterMap_cons_some hline]
  · intro h front text back t hsplit hfront
    obtain ⟨first, rest, rfl, rfl, hrest⟩ := List.filterMap_eq_append_iff.mp hsplit
    -- Lines without an instruction may stand before the line of the text.
    obtain ⟨void, line, last, rfl, hvoid, hline, rfl⟩ := List.filterMap_eq_cons_iff.mp hrest
    obtain ⟨expr, hst, hquoted, rfl⟩ := instruction?_eq_printFilled_iff.mp hline
    refine h (first ++ void) line last expr t (by simp) hst hquoted ?_
    rw [hrun _ line last (by simp), List.filterMap_append, List.filterMap_eq_nil_iff.mpr hvoid,
      List.append_nil, hfront]

/-- A script of assignments and prints is compiled to a file of instructions. The interpreter and the
instructions print the same exactly if no quoted text is changed by its fields when it is printed; the
two runs are then the same in all. They are if no quoted text that is printed has a field. -/
theorem compiled_prints_alike_iff (files : Files.FileTree) (path : String) (output : Option String)
    (lines : List String) (place : Files.Location) (source : files.readLines path = .ok lines)
    (writable : files.target (outputPath path output) = .ok place)
    (straight : ∀ line ∈ lines, StraightLine line) (plain : ∀ line ∈ lines, PlainLine line) :
    let start := { Session.fresh with files := files }
    let compiled := compileFile path output start
    compiled.1 = .done () ∧
      ∃ file program, compiled.2.files.readLines (outputPath path output) = .ok file ∧
        Instruction.ofFile? file = some program ∧
        ((runFile path start).2.output = (Instruction.run filled program start).2.output ↔
          TextsUnchanged path lines start) ∧
        (TextsUnchanged path lines start →
          runFile path start = Instruction.run filled program start) ∧
        ((∀ line ∈ lines, ∀ expr, Statement.ofLine? (strip line) = some (.print expr) →
            isQuoted (strip expr) = true → ¬ HasField (unquoted (strip expr)).toList) →
          runFile path start = Instruction.run filled program start) := by
  intro start
  have off : start.debugger.Off := ⟨rfl, rfl, rfl⟩
  obtain ⟨hdone, hfile⟩ := readLines_compiled (s := start) source writable
  obtain ⟨program, hprogram, hsame⟩ := exists_program straight plain
  have hunchanged : Instruction.Unchanged (lines.filterMap instruction?) start ↔
      TextsUnchanged path lines start := unchanged_iff_textsUnchanged off straight plain
  have hrun : runFile path start = Instruction.run literal (lines.filterMap instruction?) start :=
    runFile_eq_run off source straight plain
  refine ⟨hdone, _, program, hfile, hprogram, ?_, ?_, ?_⟩
  · rw [hrun, hsame, ← hunchanged]
    exact Instruction.output_eq_iff rfl
  · intro h
    rw [hrun, hsame, (hunchanged.mpr h).run_eq]
  · intro hfields
    have htexts : TextsUnchanged path lines start := by
      intro front line back expr t hsplit hst hquoted _
      rw [filled_of_not_hasField (hfields line (by simp [hsplit]) expr hst hquoted)]
      rfl
    rw [hrun, hsame, (hunchanged.mpr htexts).run_eq]

section Greetings

variable {line expr : String} {e : Expr}

theorem straight_of_void (h : isVoid (strip line) = true) : StraightLine line ∧ PlainLine line := by
  have hnone := Statement.ofLine?_of_isVoid h
  exact ⟨.void h, fun _ _ hst => by simp [hnone] at hst, fun _ hst => by simp [hnone] at hst⟩

theorem straight_of_assign (name : String)
    (h : Statement.ofLine? (strip line) = some (.assign name expr))
    (hparse : Expr.parse? (strip expr) = some e) (hcalls : e.callees = [])
    (hplain : PlainlyQuoted (strip expr)) : StraightLine line ∧ PlainLine line := by
  refine ⟨.assign h (.inl ⟨e, hparse, hcalls⟩), fun _ _ hst => ?_, fun _ hst => by simp [h] at hst⟩
  cases h.symm.trans hst
  exact hplain

theorem straight_of_print (h : Statement.ofLine? (strip line) = some (.print expr))
    (hparse : Expr.parse? (strip expr) = some e) (hcalls : e.callees = [])
    (hplain : PrintsAsRead (strip expr)) : StraightLine line ∧ PlainLine line := by
  refine ⟨.print h (.inl ⟨e, hparse, hcalls⟩), fun _ _ hst => by simp [h] at hst, fun _ hst => ?_⟩
  cases h.symm.trans hst
  exact hplain

end Greetings

/-- A greeting with braces around something that is no word. -/
def formalGreeting : List String :=
  ["# greeting", "stryset name ('Hay')", "", "stryprint name + '!'", "stryprint \"Welcome, {name }!\""]

theorem straight_formalGreeting :
    ∀ line ∈ formalGreeting.map (· ++ "\n"), StraightLine line ∧ PlainLine line := by
  have hname : Expr.parse? (strip "'Hay'") = some (.const (.str "Hay")) := by cbv
  have hsum : Expr.parse? (strip "name + '!'") =
      some (.binary .add (.name "name") (.const (.str "!"))) := by cbv
  have htext : Expr.parse? (strip "\"Welcome, {name }!\"") =
      some (.const (.str "Welcome, {name }!")) := by cbv
  simp only [formalGreeting, List.map_cons, List.map_nil, List.forall_mem_cons]
  refine ⟨straight_of_void (by decide +kernel), ?_, straight_of_void (by decide +kernel), ?_, ?_, by simp⟩
  · exact straight_of_assign "name" (by decide +kernel) hname rfl (by decide +kernel)
  · exact straight_of_print (by decide +kernel) hsum rfl (by decide +kernel)
  · exact straight_of_print (by decide +kernel) htext rfl (by decide +kernel)

theorem formalGreeting_prints_alike :
    ∃ file program,
      (compileFile "p" (some "q") (scriptSession formalGreeting)).2.files.readLines "q" = .ok file ∧
        Instruction.ofFile? file = some program ∧
        runFile "p" (scriptSession formalGreeting) =
          Instruction.run filled program (scriptSession formalGreeting) := by
  have hstraight := straight_formalGreeting
  obtain ⟨-, file, program, hfile, hprogram, -, -, hsame⟩ := compiled_prints_alike_iff
    (scriptSession formalGreeting).files "p" (some "q") _ _ (readLines_scriptSession (by decide +kernel))
    (target_scriptSession formalGreeting) (fun line hline => (hstraight line hline).1)
    fun line hline => (hstraight line hline).2
  refine ⟨file, program, hfile, hprogram, hsame fun line hline expr hst hquoted => ?_⟩
  have hinstructions : (formalGreeting.map (· ++ "\n")).filterMap instruction? =
      [.assign "name" "'Hay'", .print "name + '!'", .printFilled "Welcome, {name }!"] := by
    decide +kernel
  have hmem := List.mem_filterMap.mpr
    ⟨line, hline, instruction?_eq_printFilled_iff.mpr ⟨expr, hst, hquoted, rfl⟩⟩
  rw [hinstructions] at hmem
  have htext : unquoted (strip expr) = "Welcome, {name }!" := by simpa using hmem
  rw [htext]
  decide +kernel

def greeting : List String :=
  ["stryset name (\"Hay\")", "stryprint \"Welcome, {name}!\""]

/-- The interpreter prints the field of a greeting, and the compiled greeting prints its value. -/
theorem greeting_prints_apart :
    (∀ line ∈ greeting.map (· ++ "\n"), StraightLine line ∧ PlainLine line) ∧
      ∃ file program,
        (compileFile "p" (some "q") (scriptSession greeting)).2.files.readLines "q" = .ok file ∧
        Instruction.ofFile? file = some program ∧
        (runFile "p" (scriptSession greeting)).2.output = printedPieces "Welcome, {name}!" ∧
        (Instruction.run filled program (scriptSession greeting)).2.output =
          printedPieces "Welcome, Hay!" := by
  have hname : Expr.parse? (strip "\"Hay\"") = some (.const (.str "Hay")) := by cbv
  have htext : Expr.parse? (strip "\"Welcome, {name}!\"") =
      some (.const (.str "Welcome, {name}!")) := by cbv
  have hlines : ∀ line ∈ greeting.map (· ++ "\n"), StraightLine line ∧ PlainLine line := by
    simp only [greeting, List.map_cons, List.map_nil, List.forall_mem_cons]
    refine ⟨?_, ?_, by simp⟩
    · exact straight_of_assign "name" (by decide +kernel) hname rfl (by decide +kernel)
    · exact straight_of_print (by decide +kernel) htext rfl (by decide +kernel)
  have hstraight := fun line hline => (hlines line hline).1
  have hplain := fun line hline => (hlines line hline).2
  have hsource : (scriptSession greeting).files.readLines "p" = .ok (greeting.map (· ++ "\n")) :=
    readLines_scriptSession (by decide +kernel)
  have hwritable : (scriptSession greeting).files.target (outputPath "p" (some "q")) = .ok _ :=
    target_scriptSession greeting
  have hinstructions : (greeting.map (· ++ "\n")).filterMap instruction? =
      [.assign "name" "\"Hay\"", .printFilled "Welcome, {name}!"] := by decide +kernel
  obtain ⟨program, hprogram, hsame⟩ := exists_program hstraight hplain
  refine ⟨hlines, _, program, (readLines_compiled hsource hwritable).2, hprogram, ?_, ?_⟩
  · rw [runFile_eq_run ⟨rfl, rfl, rfl⟩ hsource hstraight hplain, hinstructions]
    cbv
  · rw [hsame, hinstructions]
    cbv

end LineScript.Compile
