import LineScript.Proofs.Branch
import LineScript.Proofs.Compile.Forms

/-!
# Statements take their text whole

A statement is recognised by its first word and by what stands at its end. What stands between is its text,
whatever brackets, colons, blanks and quotes are in it: a closing bracket inside never ends it, since the one
that does is the last of the line. Blanks at the ends of the text may get lost, but they do not change its
value. So, while the debugger is off, a written statement does what it says with the value of the text that
was written.
-/

namespace LineScript

open Run

/-! ## Lines that begin with a word -/

section Words

open Text Statement

/-- Stripping a line leaves the word at its start alone, and takes blanks away behind its text only. -/
theorem toList_strip_of_word (word : String) {line text : String}
    (hline : line.toList = word.toList ++ ' ' :: text.toList)
    (hword : word.toList.head?.any (!isBlank ·) = true) (htext : trim text.toList ≠ []) :
    ∃ rest, (strip line).toList = word.toList ++ ' ' :: rest ∧ trimStart rest = trim text.toList := by
  obtain ⟨front, back, hsplit, hfront, hback⟩ := exists_blanks_around text.toList
  have hchars : line.toList = (word.toList ++ (' ' :: front ++ trim text.toList)) ++ back := by
    rw [hline]
    nth_rewrite 1 [hsplit]
    simp
  have hlast : (trim text.toList).getLast?.any (!isBlank ·) = true := by
    rw [List.getLast?_eq_some_getLast htext]
    simpa using (trimmed_trim text.toList).last _ (List.getLast?_eq_some_getLast htext)
  refine ⟨front ++ trim text.toList, ?_, ?_⟩
  · rw [strip, String.toList_ofList, hchars, trim_append_blank _ hback,
      (trimmed_between hword hlast _).trim, List.cons_append]
  · rw [trimStart_append hfront]
    exact trimStart_of_head (trimmed_trim text.toList).head

variable {text : String}

theorem oneLine?_trim (hline : '\n' ∉ text.toList) (htext : trim text.toList ≠ []) :
    oneLine? (trim text.toList) = some (trim text.toList) := by
  have hmem : '\n' ∉ trim text.toList := fun h => hline (mem_of_mem_trim h)
  simp [oneLine?, htext, hmem]

/-- A print takes all that stands behind its word. -/
theorem ofLine?_print (hline : '\n' ∉ text.toList) (htext : trim text.toList ≠ []) :
    Statement.ofLine? (strip ("stryprint " ++ text)) = some (.print (strip text)) := by
  have hline' : ("stryprint " ++ text).toList = "stryprint".toList ++ ' ' :: text.toList := by simp
  obtain ⟨rest, hchars, hrest⟩ := toList_strip_of_word "stryprint" hline' (by decide) htext
  have hprint : print? ("stryprint".toList ++ ' ' :: rest) = some (.print (strip text)) := by
    simp only [print?, afterWord?_append_blank, hrest, oneLine?_trim hline htext, Option.bind_eq_bind,
      Option.bind_some]
    rfl
  simp only [Statement.ofLine?, hchars, hprint]
  rfl

/-- So does a line that gives a value back. -/
theorem ofLine?_giveBack (hline : '\n' ∉ text.toList) (htext : trim text.toList ≠ []) :
    Statement.ofLine? (strip ("return " ++ text)) = some (.giveBack (strip text)) := by
  have hline' : ("return " ++ text).toList = "return".toList ++ ' ' :: text.toList := by simp
  obtain ⟨rest, hchars, hrest⟩ := toList_strip_of_word "return" hline' (by decide) htext
  have hgiveBack : giveBack? ("return".toList ++ ' ' :: rest) = some (.giveBack (strip text)) := by
    simp only [giveBack?, afterWord?_append_blank, hrest, oneLine?_trim hline htext, Option.bind_eq_bind,
      Option.bind_some]
    rfl
  simp only [Statement.ofLine?, hchars, hgiveBack]
  rfl

/-- An assignment takes what stands between its outer brackets. -/
theorem exists_ofLine?_assign (name : Compile.Word) (hne : text ≠ "") (hline : '\n' ∉ text.toList) :
    ∃ inner, Statement.ofLine? (strip ("stryset " ++ name.text ++ " (" ++ text ++ ")")) =
      some (.assign name.text inner) ∧ strip inner = strip text := by
  have hchars : ("stryset " ++ name.text ++ " (" ++ text ++ ")").toList =
      "stryset".toList ++ ' ' :: (name.text.toList ++ ' ' :: '(' :: (text.toList ++ [')'])) := by
    simp
  have htrimmed : Trimmed ("stryset " ++ name.text ++ " (" ++ text ++ ")").toList := by
    have hends : ("stryset " ++ name.text ++ " (" ++ text ++ ")").toList =
        "stryset ".toList ++ (name.text.toList ++ " (".toList ++ text.toList ++ [')']) := by
      simp
    rw [hends]
    exact trimmed_between (by decide) (by decide) _
  obtain ⟨inner, henclosed, htrim⟩ := exists_enclosed? (show text.toList ≠ [] by simpa using hne) hline
  have hname : takeName? (name.text.toList ++ ' ' :: '(' :: (text.toList ++ [')'])) =
      some (name.text.toList, '(' :: (text.toList ++ [')'])) :=
    takeName?_append name.ne_nil name.isWord (by rintro _ ⟨⟩; decide)
  have hassign : assign? ("stryset".toList ++ ' ' :: (name.text.toList ++ ' ' :: '(' ::
      (text.toList ++ [')']))) = some (.assign name.text (String.ofList inner)) := by
    simp only [assign?, afterWord?_append _ (name.head_isBlank _), hname, afterOpen?, beforeLast?_append,
      henclosed, Option.bind_eq_bind, Option.bind_some, String.ofList_toList]
    rfl
  refine ⟨String.ofList inner, ?_, ?_⟩
  · rw [strip, htrimmed.trim, String.ofList_toList]
    simp only [Statement.ofLine?, hchars, hassign]
    rfl
  · simp only [strip, String.toList_ofList, htrim]

end Words

/-! ## Written statements -/

/-- What a branch leads to: what its block has given back, or a jump to its `end`. -/
def LineResult.ofBlock (stop : Int) : Option Value → LineResult
  | some v => .returned v
  | none => .jump stop

/-- Run the block of a branch that ends at an index. -/
def Run.orJump (m : Run (Option Value)) (stop : Int) : Run LineResult := do
  return LineResult.ofBlock stop (← m)

/-- A branch evaluates its condition, looks for its block, and runs it if the condition counts as true. -/
theorem Statement.exec_branch (call : Caller) (run : List String → Run (Option Value)) (p : Place)
    (condition : String) :
    (Statement.branch condition).exec call run p =
      evalText call condition >>= fun c => Run.ofResult p.block >>= fun b =>
        if c.truthy then (run b.1).orJump b.2 else pure (.jump b.2) := by
  rw [Statement.exec]
  congr 1
  funext c
  congr 1
  funext b
  cases c.truthy with
  | false => rfl
  | true =>
    change run b.1 >>= _ = run b.1 >>= _
    congr 1
    funext given
    cases given <;> rfl

/-- Statements take their text whole. The name is a word, and the text is on one line and holds something
else than blanks. While the debugger is off, an assignment sets its name to the value of the text, a print
prints that value, a line that gives back gives it back, and a branch has it for its condition. -/
theorem statements_take_text_whole (name : Compile.Word) {text : String} (honeLine : '\n' ∉ text.toList)
    (hsolid : ∃ c ∈ text.toList, Text.isBlank c = false) (depth : Nat) (p : Place) {s : Session}
    (off : s.debugger.Off) :
    execLine .standard (callNamed .standard depth) p ("stryset " ++ name.text ++ " (" ++ text ++ ")") s =
      (do
        let v ← Host.standard.evaluate depth text
        Run.modify fun s => { s with vars := s.vars.set name.text v }
        return .next : Run LineResult) s ∧
    execLine .standard (callNamed .standard depth) p ("stryprint " ++ text) s =
      (do
        let v ← Host.standard.evaluate depth text
        printValues [v]
        return .next : Run LineResult) s ∧
    execLine .standard (callNamed .standard depth) p ("return " ++ text) s =
      (do
        let v ← Host.standard.evaluate depth text
        return .returned v : Run LineResult) s ∧
    execLine .standard (callNamed .standard depth) p ("if (" ++ text ++ "):") s =
      (do
        let c ← Host.standard.evaluate depth text
        let b ← Run.ofResult p.block
        if c.truthy then (runBlock .standard (callNamed .standard depth) b.1).orJump b.2
        else return .jump b.2 : Run LineResult) s := by
  have htext : Text.trim text.toList ≠ [] := Text.trim_ne_nil hsolid
  have hne : text ≠ "" := by
    rintro rfl
    simp at hsolid
  refine ⟨?_, ?_, ?_, ?_⟩
  · obtain ⟨inner, hread, hinner⟩ := exists_ofLine?_assign name hne honeLine
    rw [execLine_of_statement off hread, Statement.exec, evalText_of_strip_eq hinner]
    rfl
  · rw [execLine_of_statement off (ofLine?_print honeLine htext), Statement.exec,
      evalText_of_strip_eq (Text.strip_strip text)]
    rfl
  · rw [execLine_of_statement off (ofLine?_giveBack honeLine htext), Statement.exec,
      evalText_of_strip_eq (Text.strip_strip text)]
    rfl
  · obtain ⟨inner, hread, hinner⟩ := exists_ofLine?_branchHeader hne honeLine
    have hheader : Statement.ofLine? (Text.strip (branchHeader text)) = some (.branch inner) := by
      have hstrip := @strip_branchHeader_append text "" (by simp)
      rw [String.append_empty] at hstrip
      rwa [hstrip]
    rw [← branchHeader, execLine_of_statement off hheader, Statement.exec_branch,
      evalText_of_strip_eq hinner]
    rfl

/-- A text that reads like the end of a statement and the start of another. -/
def deceptiveText : String :=
  " '): stryset (' "

theorem deceptiveText_taken_whole :
    execLine .standard (callNamed .standard 0) ⟨none, none, unnamedSource⟩
      ("stryset " ++ "note" ++ " (" ++ deceptiveText ++ ")") .fresh =
      (.done .next, { Session.fresh with vars := [("note", .str "): stryset (")] }) ∧
    execLine .standard (callNamed .standard 0) ⟨none, none, unnamedSource⟩
      ("if (" ++ deceptiveText ++ "):") .fresh =
      (.failed (.type (.operands "+" .none .int)), .fresh) := by
  have hvalue : Host.standard.evaluate 0 deceptiveText = pure (.str "): stryset (") := by
    rw [Host.evaluate, evalText_of_quoted (by decide +kernel)]
    rfl
  obtain ⟨hassign, -, -, hbranch⟩ := @statements_take_text_whole ⟨"note", by decide, by decide +kernel⟩
    deceptiveText (by decide) ⟨')', by decide, by decide⟩ 0 ⟨none, none, unnamedSource⟩ .fresh
    ⟨rfl, rfl, rfl⟩
  rw [hvalue] at hassign hbranch
  exact ⟨hassign, hbranch⟩

end LineScript
