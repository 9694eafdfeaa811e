import LineScript.Proofs.Compile.Forms
import LineScript.Proofs.Files
import LineScript.Proofs.Text.Utf8
import Mathlib

/-!
# Blocks keep their structure

A structured program is a tree of statements and blocks. Written out line by line and compiled, it
becomes the lines of the tree, each translated and indented by the number of blocks around it: the
compiler, which only counts, is back at the same count after each statement and each block.
-/

namespace LineScript.Compile

open Text

/-! ## Structured programs -/

/-- Blanks in front of what stands in a line, and behind it. -/
structure Margin where
  front : String
  back : String
  all_isBlank : (front.toList ++ back.toList).all isBlank = true
  oneLine : OneLine (front.toList ++ back.toList)

def Margin.around (margin : Margin) (text : String) : String :=
  margin.front ++ text ++ margin.back

inductive Simple where
  | assign (name : Word) (expr : Expression)
  | print (expr : Expression)
  | giveBack (expr : Expression)
  | note (name : Word)
  | raw (text : RawLine)

inductive Header where
  | branch (condition : Expression)
  | loop (condition : Expression)
  | define (name : Word) (params : Phrase)

/-- A statement, a block, or a branch with another one, each line with a margin of its own. -/
inductive Tree where
  | simple (margin : Margin) (statement : Simple)
  | block (margin : Margin) (header : Header) (body : List Tree) (last : Margin)
  | choice (margin : Margin) (condition : Expression) (body : List Tree) (middle : Margin)
      (other : List Tree) (last : Margin)

def Simple.source : Simple → String
  | .assign name expr => "stryset " ++ name.text ++ " (" ++ expr.text ++ ")"
  | .print expr => "stryprint " ++ expr.text
  | .giveBack expr => "return " ++ expr.text
  | .note name => "import " ++ name.text
  | .raw text => text.text

def Header.source : Header → String
  | .branch condition => "if (" ++ condition.text ++ "):"
  | .loop condition => "while (" ++ condition.text ++ "):"
  | .define name params => "def " ++ name.text ++ "(" ++ params.text ++ "):"

mutual

/-- The lines of a tree, without line ends. -/
def Tree.lines : Tree → List String
  | .simple margin statement => [margin.around statement.source]
  | .block margin header body last =>
    [margin.around header.source] ++ Tree.linesAll body ++ [last.around "end"]
  | .choice margin condition body middle other last =>
    [margin.around (Header.branch condition).source] ++ Tree.linesAll body ++
      [middle.around "else:"] ++ Tree.linesAll other ++ [last.around "end"]

def Tree.linesAll : List Tree → List String
  | [] => []
  | t :: ts => t.lines ++ Tree.linesAll ts

end

def script (trees : List Tree) : String :=
  String.join ((Tree.linesAll trees).map (· ++ "\n"))

/-! ## Their translation -/

def Simple.target : Simple → String
  | .assign name expr => name.text ++ " = " ++ expr.text
  | .print expr =>
    if isQuoted expr.text then "print(f\"" ++ unquoted expr.text ++ "\")"
    else "print(" ++ expr.text ++ ")"
  | .giveBack expr => "return " ++ expr.text
  | .note name => "# import " ++ name.text ++ " (module needs manual conversion)"
  | .raw text => text.text

def Header.target : Header → String
  | .branch condition => "if " ++ condition.text ++ ":"
  | .loop condition => "while " ++ condition.text ++ ":"
  | .define name params => "def " ++ name.text ++ "(" ++ params.text ++ "):"

/-- A line of the program inside `depth` blocks. -/
def indented (depth : Nat) (text : String) : String :=
  String.ofList (List.replicate (4 * (depth + 1)) ' ') ++ text

mutual

/-- The lines that a tree inside `depth` blocks is translated to. -/
def Tree.render (depth : Nat) : Tree → List String
  | .simple _ statement => [indented depth statement.target]
  | .block _ header body _ => [indented depth header.target] ++ Tree.renderAll (depth + 1) body
  | .choice _ condition body _ other _ =>
    [indented depth (Header.branch condition).target] ++ Tree.renderAll (depth + 1) body ++
      [indented depth "else:"] ++ Tree.renderAll (depth + 1) other

def Tree.renderAll (depth : Nat) : List Tree → List String
  | [] => []
  | t :: ts => t.render depth ++ Tree.renderAll depth ts

end

/-- The program of a structured program, between what every program begins and ends with. -/
def rendering (trees : List Tree) : String :=
  let body := match Tree.renderAll 0 trees with
    | [] => [indented 0 "pass"]
    | lines => lines
  "# Auto-compiled from .stryke\ndef _stryke_main():\n" ++ String.join (body.map (· ++ "\n")) ++
    "\nif __name__=='__main__':\n    _stryke_main()\n"

/-! ## One line -/

/-- The compiler takes a line for a form. The line has no blanks at its ends, is not empty and no
comment. -/
structure Reads (text : String) (form : Form) : Prop where
  oneLine : OneLine text.toList
  trimmed : Trimmed text.toList
  not_void : isVoid text = false
  ofLine : Form.ofLine text = form

theorem isVoid_eq_false {text : String} (hne : text.toList ≠ []) (hcomment : ¬ ['#'] <+: text.toList) :
    isVoid text = false := by
  have hempty : text.isEmpty = false := by
    rw [String.isEmpty_eq_false_iff]
    rintro rfl
    exact hne rfl
  have hstart : startsWith text "#" = false := by
    rw [startsWith, Option.isSome_eq_false_iff, Option.isNone_iff_eq_none]
    exact after?_eq_none_iff.mpr hcomment
  rw [isVoid, hempty, hstart]
  rfl

theorem keywords_begin : ∀ word ∈ keywords, word.toList ≠ [] ∧ OneLine word.toList ∧
    word.toList.head?.all (fun c => !isBlank c && c != '#') = true := by
  decide +kernel

/-- A line that begins with a word and ends with a part that has no blank at its end. -/
theorem reads_of_word (word : String) (front back : List Char) {text : String} {form : Form}
    (hword : word ∈ keywords) (h : text.toList = word.toList ++ front ++ back)
    (hfront : OneLine front) (hback : OneLine back) (hne : back ≠ [])
    (hlast : back.getLast?.all (!isBlank ·) = true) (hform : Form.ofLine text = form) :
    Reads text form := by
  obtain ⟨hword_ne, hword_one, hword_head⟩ := keywords_begin word hword
  obtain ⟨c, cs, hc⟩ := List.exists_cons_of_ne_nil hword_ne
  obtain ⟨hblank, hhash⟩ : isBlank c = false ∧ c ≠ '#' := by simpa [hc] using hword_head
  refine ⟨?_, ⟨?_, ?_⟩, isVoid_eq_false ?_ ?_, hform⟩
  · simp only [h, oneLine_append]
    exact ⟨⟨hword_one, hfront⟩, hback⟩
  · simp [h, hc, hblank]
  · rw [h, List.getLast?_append, Option.or_of_isSome (List.getLast?_isSome.mpr hne)]
    exact hlast
  · simp [h, hne]
  · rw [h, hc, List.append_assoc, List.cons_append, List.cons_prefix_cons]
    exact fun hprefix => hhash hprefix.1.symm

theorem Word.oneLine (w : Word) : OneLine w.text.toList := by
  constructor
  · intro h
    exact absurd (w.isWord _ h) (by decide)
  · intro h
    exact absurd (w.isWord _ h) (by decide)

/-- What the compiler takes a statement for. -/
def Simple.form : Simple → Form
  | .assign name expr => .assign name.text expr.text
  | .print expr => .print expr.text
  | .giveBack expr => .giveBack expr.text
  | .note name => .note name.text
  | .raw text => .raw text.text

theorem Simple.reads (s : Simple) : Reads s.source s.form := by
  cases s with
  | assign name expr =>
    exact reads_of_word "stryset" ([' '] ++ name.text.toList ++ [' ', '('] ++ expr.text.toList) [')']
      (by decide) (by simp [Simple.source]) (by simp [name.oneLine, expr.oneLine]) (by decide)
      (by decide) (by decide) (ofLine_of_assign name expr (by simp [Simple.source]))
  | print expr =>
    exact reads_of_word "stryprint" [' '] expr.text.toList (by decide) (by simp [Simple.source])
      (by decide) expr.oneLine expr.ne_nil expr.trimmed.2
      (ofLine_of_print expr (by simp [Simple.source]))
  | giveBack expr =>
    exact reads_of_word "return" [' '] expr.text.toList (by decide) (by simp [Simple.source])
      (by decide) expr.oneLine expr.ne_nil expr.trimmed.2
      (ofLine_of_giveBack expr (by simp [Simple.source]))
  | note name =>
    exact reads_of_word "import" [' '] name.text.toList (by decide) (by simp [Simple.source])
      (by decide) name.oneLine name.ne_nil name.trimmed.2
      (ofLine_of_note name (by simp [Simple.source]))
  | raw text =>
    exact ⟨text.oneLine, text.trimmed, isVoid_eq_false text.ne_nil text.no_comment, ofLine_of_raw text⟩

/-- What the compiler takes the first line of a block for. -/
def Header.form : Header → Form
  | .branch condition => .branch condition.text
  | .loop condition => .loop condition.text
  | .define name params => .define name.text params.text

theorem Header.reads (h : Header) : Reads h.source h.form := by
  cases h with
  | branch condition =>
    exact reads_of_word "if" ([' ', '('] ++ condition.text.toList) [')', ':'] (by decide)
      (by simp [Header.source]) (by simp [condition.oneLine]) (by decide) (by decide) (by decide)
      (ofLine_of_branch condition (by simp [Header.source]))
  | loop condition =>
    exact reads_of_word "while" ([' ', '('] ++ condition.text.toList) [')', ':'] (by decide)
      (by simp [Header.source]) (by simp [condition.oneLine]) (by decide) (by decide) (by decide)
      (ofLine_of_loop condition (by simp [Header.source]))
  | define name params =>
    exact reads_of_word "def" ([' '] ++ name.text.toList ++ ['('] ++ params.text.toList) [')', ':']
      (by decide) (by simp [Header.source]) (by simp [name.oneLine, params.oneLine]) (by decide)
      (by decide) (by decide) (ofLine_of_define name params (by simp [Header.source]))

theorem reads_otherwise : Reads "else:" .otherwise :=
  ⟨by decide, by decide, by decide +kernel, ofLine_otherwise⟩

theorem reads_close : Reads "end" .close :=
  ⟨by decide, by decide, by decide +kernel, ofLine_close⟩

theorem forms_append (first second : List String) :
    forms (first ++ second) = forms first ++ forms second := by
  simp [forms]

/-- The form of a line behind a margin. -/
theorem Reads.forms_line {text : String} {form : Form} (h : Reads text form) (margin : Margin) :
    forms [margin.around text ++ "\n"] = [form] := by
  have hblank := List.all_eq_true.mp margin.all_isBlank
  simp only [List.mem_append] at hblank
  have hstrip : strip (margin.around text ++ "\n") = text := by
    have hchars : (margin.around text ++ "\n").toList =
        margin.front.toList ++ text.toList ++ (margin.back.toList ++ ['\n']) := by
      simp [Margin.around]
    have hback : ∀ c ∈ margin.back.toList ++ ['\n'], isBlank c = true := by
      simp only [List.mem_append, List.mem_singleton]
      rintro c (hc | rfl)
      · exact hblank c (.inr hc)
      · decide
    rw [strip, hchars, h.trimmed.trim_append (fun c hc => hblank c (.inl hc)) hback,
      String.ofList_toList]
  simp [forms, hstrip, h.not_void, h.ofLine]

/-! ## Emission -/

/-- Lines are read with `depth` blocks open, become some lines of the program, and leave `depth'`
blocks open for all that follows. -/
def Emits (depth : Nat) (lines out : List String) (depth' : Nat) : Prop :=
  ∀ rest, (emit depth (forms (lines.map (· ++ "\n")) ++ rest)).map ("    " ++ ·) =
    out ++ (emit depth' rest).map ("    " ++ ·)

theorem four_append_atDepth (depth : Nat) (text : String) :
    "    " ++ atDepth depth text = indented depth text := by
  have hfour : "    " = String.ofList (List.replicate 4 ' ') := rfl
  rw [atDepth, indented, hfour, ← String.append_assoc, ← String.ofList_append,
    List.replicate_append_replicate, Nat.mul_add, Nat.mul_one, Nat.add_comm]

namespace Emits

theorem nil (depth : Nat) : Emits depth [] [] depth :=
  fun _ => rfl

theorem append {d d' d'' : Nat} {lines lines' out out' : List String} (h : Emits d lines out d')
    (h' : Emits d' lines' out' d'') : Emits d (lines ++ lines') (out ++ out') d'' := by
  intro rest
  rw [List.map_append, forms_append, List.append_assoc, h, h', List.append_assoc]

theorem of_reads {text : String} {form : Form} (h : Reads text form) (margin : Margin) (depth : Nat) :
    Emits depth [margin.around text] (form.text?.map (indented (form.ownDepth depth))).toList
      (form.nextDepth depth) := by
  intro rest
  rw [List.map_singleton, h.forms_line margin, List.singleton_append, emit, List.map_append]
  cases form.text? with
  | none => rfl
  | some text => simp [four_append_atDepth]

end Emits

theorem Simple.emits (s : Simple) (margin : Margin) (depth : Nat) :
    Emits depth [margin.around s.source] [indented depth s.target] depth := by
  have h := Emits.of_reads s.reads margin depth
  cases s <;> exact h

theorem Header.emits (h : Header) (margin : Margin) (depth : Nat) :
    Emits depth [margin.around h.source] [indented depth h.target] (depth + 1) := by
  have hreads := Emits.of_reads h.reads margin depth
  cases h <;> exact hreads

theorem emits_otherwise (margin : Margin) (depth : Nat) :
    Emits (depth + 1) [margin.around "else:"] [indented depth "else:"] (depth + 1) :=
  Emits.of_reads reads_otherwise margin (depth + 1)

theorem emits_close (margin : Margin) (depth : Nat) :
    Emits (depth + 1) [margin.around "end"] [] depth :=
  Emits.of_reads reads_close margin (depth + 1)

mutual

/-- A tree becomes its rendering, and leaves as many blocks open as there were. -/
theorem Tree.emits : (t : Tree) → (depth : Nat) → Emits depth t.lines (t.render depth) depth
  | .simple margin statement, depth => by
    rw [Tree.lines, Tree.render]
    exact statement.emits margin depth
  | .block margin header body last, depth => by
    have hblock := ((header.emits margin depth).append (Tree.emits_all body (depth + 1))).append
      (emits_close last depth)
    rw [List.append_nil] at hblock
    rw [Tree.lines, Tree.render]
    exact hblock
  | .choice margin condition body middle other last, depth => by
    -- The line between the two bodies closes one block and opens another.
    have hbody := ((Header.branch condition).emits margin depth).append
      (Tree.emits_all body (depth + 1))
    have hother := (emits_otherwise middle depth).append (Tree.emits_all other (depth + 1))
    have hchoice := (hbody.append hother).append (emits_close last depth)
    rw [List.append_nil] at hchoice
    rw [Tree.lines, Tree.render]
    simpa only [List.append_assoc] using hchoice

theorem Tree.emits_all : (ts : List Tree) → (depth : Nat) →
    Emits depth (Tree.linesAll ts) (Tree.renderAll depth ts) depth
  | [], depth => by
    rw [Tree.linesAll, Tree.renderAll]
    exact .nil depth
  | t :: ts, depth => by
    rw [Tree.linesAll, Tree.renderAll]
    exact (Tree.emits t depth).append (Tree.emits_all ts depth)

end

/-! ## Programs and files -/

theorem program_eq_rendering (trees : List Tree) :
    program ((Tree.linesAll trees).map (· ++ "\n")) = rendering trees := by
  have hemit := Tree.emits_all trees 0 []
  rw [List.append_nil, emit, List.map_nil, List.append_nil] at hemit
  unfold program rendering
  rw [← hemit]
  cases emit 0 (forms ((Tree.linesAll trees).map (· ++ "\n"))) with
  | nil => rfl
  | cons line lines => simp [List.map_map, Function.comp_def]

theorem Reads.oneLine_around {text : String} {form : Form} (h : Reads text form) (margin : Margin) :
    OneLine (margin.around text).toList := by
  have hmargin := margin.oneLine
  rw [oneLine_append] at hmargin
  simp only [Margin.around, String.toList_append, oneLine_append]
  exact ⟨⟨hmargin.1, h.oneLine⟩, hmargin.2⟩

mutual

theorem Tree.oneLine_of_mem_lines : (t : Tree) → ∀ line ∈ t.lines, OneLine line.toList
  | .simple margin statement => by
    simp only [Tree.lines, List.mem_singleton]
    rintro _ rfl
    exact statement.reads.oneLine_around margin
  | .block margin header body last => by
    have hbody := Tree.oneLine_of_mem_linesAll body
    simp only [Tree.lines, List.mem_append, List.mem_singleton]
    rintro _ ((rfl | hline) | rfl)
    · exact header.reads.oneLine_around margin
    · exact hbody _ hline
    · exact reads_close.oneLine_around last
  | .choice margin condition body middle other last => by
    have hbody := Tree.oneLine_of_mem_linesAll body
    have hother := Tree.oneLine_of_mem_linesAll other
    simp only [Tree.lines, List.mem_append, List.mem_singleton]
    rintro _ ((((rfl | hline) | rfl) | hline) | rfl)
    · exact (Header.branch condition).reads.oneLine_around margin
    · exact hbody _ hline
    · exact reads_otherwise.oneLine_around middle
    · exact hother _ hline
    · exact reads_close.oneLine_around last

theorem Tree.oneLine_of_mem_linesAll : (ts : List Tree) → ∀ line ∈ Tree.linesAll ts, OneLine line.toList
  | [] => by simp [Tree.linesAll]
  | t :: ts => by
    have ht := Tree.oneLine_of_mem_lines t
    have hts := Tree.oneLine_of_mem_linesAll ts
    simp only [Tree.linesAll, List.mem_append]
    rintro line (hline | hline)
    · exact ht line hline
    · exact hts line hline

end

/-- The run of the compiler on a script whose lines are known. -/
theorem compileFile_eq {path : String} {output : Option String} {s : Session} {lines : List String}
    (hlines : s.files.readLines path = .ok lines) :
    compileFile path output s =
      (do
        let written ← Run.ofResult (s.files.write (outputPath path output) (Utf8.encode (program lines)))
        Run.modify fun s => { s with files := written }
        printLine ("Compiled to " ++ outputPath path output)) s := by
  have hfile := Files.FileTree.pathIsFile_of_readLines hlines
  change (if (!s.files.pathIsFile path) = true then _ else
    Run.ofResult (s.files.readLines path) >>= fun lines =>
      Run.ofResult (s.files.write (outputPath path output) (Utf8.encode (program lines))) >>= _ :
        Run Unit) s = _
  rw [hfile, hlines]
  rfl

/-- It writes the program to a place that can be written. -/
theorem compileFile_of_readLines {path : String} {output : Option String} {s : Session}
    {lines : List String} {written : Files.FileTree} (hlines : s.files.readLines path = .ok lines)
    (hwrite : s.files.write (outputPath path output) (Utf8.encode (program lines)) = .ok written) :
    compileFile path output s =
      (.done (), { s with files := written }.write ("Compiled to " ++ outputPath path output ++ "\n")) := by
  rw [compileFile_eq hlines, hwrite]
  rfl

/-- A structured program is compiled to its rendering: the compiler ends, and the file at the place of
the program is that text. -/
theorem compileFile_writes_rendering (trees : List Tree) (path : String) (output : Option String)
    (s : Session) (source : s.files.read path = .ok (Utf8.encode (script trees)))
    {place : Files.Location} (writable : s.files.target (outputPath path output) = .ok place) :
    let compiled := compileFile path output s
    compiled.1 = .done () ∧
      compiled.2.files = s.files.put place (.file (Utf8.encode (rendering trees))) ∧
      compiled.2.files.read (outputPath path output) = .ok (Utf8.encode (rendering trees)) := by
  have hlines : s.files.readLines path = .ok ((Tree.linesAll trees).map (· ++ "\n")) :=
    Files.FileTree.readLines_of_read (Tree.oneLine_of_mem_linesAll trees) source
  have hwrite : s.files.write (outputPath path output) (Utf8.encode (rendering trees)) =
      .ok (s.files.put place (.file (Utf8.encode (rendering trees)))) := by
    rw [Files.FileTree.write, writable]
    rfl
  have hprogram : s.files.write (outputPath path output)
      (Utf8.encode (program ((Tree.linesAll trees).map (· ++ "\n")))) =
      .ok (s.files.put place (.file (Utf8.encode (rendering trees)))) := by
    rw [program_eq_rendering, hwrite]
  dsimp only
  rw [compileFile_of_readLines hlines hprogram, Session.write_files]
  exact ⟨rfl, rfl, Files.FileTree.read_of_write hwrite⟩

/-- A definition that holds a loop, which holds a branch with another one. Brackets and colons stand in
the conditions, and the margins do not follow the structure. -/
def nested : List Tree :=
  let tight : Margin := ⟨"", "", by decide, by decide⟩
  let wide : Margin := ⟨"\t  ", " ", by decide, by decide⟩
  let n : Word := ⟨"n", by decide, by decide⟩
  let condition : Expression := ⟨⟨"f(n): (1) < 2", by decide, by decide⟩, by decide⟩
  let text : Expression := ⟨⟨"'end'", by decide, by decide⟩, by decide⟩
  let number : Expression := ⟨⟨"n)", by decide, by decide⟩, by decide⟩
  let call : RawLine :=
    ⟨⟨⟨"go(n)", by decide, by decide⟩, by decide⟩, by decide, by decide, by decide⟩
  [.block wide (.define n ⟨"a, b", by decide, by decide⟩)
    [.block tight (.loop condition)
      [.choice tight condition [.simple wide (.print text)] wide [.simple tight (.assign n number)] tight]
      wide,
    .simple tight (.giveBack number)] tight,
  .simple wide (.note n), .simple tight (.raw call)]

def nestedProgram : String :=
  "# Auto-compiled from .stryke\ndef _stryke_main():\n" ++
  "    def n(a, b):\n" ++
  "        while f(n): (1) < 2:\n" ++
  "            if f(n): (1) < 2:\n" ++
  "                print(f\"end\")\n" ++
  "            else:\n" ++
  "                n = n)\n" ++
  "        return n)\n" ++
  "    # import n (module needs manual conversion)\n" ++
  "    go(n)\n" ++
  "\nif __name__=='__main__':\n    _stryke_main()\n"

theorem rendering_nested : rendering nested = nestedProgram := by
  decide +kernel

/-- The nested program at the path `p`. -/
def nestedSession : Session :=
  { Session.fresh with
    files := (Files.FileTree.empty Files.work).put ["work", "p"] (.file (Utf8.encode (script nested))) }

theorem compileFile_nested :
    (compileFile "p" (some "q") nestedSession).2.files.read "q" = .ok (Utf8.encode nestedProgram) := by
  have htarget : (Files.FileTree.empty Files.work).target "p" = .ok ["work", "p"] := by cbv
  have hwrite : (Files.FileTree.empty Files.work).write "p" (Utf8.encode (script nested)) =
      .ok nestedSession.files := by
    rw [Files.FileTree.write, htarget]
    rfl
  have hwritable : ∀ content, ((Files.FileTree.empty Files.work).put ["work", "p"]
      (.file content)).target "q" = .ok ["work", "q"] := by
    intro content
    cbv
  rw [← rendering_nested]
  exact (compileFile_writes_rendering nested "p" (some "q") nestedSession
    (Files.FileTree.read_of_write hwrite) (hwritable _)).2.2

end LineScript.Compile
