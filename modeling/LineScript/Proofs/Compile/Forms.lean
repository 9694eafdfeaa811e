import LineScript.Compile
import LineScript.Proofs.Text.Line

/-!
# What the compiler takes a line for

A line that is written in one of the forms is read as that form, with the parts that it was written
with. The parts are free of line ends and of blanks at their ends, and brackets, colons and words of
other forms may stand in them. A line that begins with none of the words is left as it is.
-/

namespace LineScript.Compile

open Text Statement

/-! ## Parts of lines -/

/-- A name: one or more word characters. -/
structure Word where
  text : String
  ne_nil : text.toList ≠ []
  all_isWord : text.toList.all isWord = true

/-- A text on one line, without blanks at its ends. -/
structure Phrase where
  text : String
  oneLine : OneLine text.toList
  trimmed : Trimmed text.toList

structure Expression extends Phrase where
  ne_nil : text.toList ≠ []

/-- The words that the forms of lines begin with. -/
def keywords : List String :=
  ["stryset", "stryprint", "if", "else:", "while", "def", "return", "import"]

/-- A line that is none of the forms, no comment and no end of a block. -/
structure RawLine extends Expression where
  no_keyword : ∀ word ∈ keywords, ¬ word.toList <+: text.toList
  no_comment : ¬ ['#'] <+: text.toList
  ne_end : text ≠ "end"

/-! ## Lines without a word -/

section NoWord

variable {cs : List Char}

theorem assign?_eq_none (h : after? "stryset".toList cs = none) : assign? cs = none := by
  simp [assign?, afterWord?_eq_none h]

theorem print?_eq_none (h : after? "stryprint".toList cs = none) : print? cs = none := by
  simp [print?, afterWord?_eq_none h]

theorem header?_eq_none {word : String} (h : after? word.toList cs = none) :
    header? word cs = none := by
  simp [header?, h]

theorem define?_eq_none (h : after? "def".toList cs = none) : define? cs = none := by
  simp [define?, afterWord?_eq_none h]

theorem giveBack?_eq_none (h : after? "return".toList cs = none) : giveBack? cs = none := by
  rw [giveBack?, h, Option.map_none]

theorem otherwise?_eq_none (h : after? "else:".toList cs = none) : otherwise? cs = none := by
  rw [otherwise?, h, Option.map_none]

theorem note?_eq_none (h : after? "import".toList cs = none) : note? cs = none := by
  simp [note?, afterWord?_eq_none h]

end NoWord

/-! ## The forms -/

theorem Word.isWord (w : Word) : ∀ c ∈ w.text.toList, isWord c = true :=
  List.all_eq_true.mp w.all_isWord

theorem Word.trimmed (w : Word) : Trimmed w.text.toList :=
  trimmed_iff.mpr ⟨fun c hc => isBlank_of_isWord (w.isWord c (List.mem_of_mem_head? hc)),
    fun c hc => isBlank_of_isWord (w.isWord c (List.mem_of_getLast? hc))⟩

theorem Word.head_isBlank (w : Word) (rest : List Char) :
    ∀ c ∈ (w.text.toList ++ rest).head?, isBlank c = false := by
  intro c hc
  obtain ⟨d, cs, hd⟩ := List.exists_cons_of_ne_nil w.ne_nil
  rw [hd, List.cons_append, List.head?_cons, Option.mem_some_iff] at hc
  exact isBlank_of_isWord (w.isWord c (by simp [hd, hc]))

theorem assign?_eq_some (name : Word) (expr : Expression) :
    assign? ("stryset".toList ++ ' ' :: (name.text.toList ++ ' ' :: '(' :: (expr.text.toList ++ [')']))) =
      some (.assign name.text expr.text) := by
  have hname : takeName? (name.text.toList ++ ' ' :: '(' :: (expr.text.toList ++ [')'])) =
      some (name.text.toList, '(' :: (expr.text.toList ++ [')'])) :=
    takeName?_append name.ne_nil name.isWord (by rintro _ ⟨⟩; decide)
  have hexpr := enclosed?_of_trimmed expr.ne_nil expr.trimmed expr.oneLine.1
  simp only [assign?, afterWord?_append _ (name.head_isBlank _), hname, afterOpen?,
    beforeLast?_append, hexpr, Option.bind_eq_bind, Option.bind_some, String.ofList_toList]
  rfl

theorem print?_eq_some (expr : Expression) :
    print? ("stryprint".toList ++ ' ' :: expr.text.toList) = some (.print expr.text) := by
  have hexpr : oneLine? expr.text.toList = some expr.text.toList := by
    simp [oneLine?, expr.ne_nil, expr.oneLine.1]
  simp only [print?, afterWord?_append _ expr.trimmed.head, hexpr, expr.trimmed.trim,
    Option.bind_eq_bind, Option.bind_some, String.ofList_toList]
  rfl

theorem header?_eq_some (word : String) (condition : Expression) :
    header? word (word.toList ++ ' ' :: '(' :: (condition.text.toList ++ [')', ':'])) =
      some condition.text := by
  have hcondition := enclosed?_of_trimmed condition.ne_nil condition.trimmed condition.oneLine.1
  have hopen : trimStart (' ' :: '(' :: (condition.text.toList ++ [')', ':'])) =
      '(' :: ((condition.text.toList ++ [')']) ++ [':']) := by
    simp [trimStart, isBlank]
  simp only [header?, after?_append, hopen, afterOpen?, beforeLast?_append, hcondition,
    Option.bind_eq_bind, Option.bind_some, String.ofList_toList]
  rfl

theorem define?_eq_some (name : Word) (params : Phrase) :
    define? ("def".toList ++ ' ' :: (name.text.toList ++ '(' :: (params.text.toList ++ [')', ':']))) =
      some (.define name.text params.text) := by
  have hname : takeName? (name.text.toList ++ '(' :: (params.text.toList ++ [')', ':'])) =
      some (name.text.toList, '(' :: ((params.text.toList ++ [')']) ++ [':'])) := by
    rw [takeName?_append name.ne_nil name.isWord (by rintro _ ⟨⟩; decide),
      trimStart_of_head (by rintro _ ⟨⟩; decide), List.append_assoc]
    rfl
  have hclose : trimEnd (params.text.toList ++ [')']) = params.text.toList ++ [')'] :=
    trimEnd_of_last (by simp [isBlank])
  have hline : params.text.toList.contains '\n' = false := by simpa using params.oneLine.1
  simp only [define?, afterWord?_append _ (name.head_isBlank _), hname, afterOpen?,
    beforeLast?_append, hclose, params.trimmed.trim, hline, Option.bind_eq_bind, Option.bind_some,
    String.ofList_toList]
  rfl

theorem giveBack?_eq_some (expr : Expression) :
    giveBack? ("return".toList ++ ' ' :: expr.text.toList) = some (.giveBack expr.text) := by
  have htrim : trim ([' '] ++ expr.text.toList ++ []) = expr.text.toList :=
    expr.trimmed.trim_append (by simp; decide) (by simp)
  rw [List.append_nil, List.singleton_append] at htrim
  rw [giveBack?, after?_append, Option.map_some, htrim, String.ofList_toList]

theorem note?_eq_some (name : Word) :
    note? ("import".toList ++ ' ' :: name.text.toList) = some (.note name.text) := by
  have hname : takeName? (name.text.toList ++ []) = some (name.text.toList, []) :=
    takeName?_append name.ne_nil name.isWord (by simp)
  have hhead := name.head_isBlank []
  rw [List.append_nil] at hname hhead
  simp only [note?, afterWord?_append _ hhead, hname, Option.bind_eq_bind, Option.bind_some,
    String.ofList_toList]
  rfl

/-! ## Lines of each form -/

/-- A reader of one form, with the word that its lines begin with. -/
abbrev Reader := String × (List Char → Option Form)

def readers : List Reader :=
  [("stryset", assign?), ("stryprint", print?), ("if", fun cs => (header? "if" cs).map Form.branch),
    ("else:", otherwise?), ("while", fun cs => (header? "while" cs).map Form.loop),
    ("def", define?), ("return", giveBack?), ("import", note?)]

theorem words_readers : readers.map Prod.fst = keywords := rfl

theorem word_mem_keywords {r : Reader} (hr : r ∈ readers) : r.1 ∈ keywords :=
  List.mem_map_of_mem hr

theorem keywords_nodup : keywords.Nodup := by
  decide

/-- A reader reads no line that does not begin with its word. -/
theorem reader_eq_none {r : Reader} (hr : r ∈ readers) {cs : List Char}
    (h : after? r.1.toList cs = none) : r.2 cs = none := by
  simp only [readers, List.mem_cons, List.not_mem_nil, or_false] at hr
  rcases hr with rfl | rfl | rfl | rfl | rfl | rfl | rfl | rfl
  · exact assign?_eq_none h
  · exact print?_eq_none h
  · simp only [header?_eq_none h, Option.map_none]
  · exact otherwise?_eq_none h
  · simp only [header?_eq_none h, Option.map_none]
  · exact define?_eq_none h
  · exact giveBack?_eq_none h
  · exact note?_eq_none h

/-- The first reader that reads a line says what it is. -/
theorem ofLine_eq_findSome? {line : String} (hend : line ≠ "end") :
    Form.ofLine line = (readers.findSome? (·.2 line.toList)).getD (.raw line) := by
  have hcons : ∀ (r : Reader) (rs : List Reader),
      ((r :: rs).findSome? (·.2 line.toList)).getD (Form.raw line) =
        (r.2 line.toList).getD ((rs.findSome? (·.2 line.toList)).getD (.raw line)) := by
    intro r rs
    rw [List.findSome?_cons]
    cases r.2 line.toList <;> rfl
  simp only [readers, hcons]
  simp [Form.ofLine, hend]

theorem keywords_prefixFree :
    ∀ word ∈ keywords, ∀ other ∈ keywords, other ≠ word → ¬ other.toList <+: word.toList := by
  decide +kernel

theorem keywords_not_end : ∀ word ∈ keywords, ¬ word.toList <+: "end".toList := by
  decide +kernel

/-- A line that begins with one of the words begins with no other. -/
theorem after?_eq_none_of_word {word other : String} (hword : word ∈ keywords)
    (hother : other ∈ keywords) (hne : other ≠ word) (rest : List Char) :
    after? other.toList (word.toList ++ rest) = none := by
  refine after?_eq_none_iff.mpr fun hprefix => ?_
  rcases List.prefix_or_prefix_of_prefix hprefix (List.prefix_append word.toList rest) with h | h
  · exact keywords_prefixFree word hword other hother hne h
  · exact keywords_prefixFree other hother word hword hne.symm h

section Lines

variable {line : String}

/-- A line that begins with a word is what the reader of that word takes it for. -/
theorem ofLine_of_word {word : String} {read : List Char → Option Form} {rest : List Char}
    {form : Form} (hmem : (word, read) ∈ readers) (h : line.toList = word.toList ++ rest)
    (hread : read (word.toList ++ rest) = some form) : Form.ofLine line = form := by
  have hword : word ∈ keywords := word_mem_keywords hmem
  have hend : line ≠ "end" := by
    rintro rfl
    exact keywords_not_end word hword ⟨rest, h.symm⟩
  obtain ⟨before, after, hsplit⟩ := List.append_of_mem hmem
  -- The readers before the one of the word belong to other words.
  have hbefore : ∀ r ∈ before, r.2 line.toList = none := by
    intro r hr
    have hne : r.1 ≠ word := by
      rintro rfl
      have hnodup := keywords_nodup
      rw [← words_readers, hsplit, List.map_append, List.map_cons, List.nodup_append] at hnodup
      exact hnodup.2.2 _ (List.mem_map_of_mem hr) _ List.mem_cons_self rfl
    have hr : r ∈ readers := by simp [hsplit, hr]
    rw [h]
    exact reader_eq_none hr (after?_eq_none_of_word hword (word_mem_keywords hr) hne rest)
  rw [ofLine_eq_findSome? hend, hsplit, List.findSome?_append, List.findSome?_eq_none_iff.mpr hbefore,
    List.findSome?_cons, h]
  simp [hread]

theorem ofLine_of_assign (name : Word) (expr : Expression)
    (h : line.toList =
      "stryset".toList ++ ' ' :: (name.text.toList ++ ' ' :: '(' :: (expr.text.toList ++ [')']))) :
    Form.ofLine line = .assign name.text expr.text :=
  ofLine_of_word (by simp [readers]) h (assign?_eq_some name expr)

theorem ofLine_of_print (expr : Expression)
    (h : line.toList = "stryprint".toList ++ ' ' :: expr.text.toList) :
    Form.ofLine line = .print expr.text :=
  ofLine_of_word (by simp [readers]) h (print?_eq_some expr)

theorem ofLine_of_branch (condition : Expression)
    (h : line.toList = "if".toList ++ ' ' :: '(' :: (condition.text.toList ++ [')', ':'])) :
    Form.ofLine line = .branch condition.text := by
  have hmem : ("if", fun cs => (header? "if" cs).map Form.branch) ∈ readers := by simp [readers]
  exact ofLine_of_word hmem h (by rw [header?_eq_some, Option.map_some])

theorem ofLine_otherwise : Form.ofLine "else:" = .otherwise := by
  decide +kernel

theorem ofLine_of_loop (condition : Expression)
    (h : line.toList = "while".toList ++ ' ' :: '(' :: (condition.text.toList ++ [')', ':'])) :
    Form.ofLine line = .loop condition.text := by
  have hmem : ("while", fun cs => (header? "while" cs).map Form.loop) ∈ readers := by simp [readers]
  exact ofLine_of_word hmem h (by rw [header?_eq_some, Option.map_some])

theorem ofLine_of_define (name : Word) (params : Phrase)
    (h : line.toList =
      "def".toList ++ ' ' :: (name.text.toList ++ '(' :: (params.text.toList ++ [')', ':']))) :
    Form.ofLine line = .define name.text params.text :=
  ofLine_of_word (by simp [readers]) h (define?_eq_some name params)

theorem ofLine_of_giveBack (expr : Expression)
    (h : line.toList = "return".toList ++ ' ' :: expr.text.toList) :
    Form.ofLine line = .giveBack expr.text :=
  ofLine_of_word (by simp [readers]) h (giveBack?_eq_some expr)

theorem ofLine_close : Form.ofLine "end" = .close := by
  decide +kernel

theorem ofLine_of_note (name : Word) (h : line.toList = "import".toList ++ ' ' :: name.text.toList) :
    Form.ofLine line = .note name.text :=
  ofLine_of_word (by simp [readers]) h (note?_eq_some name)

theorem ofLine_of_raw (text : RawLine) : Form.ofLine text.text = .raw text.text := by
  have hnone : ∀ r ∈ readers, r.2 text.text.toList = none := fun r hr =>
    reader_eq_none hr (after?_eq_none_iff.mpr (text.no_keyword r.1 (word_mem_keywords hr)))
  rw [ofLine_eq_findSome? text.ne_end, List.findSome?_eq_none_iff.mpr hnone, Option.getD_none]

end Lines

end LineScript.Compile
