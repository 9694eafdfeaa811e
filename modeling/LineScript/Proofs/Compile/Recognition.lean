import LineScript.Proofs.Compile.Written

/-!
# Lines that the interpreter and the compiler recognise

The interpreter and the compiler read lines by forms of their own. On both sides a form begins with a word,
and no word begins with another one, so that a line is read by the reader of its word or by none. It remains
to compare the two readers of each word. Assignments, prints and definitions are recognised alike. A branch
is not if its colon stands apart from its bracket, which only the interpreter allows, and a line that begins
with `return` is not if no blank follows, which only the compiler allows.
-/

namespace LineScript.Compile

open Text Statement

/-! ## Readers with words -/

section Keyed

variable {α : Type}

/-- Readers that go by words: each reads lines that begin with its word only, and what it reads is of the
kind of that word. -/
structure Keyed (rs : List (String × (List Char → Option α))) (keyword? : α → Option String) : Prop where
  mem_keywords : ∀ r ∈ rs, r.1 ∈ keywords
  nodup : (rs.map Prod.fst).Nodup
  begins : ∀ r ∈ rs, ∀ cs, after? r.1.toList cs = none → r.2 cs = none
  kind : ∀ r ∈ rs, ∀ cs a, r.2 cs = some a → keyword? a = some r.1

variable {rs : List (String × (List Char → Option α))} {keyword? : α → Option String} {word : String}
  {read : List Char → Option α} {cs : List Char} {a : α}

theorem Keyed.eq_append (h : Keyed rs keyword?) (hmem : (word, read) ∈ rs) (hread : read cs = some a) :
    ∃ rest, cs = word.toList ++ rest := by
  cases hafter : after? word.toList cs with
  | none =>
    have hnone : read cs = none := h.begins _ hmem cs hafter
    rw [hnone] at hread
    cases hread
  | some rest => exact ⟨rest, after?_eq_some_iff.mp hafter⟩

/-- What is of a word's kind is read by the reader of that word or by none. -/
theorem Keyed.findSome?_eq_some_iff (h : Keyed rs keyword?) (hmem : (word, read) ∈ rs)
    (hkeyword : keyword? a = some word) :
    rs.findSome? (·.2 cs) = some a ↔ read cs = some a := by
  have hunique : ∀ r ∈ rs, r.1 = word → r = (word, read) := fun r hr hword =>
    List.inj_on_of_nodup_map h.nodup hr hmem hword
  constructor
  · intro hfind
    obtain ⟨r, hr, hread⟩ := List.exists_of_findSome?_eq_some hfind
    have hword : r.1 = word := Option.some.inj ((h.kind r hr cs a hread).symm.trans hkeyword)
    rw [hunique r hr hword] at hread
    exact hread
  · intro hread
    obtain ⟨rest, rfl⟩ := h.eq_append hmem hread
    -- The readers of the other words find nothing, whether they come before this one or behind it.
    cases hfind : rs.findSome? (·.2 (word.toList ++ rest)) with
    | none =>
      have hnone : read (word.toList ++ rest) = none := List.findSome?_eq_none_iff.mp hfind _ hmem
      rw [hread] at hnone
      cases hnone
    | some b =>
      obtain ⟨r, hr, hother⟩ := List.exists_of_findSome?_eq_some hfind
      have hword : r.1 = word := by
        by_contra hne
        have hafter := after?_eq_none_of_word (h.mem_keywords _ hmem) (h.mem_keywords r hr) hne rest
        rw [h.begins r hr _ hafter] at hother
        cases hother
      rw [hunique r hr hword] at hother
      exact hother.symm.trans hread

end Keyed

/-! ## The readers of both sides -/

/-- The word that lines of a form begin with. -/
def Form.keyword? : Form → Option String
  | .assign _ _ => some "stryset"
  | .print _ => some "stryprint"
  | .branch _ => some "if"
  | .otherwise => some "else:"
  | .loop _ => some "while"
  | .define _ _ => some "def"
  | .giveBack _ => some "return"
  | .note _ => some "import"
  | .close | .raw _ => none

/-- The reader of a form; a line that is left as it is, or closes a block, has none. -/
def Form.read : Form → List Char → Option Form
  | .assign _ _ => assign?
  | .print _ => print?
  | .branch _ => fun cs => (header? "if" cs).map .branch
  | .otherwise => otherwise?
  | .loop _ => fun cs => (header? "while" cs).map .loop
  | .define _ _ => define?
  | .giveBack _ => giveBack?
  | .note _ => note?
  | .close | .raw _ => fun _ => none

theorem mem_readers {form : Form} {word : String} (h : form.keyword? = some word) :
    (word, form.read) ∈ readers := by
  cases form <;> cases h <;> simp [readers, Form.read]

/-- The word that a statement begins with. -/
def statementWord : Statement → String
  | .assign _ _ => "stryset"
  | .print _ => "stryprint"
  | .define _ _ => "def"
  | .giveBack _ => "return"
  | .branch _ => "if"

def statementReader : Statement → List Char → Option Statement
  | .assign _ _ => Statement.assign?
  | .print _ => Statement.print?
  | .define _ _ => Statement.define?
  | .giveBack _ => Statement.giveBack?
  | .branch _ => Statement.branch?

/-- The readers of statements in their order. -/
def statementReaders : List (String × (List Char → Option Statement)) :=
  [("stryset", Statement.assign?), ("stryprint", Statement.print?), ("def", Statement.define?),
    ("return", Statement.giveBack?), ("if", Statement.branch?)]

theorem mem_statementReaders (st : Statement) : (statementWord st, statementReader st) ∈ statementReaders := by
  cases st <;> simp [statementReaders, statementWord, statementReader]

theorem keyed_readers : Keyed readers Form.keyword? where
  mem_keywords _ hr := word_mem_keywords hr
  nodup := keywords_nodup
  begins _ hr _ hafter := reader_eq_none hr hafter
  kind := by
    intro r hr cs form h
    simp only [readers, List.mem_cons, List.not_mem_nil, or_false] at hr
    rcases hr with rfl | rfl | rfl | rfl | rfl | rfl | rfl | rfl
    · simp only [assign?, Option.bind_eq_bind, Option.bind_eq_some_iff] at h
      obtain ⟨_, _, _, _, _, _, _, _, _, _, h⟩ := h
      cases h
      rfl
    · simp only [print?, Option.bind_eq_bind, Option.bind_eq_some_iff] at h
      obtain ⟨_, _, _, _, h⟩ := h
      cases h
      rfl
    · obtain ⟨_, _, rfl⟩ := Option.map_eq_some_iff.mp h
      rfl
    · obtain ⟨_, _, rfl⟩ := Option.map_eq_some_iff.mp h
      rfl
    · obtain ⟨_, _, rfl⟩ := Option.map_eq_some_iff.mp h
      rfl
    · simp only [define?, Option.bind_eq_bind, Option.bind_eq_some_iff] at h
      obtain ⟨_, _, _, _, _, _, _, _, _, _, h⟩ := h
      split at h <;> cases h
      rfl
    · obtain ⟨_, _, rfl⟩ := Option.map_eq_some_iff.mp h
      rfl
    · simp only [note?, Option.bind_eq_bind, Option.bind_eq_some_iff] at h
      obtain ⟨_, _, _, _, h⟩ := h
      split at h <;> cases h
      rfl

theorem keyed_statementReaders : Keyed statementReaders (some ∘ statementWord) where
  mem_keywords := by
    intro r hr
    have hword : r.1 ∈ statementReaders.map Prod.fst := List.mem_map_of_mem hr
    exact (by decide : statementReaders.map Prod.fst ⊆ keywords) hword
  nodup := by decide
  begins := by
    intro r hr cs hafter
    simp only [statementReaders, List.mem_cons, List.not_mem_nil, or_false] at hr
    rcases hr with rfl | rfl | rfl | rfl | rfl
    · simp [Statement.assign?, afterWord?_eq_none hafter]
    · simp [Statement.print?, afterWord?_eq_none hafter]
    · simp [Statement.define?, afterWord?_eq_none hafter]
    · simp [Statement.giveBack?, afterWord?_eq_none hafter]
    · simp only [Statement.branch?, hafter, Option.bind_eq_bind, Option.bind_none]
  kind := by
    intro r hr cs st h
    simp only [statementReaders, List.mem_cons, List.not_mem_nil, or_false] at hr
    rcases hr with rfl | rfl | rfl | rfl | rfl
    · simp only [Statement.assign?, Option.bind_eq_bind, Option.bind_eq_some_iff] at h
      obtain ⟨_, _, _, _, _, _, _, _, _, _, h⟩ := h
      cases h
      rfl
    · simp only [Statement.print?, Option.bind_eq_bind, Option.bind_eq_some_iff] at h
      obtain ⟨_, _, _, _, h⟩ := h
      cases h
      rfl
    · simp only [Statement.define?, Option.bind_eq_bind, Option.bind_eq_some_iff] at h
      obtain ⟨_, _, _, _, _, _, _, _, _, _, h⟩ := h
      split at h <;> cases h
      rfl
    · simp only [Statement.giveBack?, Option.bind_eq_bind, Option.bind_eq_some_iff] at h
      obtain ⟨_, _, _, _, h⟩ := h
      cases h
      rfl
    · simp only [Statement.branch?, Option.bind_eq_bind, Option.bind_eq_some_iff] at h
      obtain ⟨_, _, _, _, _, _, _, _, _, _, h⟩ := h
      cases h
      rfl

section Sides

variable {line : String}

/-- The interpreter takes a line for a statement exactly if the reader of the statement does. -/
theorem ofLine?_eq_some_iff {st : Statement} :
    Statement.ofLine? line = some st ↔ statementReader st line.toList = some st := by
  rw [← keyed_statementReaders.findSome?_eq_some_iff (mem_statementReaders st) rfl]
  have hcons : ∀ (r : String × (List Char → Option Statement)) rs,
      (r :: rs).findSome? (·.2 line.toList) = (r.2 line.toList <|> rs.findSome? (·.2 line.toList)) := by
    intro r rs
    rw [List.findSome?_cons]
    cases r.2 line.toList <;> rfl
  simp only [Statement.ofLine?, statementReaders, hcons, List.findSome?_nil, Option.orElse_eq_orElse,
    Option.orElse_eq_or, Option.or_none]

variable {form : Form} {word : String}

/-- The compiler takes a line for a form that has a word exactly if the reader of the form does. -/
theorem ofLine_eq_iff (hkeyword : form.keyword? = some word) :
    Form.ofLine line = form ↔ form.read line.toList = some form := by
  have hmem := mem_readers hkeyword
  constructor
  · intro hform
    have hend : line ≠ "end" := by
      rintro rfl
      rw [← hform, ofLine_close] at hkeyword
      cases hkeyword
    rw [ofLine_eq_findSome? hend] at hform
    rw [← keyed_readers.findSome?_eq_some_iff hmem hkeyword]
    cases hfind : readers.findSome? (·.2 line.toList) with
    | none =>
      rw [hfind, Option.getD_none] at hform
      rw [← hform] at hkeyword
      cases hkeyword
    | some other =>
      rw [hfind, Option.getD_some] at hform
      rw [hform]
  · intro hread
    obtain ⟨rest, hline⟩ := keyed_readers.eq_append hmem hread
    exact ofLine_of_word hmem hline (hline ▸ hread)

theorem forms_eq_iff (hkeyword : form.keyword? = some word) :
    forms [line] = [form] ↔ form.read (strip line).toList = some form := by
  have hforms : forms [line] = [form] ↔ isVoid (strip line) = false ∧ Form.ofLine (strip line) = form := by
    cases hvoid : isVoid (strip line) <;> simp [forms, hvoid]
  rw [hforms, ofLine_eq_iff hkeyword]
  constructor
  · exact And.right
  · intro hread
    refine ⟨?_, hread⟩
    -- The line begins with the word, and no word begins like a comment.
    obtain ⟨rest, hline⟩ := keyed_readers.eq_append (mem_readers hkeyword) hread
    obtain ⟨hne, -, hhead⟩ := keywords_begin word (word_mem_keywords (mem_readers hkeyword))
    obtain ⟨c, cs, hc⟩ := List.exists_cons_of_ne_nil hne
    obtain ⟨-, hhash⟩ : isBlank c = false ∧ c ≠ '#' := by simpa [hc] using hhead
    apply isVoid_eq_false
    · simp [hline, hne]
    · rw [hline, hc, List.cons_append, List.cons_prefix_cons]
      exact fun hprefix => hhash hprefix.1.symm

end Sides

/-! ## Assignments, prints and definitions -/

section Alike

variable {cs : List Char}

theorem assign?_eq_some_iff {name expr : String} :
    assign? cs = some (.assign name expr) ↔ Statement.assign? cs = some (.assign name expr) := by
  simp only [assign?, Statement.assign?, Option.bind_eq_bind, Option.bind_eq_some_iff, Option.pure_def,
    Option.some.injEq, Form.assign.injEq, Statement.assign.injEq]

/-- The compiler takes the expression of a print without the blanks at its ends. -/
theorem print?_eq_some_iff {text : String} :
    print? cs = some (.print text) ↔ ∃ expr, Statement.print? cs = some (.print expr) ∧ strip expr = text := by
  simp only [print?, Statement.print?, Option.bind_eq_bind, Option.bind_eq_some_iff, Option.pure_def,
    Option.some.injEq, Form.print.injEq, Statement.print.injEq]
  constructor
  · rintro ⟨rest, hword, expr, hexpr, rfl⟩
    refine ⟨String.ofList expr, ⟨rest, hword, expr, hexpr, rfl⟩, ?_⟩
    rw [strip, String.toList_ofList]
  · rintro ⟨_, ⟨rest, hword, expr, hexpr, rfl⟩, rfl⟩
    refine ⟨rest, hword, expr, hexpr, ?_⟩
    rw [strip, String.toList_ofList]

/-- The name of a definition and what stands in its brackets. -/
def definitionParts? (cs : List Char) : Option (List Char × List Char) := do
  let rest ← afterWord? "def" cs
  let (name, rest) ← takeName? rest
  let rest ← afterOpen? rest
  let rest ← beforeLast? ':' rest
  let inside ← beforeLast? ')' (trimEnd rest)
  return (name, inside)

theorem inside_subset {parts : List Char × List Char} (h : definitionParts? cs = some parts) :
    parts.2 ⊆ cs := by
  simp only [definitionParts?, Option.bind_eq_bind, Option.bind_eq_some_iff, Option.pure_def,
    Option.some.injEq] at h
  obtain ⟨behind, hword, ⟨name, rest⟩, hname, params, hopen, head, hcolon, inside, hclose, rfl⟩ := h
  have hhead : inside ⊆ head := List.Subset.trans (subset_of_beforeLast? hclose) (trimEnd_subset head)
  have hparams : inside ⊆ params := List.Subset.trans hhead (subset_of_beforeLast? hcolon)
  have hrest : inside ⊆ rest := List.Subset.trans hparams (subset_of_afterOpen? hopen)
  have hbehind : inside ⊆ behind := List.Subset.trans hrest (parts_of_takeName? hname).2.2.2
  exact List.Subset.trans hbehind (subset_of_afterWord? hword)

theorem statement_define?_eq_some_iff {name : String} {params : List String} :
    Statement.define? cs = some (.define name params) ↔
      ∃ parts, definitionParts? cs = some parts ∧ '\n' ∉ parts.2 ∧ String.ofList parts.1 = name ∧
        commaParts parts.2 = params := by
  have hparts : Statement.define? cs = (definitionParts? cs).bind fun parts =>
      if parts.2.contains '\n' then none
      else some (.define (String.ofList parts.1) (commaParts parts.2)) := by
    simp only [Statement.define?, definitionParts?, Option.bind_eq_bind, Option.bind_assoc, Option.pure_def,
      Option.bind_some]
  simp only [hparts, Option.bind_eq_some_iff, Option.ite_none_left_eq_some, Option.some.injEq,
    Statement.define.injEq, List.contains_eq_mem, decide_eq_true_eq]

theorem define?_eq_some_iff {name params : String} :
    define? cs = some (.define name params) ↔
      ∃ parts, definitionParts? cs = some parts ∧ '\n' ∉ trim parts.2 ∧ String.ofList parts.1 = name ∧
        String.ofList (trim parts.2) = params := by
  have hparts : define? cs = (definitionParts? cs).bind fun parts =>
      if (trim parts.2).contains '\n' then none
      else some (.define (String.ofList parts.1) (String.ofList (trim parts.2))) := by
    simp only [define?, definitionParts?, Option.bind_eq_bind, Option.bind_assoc, Option.pure_def,
      Option.bind_some]
  simp only [hparts, Option.bind_eq_some_iff, Option.ite_none_left_eq_some, Option.some.injEq,
    Form.define.injEq, List.contains_eq_mem, decide_eq_true_eq]

/-- The parameters of a definition are the same whether they were trimmed as a whole or not. -/
theorem exists_define?_iff (hline : '\n' ∉ cs) {name : String} {params : List String} :
    (∃ text, define? cs = some (.define name text) ∧ commaParts text.toList = params) ↔
      Statement.define? cs = some (.define name params) := by
  simp only [define?_eq_some_iff, statement_define?_eq_some_iff]
  constructor
  · rintro ⟨_, ⟨parts, hparts, -, hname, rfl⟩, hparams⟩
    rw [String.toList_ofList, commaParts_trim] at hparams
    exact ⟨parts, hparts, fun hmem => hline (inside_subset hparts hmem), hname, hparams⟩
  · rintro ⟨parts, hparts, hinside, hname, hparams⟩
    refine ⟨_, ⟨parts, hparts, fun hmem => hinside (mem_of_mem_trim hmem), hname, rfl⟩, ?_⟩
    rw [String.toList_ofList, commaParts_trim, hparams]

end Alike

/-- A line without line ends inside is an assignment, a print or a definition for the interpreter exactly if it
is one for the compiler: an assignment with the same name and the same expression, a print with the same
expression but for blanks at its ends, and a definition with the same name and the same parameters. -/
theorem assignments_prints_definitions_alike {line : String} (honeLine : '\n' ∉ line.toList) :
    (∀ name expr, Statement.ofLine? (strip line) = some (.assign name expr) ↔
      forms [line] = [.assign name expr]) ∧
    (∀ text, (∃ expr, Statement.ofLine? (strip line) = some (.print expr) ∧ strip expr = text) ↔
      forms [line] = [.print text]) ∧
    (∀ name params, Statement.ofLine? (strip line) = some (.define name params) ↔
      ∃ text, forms [line] = [.define name text] ∧ commaParts text.toList = params) := by
  have hline : '\n' ∉ (strip line).toList := by
    rw [strip, String.toList_ofList]
    exact fun hmem => honeLine (mem_of_mem_trim hmem)
  refine ⟨?_, ?_, ?_⟩
  · intro name expr
    rw [forms_eq_iff rfl, ofLine?_eq_some_iff]
    exact assign?_eq_some_iff.symm
  · intro text
    simp only [ofLine?_eq_some_iff]
    rw [forms_eq_iff rfl]
    exact print?_eq_some_iff.symm
  · intro name params
    have hside : ∀ text, forms [line] = [.define name text] ↔
        define? (strip line).toList = some (.define name text) := fun text => forms_eq_iff rfl
    simp only [hside, ofLine?_eq_some_iff]
    exact (exists_define?_iff hline).symm

/-- A definition with blanks of several kinds in it. -/
def spaciousDefinition : String :=
  "\tdef  area ( width,\u3000, height )\u00a0: "

theorem spaciousDefinition_alike :
    Statement.ofLine? (strip spaciousDefinition) = some (.define "area" ["width", "height"]) ∧
      ∃ text, forms [spaciousDefinition] = [.define "area" text] ∧
        commaParts text.toList = ["width", "height"] := by
  have hstatement : Statement.ofLine? (strip spaciousDefinition) =
      some (.define "area" ["width", "height"]) := by decide +kernel
  obtain ⟨-, -, hdefine⟩ := @assignments_prints_definitions_alike spaciousDefinition (by decide +kernel)
  exact ⟨hstatement, (hdefine "area" ["width", "height"]).mp hstatement⟩

/-! ## Branches -/

/-- The interpreter and the compiler agree on whether a line is a branch, and on its condition but for blanks
at its ends. -/
def BranchAlike (line : String) : Prop :=
  ∀ condition, (∃ text, Statement.ofLine? (strip line) = some (.branch text) ∧ strip text = condition) ↔
    ∃ text, forms [line] = [.branch text] ∧ strip text = condition

/-- A line is a branch for the interpreter, but its colon does not stand right behind its bracket. -/
def ColonApart (line : String) : Prop :=
  (∃ text, Statement.ofLine? (strip line) = some (.branch text)) ∧ ¬ [')', ':'] <:+ (strip line).toList

/-- The compiler wants the colon right behind the bracket. -/
theorem header?_if_eq_some_iff {cs : List Char} {condition : String} :
    header? "if" cs = some condition ↔
      Statement.branch? cs = some (.branch condition) ∧ [')', ':'] <:+ cs := by
  simp only [header?, Statement.branch?, Option.bind_eq_bind, Option.bind_eq_some_iff, Option.pure_def,
    Option.some.injEq, Statement.branch.injEq, afterOpen?_eq_some_iff, beforeLast?_eq_some_iff,
    after?_eq_some_iff]
  constructor
  · rintro ⟨behind, rfl, _, hopen, _, rfl, inside, rfl, inner, hinner, rfl⟩
    have hclose : trimEnd (inside ++ [')']) = inside ++ [')'] := trimEnd_of_last (by simp [isBlank])
    refine ⟨⟨behind, rfl, _, hopen, _, rfl, inside, hclose, inner, hinner, rfl⟩, ?_⟩
    have hsuffix : [')', ':'] <:+ trimStart behind := ⟨'(' :: inside, by rw [hopen]; simp⟩
    exact (hsuffix.trans (List.dropWhile_suffix _)).trans (List.suffix_append _ _)
  · rintro ⟨⟨behind, rfl, _, hopen, head, rfl, inside, hclose, inner, hinner, rfl⟩, front, hsuffix⟩
    obtain ⟨gap, hgap⟩ : trimStart behind <:+ behind := List.dropWhile_suffix _
    have hlast : (front ++ [')']) ++ [':'] = ("if".toList ++ gap ++ ['('] ++ head) ++ [':'] := by
      rw [hopen] at hgap
      rw [← hgap] at hsuffix
      simpa using hsuffix
    have hhead : head ≠ [] := by
      rintro rfl
      simp [trimEnd] at hclose
    -- What stands before the colon ends with the bracket, so that no blanks come off.
    have hbracket : head.getLast? = some ')' := by
      have hends := congrArg List.getLast? (List.append_cancel_right hlast)
      rw [List.getLast?_concat, List.getLast?_append, Option.or_of_isSome (List.getLast?_isSome.mpr hhead)]
        at hends
      exact hends.symm
    have hkept : trimEnd head = head := trimEnd_of_last (by
      rw [hbracket]
      rintro _ ⟨⟩
      decide)
    rw [hkept] at hclose
    exact ⟨behind, rfl, _, hopen, head, rfl, inside, hclose, inner, hinner, rfl⟩

theorem branchAlike_iff (line : String) : BranchAlike line ↔ ¬ ColonApart line := by
  have hform : ∀ text, forms [line] = [.branch text] ↔ header? "if" (strip line).toList = some text := by
    intro text
    rw [forms_eq_iff rfl]
    simp [Form.read]
  have hstatement : ∀ text, Statement.ofLine? (strip line) = some (.branch text) ↔
      Statement.branch? (strip line).toList = some (.branch text) := fun text => ofLine?_eq_some_iff
  constructor
  · rintro halike ⟨⟨text, htext⟩, hapart⟩
    obtain ⟨other, hother, -⟩ := (halike (strip text)).mp ⟨text, htext, rfl⟩
    exact hapart (header?_if_eq_some_iff.mp ((hform other).mp hother)).2
  · intro hapart condition
    constructor
    · rintro ⟨text, htext, rfl⟩
      have hcolon : [')', ':'] <:+ (strip line).toList := by
        by_contra hcolon
        exact hapart ⟨⟨text, htext⟩, hcolon⟩
      exact ⟨text, (hform text).mpr (header?_if_eq_some_iff.mpr ⟨(hstatement text).mp htext, hcolon⟩), rfl⟩
    · rintro ⟨text, htext, rfl⟩
      have hread := (header?_if_eq_some_iff.mp ((hform text).mp htext)).1
      exact ⟨text, (hstatement text).mpr hread, rfl⟩

/-! ## Values that are given back -/

/-- The interpreter and the compiler agree on whether a line gives a value back, and on its expression but for
blanks at its ends. -/
def GiveBackAlike (line : String) : Prop :=
  ∀ expr, (∃ text, Statement.ofLine? (strip line) = some (.giveBack text) ∧ strip text = expr) ↔
    ∃ text, forms [line] = [.giveBack text] ∧ strip text = expr

/-- A line begins with `return`, but no blank follows. -/
def WordRunsOn (line : String) : Prop :=
  ∃ rest, (strip line).toList = "return".toList ++ rest ∧ rest.head?.all (!isBlank ·) = true

/-- On a line without blanks at its ends, the blank behind the word is all that the interpreter wants. -/
theorem statement_giveBack?_eq_some_iff {cs : List Char} (htrim : Trimmed cs) (hline : '\n' ∉ cs)
    {expr : String} :
    Statement.giveBack? cs = some (.giveBack expr) ↔
      ∃ c rest, cs = "return".toList ++ c :: rest ∧ isBlank c = true ∧
        String.ofList (trimStart rest) = expr := by
  simp only [Statement.giveBack?, Option.bind_eq_bind, Option.bind_eq_some_iff, Option.pure_def,
    Option.some.injEq, Statement.giveBack.injEq, afterWord?_eq_some_iff]
  constructor
  · rintro ⟨_, ⟨c, rest, rfl, hc, rfl⟩, inner, hinner, rfl⟩
    have hsame : trimStart rest = inner := by
      unfold oneLine? at hinner
      split at hinner <;> cases hinner
      rfl
    exact ⟨c, rest, rfl, hc, by rw [hsame]⟩
  · rintro ⟨c, rest, rfl, hc, rfl⟩
    -- Were there only blanks behind the word, the line would end with one.
    have hne : trimStart rest ≠ [] := by
      intro hnil
      have hblank : ∀ d ∈ c :: rest, isBlank d = true :=
        List.forall_mem_cons.mpr ⟨hc, List.dropWhile_eq_nil_iff.mp hnil⟩
      have hlast : ("return".toList ++ c :: rest).getLast? = some ((c :: rest).getLast (by simp)) := by
        rw [List.getLast?_append, List.getLast?_eq_some_getLast (by simp), Option.some_or]
      have hsolid := htrim.last _ hlast
      rw [hblank _ (List.getLast_mem _)] at hsolid
      cases hsolid
    have hend : '\n' ∉ trimStart rest := by
      intro hmem
      have hrest : '\n' ∈ rest := trimStart_subset rest hmem
      exact hline (by simp [hrest])
    refine ⟨_, ⟨c, rest, rfl, hc, rfl⟩, trimStart rest, ?_, rfl⟩
    simp [oneLine?, hne, hend]

theorem giveBack?_eq_some_iff {cs : List Char} {expr : String} :
    giveBack? cs = some (.giveBack expr) ↔
      ∃ rest, cs = "return".toList ++ rest ∧ String.ofList (trim rest) = expr := by
  simp only [giveBack?, Option.map_eq_some_iff, after?_eq_some_iff, Form.giveBack.injEq]

theorem giveBackAlike_iff {line : String} (honeLine : '\n' ∉ line.toList) :
    GiveBackAlike line ↔ ¬ WordRunsOn line := by
  have htrim : Trimmed (strip line).toList := by
    rw [strip, String.toList_ofList]
    exact trimmed_trim _
  have hline : '\n' ∉ (strip line).toList := by
    rw [strip, String.toList_ofList]
    exact fun hmem => honeLine (mem_of_mem_trim hmem)
  have hform : ∀ text, forms [line] = [.giveBack text] ↔
      ∃ rest, (strip line).toList = "return".toList ++ rest ∧ String.ofList (trim rest) = text := by
    intro text
    rw [forms_eq_iff rfl]
    exact giveBack?_eq_some_iff
  have hstatement : ∀ text, Statement.ofLine? (strip line) = some (.giveBack text) ↔
      ∃ c rest, (strip line).toList = "return".toList ++ c :: rest ∧ isBlank c = true ∧
        String.ofList (trimStart rest) = text := by
    intro text
    rw [ofLine?_eq_some_iff]
    exact statement_giveBack?_eq_some_iff htrim hline
  -- What the interpreter keeps behind the word is what the compiler keeps, but for blanks at its end.
  have hsame : ∀ {c rest}, isBlank c = true →
      strip (String.ofList (trimStart rest)) = strip (String.ofList (trim (c :: rest))) := by
    intro c rest hc
    have hstart : trim (trimStart rest) = trim rest := by
      rw [trim, trim, trimStart_of_head (head_trimStart rest)]
    simp only [strip, String.toList_ofList, trim_cons_of_blank hc, hstart, (trimmed_trim rest).trim]
  constructor
  · rintro halike ⟨rest, hrest, hhead⟩
    obtain ⟨text, htext, -⟩ := (halike _).mpr ⟨_, (hform _).mpr ⟨rest, hrest, rfl⟩, rfl⟩
    obtain ⟨c, behind, hbehind, hc, -⟩ := (hstatement text).mp htext
    obtain rfl : rest = c :: behind := List.append_cancel_left (hrest.symm.trans hbehind)
    simp [hc] at hhead
  · intro hword expr
    constructor
    · rintro ⟨text, htext, rfl⟩
      obtain ⟨c, rest, hrest, hc, rfl⟩ := (hstatement text).mp htext
      exact ⟨_, (hform _).mpr ⟨c :: rest, hrest, rfl⟩, (hsame hc).symm⟩
    · rintro ⟨text, htext, rfl⟩
      obtain ⟨rest, hrest, rfl⟩ := (hform text).mp htext
      have hhead : ¬ rest.head?.all (!isBlank ·) = true := fun hhead => hword ⟨rest, hrest, hhead⟩
      cases rest with
      | nil => simp at hhead
      | cons c behind =>
        have hc : isBlank c = true := by simpa using hhead
        exact ⟨_, (hstatement _).mpr ⟨c, behind, hrest, hc, rfl⟩, hsame hc⟩

/-- The interpreter and the compiler recognise a branch alike exactly if its colon does not stand apart from its
bracket, and a line that gives a value back exactly if its word does not run on. -/
theorem branches_and_returns_alike_iff {line : String} (honeLine : '\n' ∉ line.toList) :
    (BranchAlike line ↔ ¬ ColonApart line) ∧ (GiveBackAlike line ↔ ¬ WordRunsOn line) :=
  ⟨branchAlike_iff line, giveBackAlike_iff honeLine⟩

/-- Blanks elsewhere do not matter. -/
theorem tabbed_lines_alike : BranchAlike "if\t( x ):" ∧ GiveBackAlike "return\tx " := by
  constructor
  · apply (@branches_and_returns_alike_iff "if\t( x ):" (by decide)).1.mpr
    rintro ⟨-, hapart⟩
    exact hapart (by decide +kernel)
  · apply (@branches_and_returns_alike_iff "return\tx " (by decide)).2.mpr
    rintro ⟨rest, hrest, hhead⟩
    have hstrip : (strip "return\tx ").toList = "return".toList ++ ['\t', 'x'] := by decide +kernel
    obtain rfl : ['\t', 'x'] = rest := List.append_cancel_left (hstrip.symm.trans hrest)
    revert hhead
    decide

/-- The compiler takes no branch whose colon stands apart, and takes a longer word for `return`. -/
theorem spaced_colon_and_longer_word_differ :
    ('\n' ∉ "if (x) :".toList ∧ isVoid (strip "if (x) :") = false ∧ ¬ BranchAlike "if (x) :") ∧
    ('\n' ∉ "returned x".toList ∧ isVoid (strip "returned x") = false ∧ ¬ GiveBackAlike "returned x") := by
  refine ⟨⟨by decide, by decide +kernel, ?_⟩, ⟨by decide, by decide +kernel, ?_⟩⟩
  · rw [branchAlike_iff, not_not]
    exact ⟨⟨"x", by decide +kernel⟩, by decide +kernel⟩
  · rw [giveBackAlike_iff (by decide), not_not]
    exact ⟨"ed x".toList, by decide +kernel, by decide⟩

end LineScript.Compile
