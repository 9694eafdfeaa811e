import LineScript.Proofs.Compile.Structure
import LineScript.Proofs.Files.Path

/-!
# The file that the compiler writes

Whatever stands in a script, each of its lines becomes at most one line of the program: the parts of a
form are cut out of the line, so that no line end comes in, and what is written begins with a character
that is no blank. The file is therefore read back line by line as it was written, and the blanks in front
of a line say at which depth it stands.
-/

namespace LineScript.Statement

open Text

/-! ## Parts are cut out of their line -/

section Parts

variable {cs rest : List Char}

theorem subset_of_after? {start : List Char} (h : after? start cs = some rest) : rest ⊆ cs :=
  (suffix_of_after? h).subset

theorem trimStart_subset (cs : List Char) : trimStart cs ⊆ cs :=
  (List.dropWhile_sublist _).subset

theorem trimEnd_subset (cs : List Char) : trimEnd cs ⊆ cs := by
  intro c hc
  rw [trimEnd, List.mem_reverse] at hc
  exact List.mem_reverse.mp ((List.dropWhile_sublist _).subset hc)

theorem trim_subset (cs : List Char) : trim cs ⊆ cs :=
  fun _ hc => mem_of_mem_trim hc

theorem subset_of_afterWord? {word : String} (h : afterWord? word cs = some rest) : rest ⊆ cs :=
  (suffix_of_afterWord? h).subset

/-- A name is made of word characters, and both it and what follows it stand in the line. -/
theorem parts_of_takeName? {name : List Char} (h : takeName? cs = some (name, rest)) :
    name ≠ [] ∧ (∀ c ∈ name, isWord c = true) ∧ name ⊆ cs ∧ rest ⊆ cs := by
  have hrest := (suffix_of_takeName? h).subset
  simp only [takeName?, List.span_eq_takeWhile_dropWhile] at h
  split at h
  · cases h
  · rename_i hne
    simp only [Option.some.injEq, Prod.mk.injEq] at h
    obtain ⟨rfl, -⟩ := h
    exact ⟨by simpa using hne, fun c hc => List.mem_takeWhile_imp hc, (List.takeWhile_sublist _).subset, hrest⟩

theorem subset_of_afterOpen? (h : afterOpen? cs = some rest) : rest ⊆ cs :=
  (suffix_of_afterOpen? h).subset

theorem subset_of_beforeLast? {c : Char} (h : beforeLast? c cs = some rest) : rest ⊆ cs := by
  rw [beforeLast?_eq_some_iff.mp h]
  exact List.subset_append_left _ _

theorem subset_of_oneLine? (h : oneLine? cs = some rest) : rest ⊆ cs := by
  unfold oneLine? at h
  split at h
  · cases h
  · cases h
    exact List.Subset.refl _

theorem subset_of_enclosed? (h : enclosed? cs = some rest) : rest ⊆ cs := by
  unfold enclosed? at h
  split at h
  · -- Between blanks alone, the expression is one of the blanks.
    obtain ⟨c, hc, rfl⟩ := Option.map_eq_some_iff.mp h
    have hmem := List.mem_of_getLast? hc
    simpa using (List.mem_filter.mp hmem).1
  · simp only [List.span_eq_takeWhile_dropWhile] at h
    split at h
    · cases h
      exact List.Subset.trans (List.takeWhile_sublist _).subset (trimStart_subset cs)
    · cases h

end Parts

end LineScript.Statement

namespace LineScript.Compile

open Text Statement

/-! ## The text of a form -/

/-- A text that can stand on a line: it holds no line end, and the blanks in front of it end where it
begins. -/
structure Flush (text : String) : Prop where
  oneLine : OneLine text.toList
  begins : text.toList.head?.any (· != ' ') = true

theorem oneLine_of_subset {cs ds : List Char} (h : cs ⊆ ds) (hds : OneLine ds) : OneLine cs :=
  ⟨fun hc => hds.1 (h hc), fun hc => hds.2 (h hc)⟩

theorem Flush.append {front back : String} (hfront : Flush front) (hback : OneLine back.toList) :
    Flush (front ++ back) := by
  refine ⟨?_, ?_⟩
  · rw [String.toList_append, oneLine_append]
    exact ⟨hfront.oneLine, hback⟩
  · have hbegins := hfront.begins
    rw [String.toList_append, List.head?_append]
    cases hhead : front.toList.head? with
    | none => simp [hhead] at hbegins
    | some c => simpa [hhead] using hbegins

theorem unquoted_subset (expr : String) : (unquoted expr).toList ⊆ expr.toList := by
  rw [unquoted, String.toList_ofList]
  exact List.Subset.trans (List.dropLast_sublist _).subset (List.drop_sublist _ _).subset

theorem flush_of_name {name : List Char} (hne : name ≠ []) (hwords : ∀ c ∈ name, isWord c = true)
    (hline : OneLine name) : Flush (String.ofList name) := by
  refine ⟨by rwa [String.toList_ofList], ?_⟩
  obtain ⟨c, rest, rfl⟩ := List.exists_cons_of_ne_nil hne
  have hblank := isBlank_of_isWord (hwords c List.mem_cons_self)
  have hc : c ≠ ' ' := by
    rintro rfl
    cases hblank
  simpa using hc

theorem flush_of_trimmed {text : String} (hline : OneLine text.toList) (htrim : Trimmed text.toList)
    (hne : text.toList ≠ []) : Flush text := by
  refine ⟨hline, ?_⟩
  obtain ⟨c, rest, hchars⟩ := List.exists_cons_of_ne_nil hne
  have hblank := htrim.head c (by rw [hchars]; rfl)
  have hc : c ≠ ' ' := by
    rintro rfl
    cases hblank
  simpa [hchars] using hc

theorem flush_printText {expr : String} (hexpr : OneLine expr.toList) : Flush (printText expr) := by
  have hinside := oneLine_of_subset (unquoted_subset expr) hexpr
  have hfilled : Flush "print(f\"" := ⟨by decide, by decide⟩
  have hplain : Flush "print(" := ⟨by decide, by decide⟩
  unfold printText
  split
  · exact (hfilled.append hinside).append (by decide)
  · exact (hplain.append hexpr).append (by decide)

section Readers

variable {cs : List Char} {form : Form}

theorem flush_assign? (hcs : OneLine cs) (h : assign? cs = some form) :
    ∀ text ∈ form.text?, Flush text := by
  simp only [assign?, Option.bind_eq_bind, Option.bind_eq_some_iff] at h
  obtain ⟨behind, hword, ⟨name, rest⟩, hname, inside, hopen, body, hclose, expr, hexpr, hform⟩ := h
  obtain ⟨hne, hwords, hsub, hrest⟩ := parts_of_takeName? hname
  have hbehind := oneLine_of_subset (subset_of_afterWord? hword) hcs
  have hinside := oneLine_of_subset (subset_of_afterOpen? hopen) (oneLine_of_subset hrest hbehind)
  have hbody := oneLine_of_subset (subset_of_beforeLast? hclose) hinside
  have hline := oneLine_of_subset (subset_of_enclosed? hexpr) hbody
  have hflush := flush_of_name hne hwords (oneLine_of_subset hsub hbehind)
  cases hform
  rintro _ ⟨⟩
  exact (hflush.append (by decide)).append (by rwa [String.toList_ofList])

theorem flush_print? (hcs : OneLine cs) (h : print? cs = some form) :
    ∀ text ∈ form.text?, Flush text := by
  simp only [print?, Option.bind_eq_bind, Option.bind_eq_some_iff] at h
  obtain ⟨behind, hword, expr, hexpr, hform⟩ := h
  have hbehind := oneLine_of_subset (subset_of_afterWord? hword) hcs
  have hline := oneLine_of_subset (trim_subset expr)
    (oneLine_of_subset (subset_of_oneLine? hexpr) hbehind)
  cases hform
  rintro _ ⟨⟩
  exact flush_printText (by rwa [String.toList_ofList])

theorem oneLine_of_header? {word condition : String} (hcs : OneLine cs)
    (h : header? word cs = some condition) : OneLine condition.toList := by
  simp only [header?, Option.bind_eq_bind, Option.bind_eq_some_iff] at h
  obtain ⟨behind, hword, inside, hopen, front, hcolon, body, hclose, expr, hexpr, hcondition⟩ := h
  have hbehind := oneLine_of_subset (subset_of_after? hword) hcs
  have hinside := oneLine_of_subset (subset_of_afterOpen? hopen)
    (oneLine_of_subset (trimStart_subset behind) hbehind)
  have hbody := oneLine_of_subset (subset_of_beforeLast? hclose)
    (oneLine_of_subset (subset_of_beforeLast? hcolon) hinside)
  cases hcondition
  rw [String.toList_ofList]
  exact oneLine_of_subset (subset_of_enclosed? hexpr) hbody

theorem flush_define? (hcs : OneLine cs) (h : define? cs = some form) :
    ∀ text ∈ form.text?, Flush text := by
  simp only [define?, Option.bind_eq_bind, Option.bind_eq_some_iff] at h
  obtain ⟨behind, hword, ⟨name, rest⟩, hname, inside, hopen, front, hcolon, body, hclose, hform⟩ := h
  obtain ⟨-, -, hsub, hrest⟩ := parts_of_takeName? hname
  have hbehind := oneLine_of_subset (subset_of_afterWord? hword) hcs
  have hinside := oneLine_of_subset (subset_of_afterOpen? hopen) (oneLine_of_subset hrest hbehind)
  have hfront := oneLine_of_subset (subset_of_beforeLast? hcolon) hinside
  have hbody := oneLine_of_subset (subset_of_beforeLast? hclose)
    (oneLine_of_subset (trimEnd_subset front) hfront)
  have hparams := oneLine_of_subset (trim_subset body) hbody
  split at hform
  · cases hform
  · cases hform
    rintro _ ⟨⟩
    have hname : Flush ("def " ++ String.ofList name) :=
      .append ⟨by decide, by decide⟩ (by simpa using oneLine_of_subset hsub hbehind)
    exact ((hname.append (by decide)).append (by simpa using hparams)).append (by decide)

theorem flush_giveBack? (hcs : OneLine cs) (h : giveBack? cs = some form) :
    ∀ text ∈ form.text?, Flush text := by
  obtain ⟨behind, hword, rfl⟩ := Option.map_eq_some_iff.mp h
  have hline := oneLine_of_subset (trim_subset behind)
    (oneLine_of_subset (subset_of_after? hword) hcs)
  rintro _ ⟨⟩
  exact .append ⟨by decide, by decide⟩ (by simpa using hline)

theorem flush_note? (hcs : OneLine cs) (h : note? cs = some form) :
    ∀ text ∈ form.text?, Flush text := by
  simp only [note?, Option.bind_eq_bind, Option.bind_eq_some_iff] at h
  obtain ⟨behind, hword, ⟨name, rest⟩, hname, hform⟩ := h
  obtain ⟨-, -, hsub, -⟩ := parts_of_takeName? hname
  have hline := oneLine_of_subset hsub (oneLine_of_subset (subset_of_afterWord? hword) hcs)
  split at hform
  · cases hform
    rintro _ ⟨⟩
    have hflush : Flush ("# import " ++ String.ofList name) :=
      .append ⟨by decide, by decide⟩ (by simpa using hline)
    exact hflush.append (by decide)
  · cases hform

/-- What a reader makes of a line can stand on a line. -/
theorem flush_reader {r : Reader} (hr : r ∈ readers) (hcs : OneLine cs) (h : r.2 cs = some form) :
    ∀ text ∈ form.text?, Flush text := by
  simp only [readers, List.mem_cons, List.not_mem_nil, or_false] at hr
  rcases hr with rfl | rfl | rfl | rfl | rfl | rfl | rfl | rfl
  · exact flush_assign? hcs h
  · exact flush_print? hcs h
  · obtain ⟨condition, hheader, rfl⟩ := Option.map_eq_some_iff.mp h
    rintro _ ⟨⟩
    have hword : Flush "if " := ⟨by decide, by decide⟩
    exact (hword.append (oneLine_of_header? hcs hheader)).append (by decide)
  · obtain ⟨_, -, rfl⟩ := Option.map_eq_some_iff.mp h
    rintro _ ⟨⟩
    exact ⟨by decide, by decide⟩
  · obtain ⟨condition, hheader, rfl⟩ := Option.map_eq_some_iff.mp h
    rintro _ ⟨⟩
    have hword : Flush "while " := ⟨by decide, by decide⟩
    exact (hword.append (oneLine_of_header? hcs hheader)).append (by decide)
  · exact flush_define? hcs h
  · exact flush_giveBack? hcs h
  · exact flush_note? hcs h

end Readers

/-- What a line becomes can stand on a line. -/
theorem flush_ofLine {line : String} (hline : OneLine line.toList) (htrim : Trimmed line.toList)
    (hvoid : isVoid line = false) : ∀ text ∈ (Form.ofLine line).text?, Flush text := by
  by_cases hend : line = "end"
  · subst hend
    rw [ofLine_close]
    rintro _ ⟨⟩
  rw [ofLine_eq_findSome? hend]
  cases hfind : readers.findSome? (·.2 line.toList) with
  | none =>
    -- A line of no form is written as it is, and it has no blanks at its ends.
    rintro _ ⟨⟩
    refine flush_of_trimmed hline htrim fun hnil => ?_
    rw [String.toList_eq_nil_iff] at hnil
    subst hnil
    cases hvoid
  | some form =>
    obtain ⟨r, hr, hread⟩ := List.exists_of_findSome?_eq_some hfind
    exact flush_reader hr hline hread

/-- The texts of a file's forms can stand on a line. -/
theorem flush_of_mem_forms {lines : List String} (hlines : ∀ line ∈ lines, OneLine (strip line).toList)
    {form : Form} (h : form ∈ forms lines) : ∀ text ∈ form.text?, Flush text := by
  simp only [forms, List.mem_map, List.mem_filter] at h
  obtain ⟨_, ⟨⟨line, hline, rfl⟩, hvoid⟩, rfl⟩ := h
  refine flush_ofLine (hlines line hline) ?_ (by simpa using hvoid)
  rw [strip, String.toList_ofList]
  exact trimmed_trim _

/-! ## The lines of the file -/

/-- The lines of the main function, a single `pass` if the script has none. -/
def body (lines : List String) : List String :=
  match emit 0 (forms lines) with
  | [] => ["pass"]
  | out => out

/-- The lines of the program of a script, without line ends. -/
def programLines (lines : List String) : List String :=
  ["# Auto-compiled from .stryke", "def _stryke_main():"] ++ (body lines).map ("    " ++ ·) ++
    ["", "if __name__=='__main__':", "    _stryke_main()"]

theorem program_eq_join (lines : List String) :
    program lines = String.join ((programLines lines).map (· ++ "\n")) := by
  have hbody : program lines = "# Auto-compiled from .stryke\ndef _stryke_main():\n" ++
      String.join ((body lines).map fun l => "    " ++ l ++ "\n") ++
      "\nif __name__=='__main__':\n    _stryke_main()\n" := rfl
  rw [hbody]
  apply String.toList_inj.mp
  simp [programLines, String.toList_join, List.flatMap_map, Function.comp_def]

/-- Each line of the body is the text of a form at some depth, or the `pass` of an empty body. -/
theorem exists_of_mem_emit {depth : Nat} {fs : List Form} {line : String} (h : line ∈ emit depth fs) :
    ∃ f ∈ fs, ∃ d, ∃ text ∈ f.text?, line = atDepth d text := by
  induction fs generalizing depth with
  | nil => simp [emit] at h
  | cons f fs ih =>
    rw [emit, List.mem_append] at h
    rcases h with h | h
    · obtain ⟨text, htext, rfl⟩ := Option.map_eq_some_iff.mp (Option.mem_toList.mp h)
      exact ⟨f, List.mem_cons_self, _, text, htext, rfl⟩
    · obtain ⟨g, hg, hline⟩ := ih h
      exact ⟨g, List.mem_cons_of_mem _ hg, hline⟩

theorem oneLine_atDepth {text : String} (h : OneLine text.toList) (depth : Nat) :
    OneLine (atDepth depth text).toList := by
  have hblanks : OneLine (List.replicate (4 * depth) ' ') := by
    simp [OneLine, List.mem_replicate]
  simp only [atDepth, String.toList_append, String.toList_ofList, oneLine_append]
  exact ⟨hblanks, h⟩

theorem oneLine_of_mem_programLines {lines : List String}
    (hlines : ∀ line ∈ lines, OneLine (strip line).toList) :
    ∀ line ∈ programLines lines, OneLine line.toList := by
  have hbody : ∀ line ∈ body lines, OneLine line.toList := by
    intro line hline
    unfold body at hline
    split at hline
    · obtain rfl := List.mem_singleton.mp hline
      decide
    · obtain ⟨f, hf, d, text, htext, rfl⟩ := exists_of_mem_emit hline
      exact oneLine_atDepth (flush_of_mem_forms hlines hf text htext).oneLine d
  intro line hline
  -- What stands around the body is the same in every program.
  simp only [programLines, List.mem_append, List.mem_map] at hline
  rcases hline with (hline | ⟨inner, hinner, rfl⟩) | hline
  · revert line
    decide
  · rw [String.toList_append, oneLine_append]
    exact ⟨by decide, hbody inner hinner⟩
  · revert line
    decide

/-- A script is compiled to a file that is read back line by line. -/
theorem readLines_compiled {path : String} {output : Option String} {s : Session}
    {lines : List String} {place : Files.Location} (source : s.files.readLines path = .ok lines)
    (writable : s.files.target (outputPath path output) = .ok place) :
    (compileFile path output s).1 = .done () ∧
      (compileFile path output s).2.files.readLines (outputPath path output) =
        .ok ((programLines lines).map (· ++ "\n")) := by
  have hwrite := Files.FileTree.write_of_target writable (Utf8.encode (program lines))
  rw [compileFile_of_readLines source hwrite, Session.write_files]
  refine ⟨rfl, Files.FileTree.readLines_of_read ?_ ?_⟩
  · exact oneLine_of_mem_programLines (Files.FileTree.oneLine_of_readLines source)
  · rw [← program_eq_join]
    exact Files.FileTree.read_of_write hwrite

/-- A session with a script at the path `p`. -/
def scriptSession (lines : List String) : Session :=
  { Session.fresh with files := Files.FileTree.withScript "p" lines }

theorem readLines_scriptSession {lines : List String} (hlines : ∀ line ∈ lines, OneLine line.toList) :
    (scriptSession lines).files.readLines "p" = .ok (lines.map (· ++ "\n")) :=
  Files.FileTree.readLines_withScript (by decide) hlines

theorem target_scriptSession (lines : List String) :
    (scriptSession lines).files.target "q" = .ok (Files.work ++ ["q"]) := by
  have hne : ∀ k ∈ [Files.work, Files.work ++ ["q"]], k ≠ Files.work ++ ["p"] := by decide
  have hwork : (scriptSession lines).files.get? Files.work = some .dir := by
    rw [scriptSession, Files.FileTree.withScript, Files.FileTree.get?_put_of_ne _ (hne _ (by simp))]
    decide
  have hfile : (scriptSession lines).files.isDir (Files.work ++ ["q"]) = false := by
    rw [Files.FileTree.isDir, scriptSession, Files.FileTree.withScript,
      Files.FileTree.get?_put_of_ne _ (hne _ (by simp))]
    decide
  exact Files.FileTree.target_name (by decide) hwork hfile

end LineScript.Compile
