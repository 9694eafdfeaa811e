import LineScript.Proofs.Compile.Written

/-!
# Headers and their bodies

The line of a header has to be followed by a line that is indented by four more blanks. In the file that
the compiler writes this is so exactly for the headers whose next form stands inside their block: an
`end` or an `else:` right behind a header, with nothing but void lines in between, leaves it without a
body. Only the main function gets a `pass` where it would be empty.
-/

namespace LineScript.Compile

open Text

/-! ## Bodies of headers -/

/-- The number of blanks in front of a line. -/
def indentation (line : String) : Nat :=
  (line.toList.takeWhile (· == ' ')).length

/-- The line that follows line `i` of a file is indented by four more blanks. -/
def HasBody (file : List String) (i : Nat) : Prop :=
  ∃ header next, file[i]? = some header ∧ file[i + 1]? = some next ∧
    indentation next = indentation header + 4

theorem hasBody_append_iff {front rest : List String} {header : String} :
    HasBody (front ++ header :: rest) front.length ↔
      ∃ next ∈ rest.head?, indentation next = indentation header + 4 := by
  have hheader : (front ++ header :: rest)[front.length]? = some header := by simp
  have hnext : (front ++ header :: rest)[front.length + 1]? = rest.head? := by
    rw [List.getElem?_append_right (by omega), Nat.add_sub_cancel_left, List.getElem?_cons_succ,
      List.head?_eq_getElem?]
  simp [HasBody, hnext]

theorem indentation_indented {text : String} (h : Flush text) (depth : Nat) :
    indentation (indented depth text ++ "\n") = 4 * (depth + 1) := by
  obtain ⟨c, cs, hchars⟩ : ∃ c cs, text.toList = c :: cs := by
    cases hchars : text.toList with
    | nil => simpa [hchars] using h.begins
    | cons c cs => exact ⟨c, cs, rfl⟩
  have hc : (c == ' ') = false := by simpa [hchars] using h.begins
  have hblanks : ∀ b ∈ List.replicate (4 * (depth + 1)) ' ', (b == ' ') = true := by
    intro b hb
    rw [List.eq_of_mem_replicate hb]
    rfl
  rw [indentation, indented, String.toList_append, String.toList_append, String.toList_ofList, hchars,
    List.append_assoc, List.takeWhile_append_of_pos hblanks]
  simp [hc]

/-! ## Headers among the forms -/

/-- Whether a form is the first line of a block. -/
def Form.isHeader : Form → Bool
  | .branch _ | .otherwise | .loop _ | .define _ _ => true
  | _ => false

/-- Whether a form ends the block that it is met in. -/
def Form.endsBlock : Form → Bool
  | .close | .otherwise => true
  | _ => false

/-- The line of the file at which the form behind some others stands. -/
def lineBehind (front : List Form) : Nat :=
  2 + (emit 0 front).length

/-- The blocks that are open behind some forms, each with whether it is one of a branch. An `else:`
needs a branch around it. -/
def openBlocks : List Bool → List Form → Option (List Bool)
  | blocks, [] => some blocks
  | blocks, .branch _ :: fs => openBlocks (true :: blocks) fs
  | blocks, .loop _ :: fs => openBlocks (false :: blocks) fs
  | blocks, .define _ _ :: fs => openBlocks (false :: blocks) fs
  | blocks, .otherwise :: fs => if blocks.contains true then openBlocks blocks fs else none
  | blocks, .close :: fs => openBlocks blocks.tail fs
  | blocks, _ :: fs => openBlocks blocks fs

/-- Every header is closed by its own `end`, and every `else:` stands in a branch. -/
def WellNested (fs : List Form) : Prop :=
  openBlocks [] fs = some []

instance (fs : List Form) : Decidable (WellNested fs) :=
  inferInstanceAs (Decidable (openBlocks [] fs = some []))

theorem openBlocks_append (blocks : List Bool) (fs gs : List Form) :
    openBlocks blocks (fs ++ gs) = (openBlocks blocks fs).bind (openBlocks · gs) := by
  fun_induction openBlocks blocks fs <;> simp_all [openBlocks]

/-- A header that no form follows leaves a block open. -/
theorem openBlocks_header {blocks : List Bool} {header : Form} (h : header.isHeader = true) :
    openBlocks blocks [header] ≠ some [] := by
  cases header with
  | branch _ | loop _ | define _ _ => simp [openBlocks]
  | otherwise =>
    intro hclosed
    simp only [openBlocks] at hclosed
    split at hclosed
    · rename_i hbranch
      obtain rfl := Option.some.inj hclosed
      cases hbranch
    · cases hclosed
  | assign _ _ | print _ | giveBack _ | close | note _ | raw _ => cases h

theorem WellNested.not_last {front back : List Form} {header : Form}
    (h : WellNested (front ++ header :: back)) (hheader : header.isHeader = true) : back ≠ [] := by
  rintro rfl
  rw [WellNested, openBlocks_append, Option.bind_eq_some_iff] at h
  obtain ⟨blocks, -, hblocks⟩ := h
  exact openBlocks_header hheader hblocks

/-! ## Emission -/

theorem emit_append (depth : Nat) (fs gs : List Form) :
    emit depth (fs ++ gs) = emit depth fs ++ emit (fs.foldl Form.nextDepth depth) gs := by
  induction fs generalizing depth with
  | nil => rfl
  | cons f fs ih => simp only [List.cons_append, emit, ih, List.foldl_cons, List.append_assoc]

/-- A header has a line, and what follows it stands one block deeper. -/
theorem emit_header {header : Form} (h : header.isHeader = true) (depth : Nat) (back : List Form) :
    ∃ text, header.text? = some text ∧ emit depth (header :: back) =
      atDepth (header.ownDepth depth) text :: emit (header.ownDepth depth + 1) back := by
  cases header with
  | branch _ | otherwise | loop _ | define _ _ => exact ⟨_, rfl, rfl⟩
  | assign _ _ | print _ | giveBack _ | close | note _ | raw _ => cases h

/-- Only the end of a block becomes no line. -/
theorem Form.text?_eq_none_iff {f : Form} : f.text? = none ↔ f = .close := by
  cases f <;> simp [Form.text?]

theorem Form.ownDepth_le (f : Form) (depth : Nat) : f.ownDepth depth ≤ depth := by
  cases f <;> simp [Form.ownDepth]

theorem Form.ownDepth_succ_eq_iff {f : Form} (h : f ≠ .close) (depth : Nat) :
    f.ownDepth (depth + 1) = depth + 1 ↔ f.endsBlock = false := by
  cases f <;> simp [Form.ownDepth, Form.endsBlock] at h ⊢

/-- The first line that forms become stands no deeper than they begin. -/
theorem head_emit {depth : Nat} {fs : List Form} {line : String} (h : line ∈ (emit depth fs).head?) :
    ∃ d ≤ depth, ∃ f ∈ fs, ∃ text ∈ f.text?, line = atDepth d text := by
  induction fs generalizing depth with
  | nil => cases h
  | cons f fs ih =>
    cases htext : f.text? with
    | some text =>
      have hline : atDepth (f.ownDepth depth) text = line := by simpa [emit, htext] using h
      exact ⟨f.ownDepth depth, f.ownDepth_le depth, f, List.mem_cons_self, text, htext, hline.symm⟩
    | none =>
      -- The line comes from the forms behind the end of a block, which begin at a smaller depth.
      obtain rfl := Form.text?_eq_none_iff.mp htext
      obtain ⟨d, hd, g, hg, hline⟩ := ih h
      exact ⟨d, hd.trans (Nat.sub_le depth 1), g, List.mem_cons_of_mem _ hg, hline⟩

/-- Behind a header, the first line stands one block deeper exactly if the next form does not end the
block. -/
theorem head_emit_deeper_iff {depth : Nat} {back : List Form}
    (hflush : ∀ f ∈ back, ∀ text ∈ f.text?, Flush text) :
    (∃ line ∈ (emit (depth + 1) back).head?,
        indentation ("    " ++ line ++ "\n") = 4 * (depth + 1) + 4) ↔
      ∃ next ∈ back.head?, next.endsBlock = false := by
  have hindent : ∀ d, ∀ f ∈ back, ∀ text ∈ f.text?,
      indentation ("    " ++ atDepth d text ++ "\n") = 4 * (d + 1) := by
    intro d f hf text htext
    rw [four_append_atDepth, indentation_indented (hflush f hf text htext)]
  cases back with
  | nil => simp [emit]
  | cons f fs =>
    cases htext : f.text? with
    | some text =>
      have hline : (emit (depth + 1) (f :: fs)).head? = some (atDepth (f.ownDepth (depth + 1)) text) := by
        simp [emit, htext]
      have hown := hindent (f.ownDepth (depth + 1)) f List.mem_cons_self text htext
      have hclose : f ≠ .close := fun h => by simp [Form.text?_eq_none_iff.mpr h] at htext
      simp only [hline, Option.mem_some_iff, exists_eq_left', hown, List.head?_cons,
        ← Form.ownDepth_succ_eq_iff hclose depth]
      omega
    | none =>
      -- After the end of the block, no line stands as deep as its body would.
      obtain rfl := Form.text?_eq_none_iff.mp htext
      constructor
      · rintro ⟨line, hline, hdeep⟩
        have hline : line ∈ (emit depth fs).head? := hline
        obtain ⟨d, hd, g, hg, text, hg_text, rfl⟩ := head_emit hline
        rw [hindent d g (List.mem_cons_of_mem _ hg) text hg_text] at hdeep
        omega
      · rintro ⟨_, ⟨⟩, hends⟩
        cases hends

/-! ## The file -/

/-- The lines of the file of a script that holds a header: those before it, its own, those behind it. -/
theorem programLines_of_header {lines : List String} {front back : List Form} {header : Form}
    (hforms : forms lines = front ++ header :: back) (hheader : header.isHeader = true) :
    ∃ depth text before, header.text? = some text ∧ before.length = lineBehind front ∧
      (programLines lines).map (· ++ "\n") = before ++ (indented depth text ++ "\n") ::
        ((emit (depth + 1) back).map (fun line => "    " ++ line ++ "\n") ++
          ["\n", "if __name__=='__main__':\n", "    _stryke_main()\n"]) := by
  obtain ⟨text, htext, hemit⟩ := emit_header hheader (front.foldl Form.nextDepth 0) back
  have hbody : body lines = emit 0 front ++
      atDepth (header.ownDepth (front.foldl Form.nextDepth 0)) text ::
        emit (header.ownDepth (front.foldl Form.nextDepth 0) + 1) back := by
    rw [body, hforms, emit_append, hemit]
    split
    · simp at *
    · rfl
  refine ⟨header.ownDepth (front.foldl Form.nextDepth 0), text,
    ["# Auto-compiled from .stryke\n", "def _stryke_main():\n"] ++
      (emit 0 front).map (fun line => "    " ++ line ++ "\n"), htext, ?_, ?_⟩
  · simp only [lineBehind, List.length_append, List.length_map, List.length_cons, List.length_nil]
  · simp [programLines, hbody, ← four_append_atDepth, Function.comp_def]

/-- The main function has a body, and so has the line that calls it. -/
theorem hasBody_main {lines : List String} (hlines : ∀ line ∈ lines, OneLine (strip line).toList) :
    HasBody ((programLines lines).map (· ++ "\n")) 1 ∧
      HasBody ((programLines lines).map (· ++ "\n")) ((body lines).length + 3) := by
  have hfirst : ∃ line rest, body lines = line :: rest ∧ indentation ("    " ++ line ++ "\n") = 4 := by
    rw [body]
    cases hemit : emit 0 (forms lines) with
    | nil => exact ⟨"pass", [], rfl, by decide⟩
    | cons line rest =>
      -- No line stands deeper than the first one, and no depth is below that of the main function.
      have hline : line ∈ (emit 0 (forms lines)).head? := by rw [hemit]; rfl
      obtain ⟨d, hd, f, hf, text, htext, rfl⟩ := head_emit hline
      obtain rfl : d = 0 := Nat.le_zero.mp hd
      refine ⟨_, rest, rfl, ?_⟩
      rw [four_append_atDepth, indentation_indented (flush_of_mem_forms hlines hf text htext)]
  constructor
  · obtain ⟨line, rest, hbody, hindent⟩ := hfirst
    have hmain : indentation "def _stryke_main():\n" = 0 := by decide
    have hsplit : (programLines lines).map (· ++ "\n") = ["# Auto-compiled from .stryke\n"] ++
        "def _stryke_main():\n" :: ("    " ++ line ++ "\n") ::
          (rest.map ("    " ++ ·) ++ ["", "if __name__=='__main__':", "    _stryke_main()"]).map
            (· ++ "\n") := by
      simp [programLines, hbody]
    rw [hsplit]
    exact hasBody_append_iff.mpr ⟨_, rfl, by rw [hindent, hmain]⟩
  · have hsplit : (programLines lines).map (· ++ "\n") =
        (["# Auto-compiled from .stryke", "def _stryke_main():"] ++ (body lines).map ("    " ++ ·) ++
          [""]).map (· ++ "\n") ++ "if __name__=='__main__':\n" :: ["    _stryke_main()\n"] := by
      simp [programLines]
    have hlength : (body lines).length + 3 =
        ((["# Auto-compiled from .stryke", "def _stryke_main():"] ++ (body lines).map ("    " ++ ·) ++
          [""]).map (· ++ "\n")).length := by
      simp
    rw [hsplit, hlength]
    exact hasBody_append_iff.mpr ⟨_, rfl, by decide⟩

/-- The line of a header has a body exactly if another form follows the header in its block. -/
theorem hasBody_header_iff {lines : List String} (hlines : ∀ line ∈ lines, OneLine (strip line).toList)
    {front back : List Form} {header : Form} (hforms : forms lines = front ++ header :: back)
    (hheader : header.isHeader = true) :
    HasBody ((programLines lines).map (· ++ "\n")) (lineBehind front) ↔
      ∃ next ∈ back.head?, next.endsBlock = false := by
  obtain ⟨depth, text, before, htext, hlength, hfile⟩ := programLines_of_header hforms hheader
  have hflush : ∀ f ∈ forms lines, ∀ text ∈ f.text?, Flush text :=
    fun f hf => flush_of_mem_forms hlines hf
  have hown := indentation_indented (hflush header (by simp [hforms]) text htext) depth
  have hback : ∀ f ∈ back, ∀ text ∈ f.text?, Flush text :=
    fun f hf => hflush f (by simp [hforms, hf])
  rw [hfile, ← hlength, hasBody_append_iff, hown, ← head_emit_deeper_iff hback]
  cases emit (depth + 1) back with
  | nil =>
    -- The empty line behind the main function is not indented.
    have hblank : indentation "\n" = 0 := by decide
    simp [hblank]
  | cons line rest => simp

/-! ## Compiled scripts -/

/-- No header is directly followed by the end of its block or by an `else:`. -/
def BlocksFilled (fs : List Form) : Prop :=
  fs.IsChain fun header next => header.isHeader = true → next.endsBlock = false

instance (fs : List Form) : Decidable (BlocksFilled fs) :=
  inferInstanceAs (Decidable (fs.IsChain _))

/-- A script is compiled to a file in which the main function has a body, and the line of each header
has one exactly if the next form stands inside its block. All headers of a well-nested script have a
body exactly if none of its blocks is empty. -/
theorem headers_have_bodies_iff (path : String) (output : Option String) (s : Session)
    (lines : List String) (place : Files.Location) (source : s.files.readLines path = .ok lines)
    (writable : s.files.target (outputPath path output) = .ok place) :
    let compiled := compileFile path output s
    compiled.1 = .done () ∧
      ∃ file, compiled.2.files.readLines (outputPath path output) = .ok file ∧
        HasBody file 1 ∧ HasBody file (file.length - 2) ∧
        (∀ front header back, forms lines = front ++ header :: back → header.isHeader = true →
          (∃ depth text, header.text? = some text ∧
            file[lineBehind front]? = some (indented depth text ++ "\n")) ∧
          (HasBody file (lineBehind front) ↔ ∃ next ∈ back.head?, next.endsBlock = false)) ∧
        (WellNested (forms lines) →
          ((∀ front header back, forms lines = front ++ header :: back → header.isHeader = true →
            HasBody file (lineBehind front)) ↔ BlocksFilled (forms lines))) := by
  have hlines := Files.FileTree.oneLine_of_readLines source
  obtain ⟨hdone, hfile⟩ := readLines_compiled source writable
  obtain ⟨hmain, hcall⟩ := hasBody_main hlines
  have hlength : ((programLines lines).map (· ++ "\n")).length - 2 = (body lines).length + 3 := by
    simp [programLines]
  refine ⟨hdone, _, hfile, hmain, by rwa [hlength], ?_, ?_⟩
  · intro front header back hforms hheader
    refine ⟨?_, hasBody_header_iff hlines hforms hheader⟩
    obtain ⟨depth, text, before, htext, hlength, hsplit⟩ := programLines_of_header hforms hheader
    refine ⟨depth, text, htext, ?_⟩
    rw [hsplit, ← hlength]
    simp
  · intro hnested
    rw [BlocksFilled, List.isChain_iff_forall_rel_of_append_cons_cons]
    constructor
    · intro hall header next front back hforms hheader
      have hbody := hall front header (next :: back) hforms hheader
      obtain ⟨_, ⟨⟩, hinside⟩ := (hasBody_header_iff hlines hforms hheader).mp hbody
      exact hinside
    · intro hfilled front header back hforms hheader
      -- A header of a well-nested script is not the last form.
      rw [hforms] at hnested
      obtain ⟨next, rest, rfl⟩ := List.exists_cons_of_ne_nil (hnested.not_last hheader)
      exact (hasBody_header_iff hlines hforms hheader).mpr ⟨next, rfl, hfilled hforms hheader⟩

/-- Blocks in blocks, with void lines behind their headers. -/
def ladder : List String :=
  ["def go(n):", "if (n):", "", "# deep", "while (n):", "stryprint n", "end", "else:", "  ",
    "stryset n (1)", "end", "end"]

theorem ladder_headers_have_bodies :
    WellNested (forms (ladder.map (· ++ "\n"))) ∧ BlocksFilled (forms (ladder.map (· ++ "\n"))) ∧
      ∃ file, (compileFile "p" (some "q") (scriptSession ladder)).2.files.readLines "q" = .ok file ∧
        ∀ front header back, forms (ladder.map (· ++ "\n")) = front ++ header :: back →
          header.isHeader = true → HasBody file (lineBehind front) := by
  have hforms : forms (ladder.map (· ++ "\n")) = [.define "go" "n", .branch "n", .loop "n",
      .print "n", .close, .otherwise, .assign "n" "1", .close, .close] := by decide +kernel
  have hnested : WellNested (forms (ladder.map (· ++ "\n"))) := by rw [hforms]; decide
  have hfilled : BlocksFilled (forms (ladder.map (· ++ "\n"))) := by rw [hforms]; decide
  obtain ⟨-, file, hfile, -, -, -, hall⟩ := headers_have_bodies_iff "p" (some "q")
    (scriptSession ladder) _ _ (readLines_scriptSession (by decide)) (target_scriptSession ladder)
  exact ⟨hnested, hfilled, file, hfile, (hall hnested).mpr hfilled⟩

/-- A branch with nothing in it is well nested, and its header is followed by a line that is not
indented at all. -/
theorem empty_branch_has_no_body :
    WellNested (forms ["if (1):\n", "end\n"]) ∧
      (compileFile "p" (some "q") (scriptSession ["if (1):", "end"])).1 = .done () ∧
      ∃ file, (compileFile "p" (some "q") (scriptSession ["if (1):", "end"])).2.files.readLines "q" =
          .ok file ∧ file[2]? = some "    if 1:\n" ∧ ¬ HasBody file 2 := by
  have hforms : forms ["if (1):\n", "end\n"] = [] ++ .branch "1" :: [.close] := by decide +kernel
  have hsource : (scriptSession ["if (1):", "end"]).files.readLines "p" = .ok ["if (1):\n", "end\n"] :=
    readLines_scriptSession (by decide)
  have hwritable : (scriptSession ["if (1):", "end"]).files.target (outputPath "p" (some "q")) = .ok _ :=
    target_scriptSession _
  obtain ⟨hdone, hfile⟩ := readLines_compiled hsource hwritable
  refine ⟨by rw [hforms]; decide, hdone, _, hfile, by decide +kernel, ?_⟩
  have hbody := hasBody_header_iff (Files.FileTree.oneLine_of_readLines hsource) hforms rfl
  simpa [lineBehind, emit, Form.endsBlock] using hbody

end LineScript.Compile
