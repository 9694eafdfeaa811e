import LineScript.Proofs.Compile.Structure
import LineScript.Proofs.Quiet

/-!
# Layout

Blanks around a line, empty lines and comments are layout. Without them a script is tidy, and it does the
same as before: the two runs end the same way, with the same output, variables and files. The functions
that are defined on the way have bodies with and without layout, so the two runs are compared by a
relation between sessions that makes the bodies tidy. Removing lines changes the indices of all lines
behind them; the runs are therefore compared looking ahead, where no index is used.
-/

namespace LineScript

open Run

/-! ## Tidy lines -/

/-- The lines without blanks around them, and without empty lines and comments. -/
def tidyLines (lines : List String) : List String :=
  (lines.map Text.strip).filter (!isVoid ·)

section Lines

variable {lines block : List String} {line : String}

theorem tidyLines_append (front back : List String) :
    tidyLines (front ++ back) = tidyLines front ++ tidyLines back := by
  simp [tidyLines]

theorem tidyLines_cons_of_isVoid (h : isVoid (Text.strip line) = true) (rest : List String) :
    tidyLines (line :: rest) = tidyLines rest := by
  simp [tidyLines, h]

theorem tidyLines_cons (h : isVoid (Text.strip line) = false) (rest : List String) :
    tidyLines (line :: rest) = Text.strip line :: tidyLines rest := by
  simp [tidyLines, h]

@[simp] theorem tidyLines_tidyLines (lines : List String) :
    tidyLines (tidyLines lines) = tidyLines lines := by
  induction lines with
  | nil => rfl
  | cons line rest ih =>
    cases hvoid : isVoid (Text.strip line) with
    | true => rw [tidyLines_cons_of_isVoid hvoid, ih]
    | false =>
      rw [tidyLines_cons hvoid, tidyLines_cons (by rwa [Text.strip_strip]), Text.strip_strip, ih]

/-- The end of a line is layout. -/
theorem tidyLines_ended (lines : List String) : tidyLines (lines.map (· ++ "\n")) = tidyLines lines := by
  have hstrip : ∀ line : String, Text.strip (line ++ "\n") = Text.strip line := by
    intro line
    unfold Text.strip
    rw [String.toList_append, Text.trim_append_blank _ (by simp [Text.isBlank])]
  simp only [tidyLines, List.map_map, Function.comp_def, hstrip]

theorem closesBlock_strip (line : String) : closesBlock (Text.strip line) = closesBlock line := by
  simp [closesBlock]

theorem endless_tidyLines (h : Endless lines) : Endless (tidyLines lines) := by
  intro line hline
  obtain ⟨l, hl, rfl⟩ := List.mem_map.mp (List.mem_of_mem_filter hline)
  rw [closesBlock_strip]
  exact h l hl

theorem tidyLines_stop {stop : String} (h : closesBlock stop = true) (back : List String) :
    tidyLines (stop :: back) = "end" :: tidyLines back := by
  have hstrip : Text.strip stop = "end" := by simpa [closesBlock] using h
  have hvoid : isVoid "end" = false := by decide
  rw [tidyLines_cons (by rwa [hstrip]), hstrip]

/-- The block ahead of tidy lines is the tidy block, and what follows it is tidy too. -/
theorem splitBlock_tidyLines {n : Nat} (h : splitBlock lines = some (block, n)) :
    splitBlock (tidyLines lines) = some (tidyLines block, (tidyLines block).length) ∧
    (tidyLines lines).drop ((tidyLines block).length + 1) = tidyLines (lines.drop (n + 1)) := by
  have hblock := endless_tidyLines (endless_of_splitBlock h)
  obtain ⟨stop, back, rfl, hstop, rfl⟩ := append_of_splitBlock h
  rw [tidyLines_append, tidyLines_stop hstop]
  refine ⟨splitBlock_append hblock (by decide), ?_⟩
  rw [drop_append_cons, drop_append_cons]

theorem splitBlock_tidyLines_of_none (h : splitBlock lines = none) :
    splitBlock (tidyLines lines) = none :=
  (endless_tidyLines (endless_of_splitBlock_none h)).splitBlock_eq_none

end Lines

/-! ## Tidy sessions -/

/-- The function with the layout of its body removed. -/
def Function.tidy (f : Function) : Function :=
  { f with body := tidyLines f.body }

def Table.tidy (t : Table Function) : Table Function :=
  t.map fun entry => (entry.1, entry.2.tidy)

/-- The session with the layout of all bodies removed. -/
def Session.tidy (s : Session) : Session :=
  { s with funcs := s.funcs.tidy }

theorem Table.get?_tidy (t : Table Function) (name : String) :
    t.tidy.get? name = (t.get? name).map Function.tidy := by
  induction t with
  | nil => rfl
  | cons entry rest ih =>
    obtain ⟨k, f⟩ := entry
    unfold Table.tidy at ih ⊢
    rw [List.map_cons, Table.get?_cons, Table.get?_cons, ih]
    split <;> rfl

theorem Table.tidy_set (t : Table Function) (name : String) (f : Function) :
    (t.set name f).tidy = t.tidy.set name f.tidy := by
  induction t with
  | nil => rfl
  | cons entry rest ih =>
    obtain ⟨k, g⟩ := entry
    unfold Table.tidy at ih ⊢
    by_cases hk : k = name <;> simp [Table.set, hk, ih]

/-- The second session is the first one with tidy bodies. -/
def Tidied (s₁ s₂ : Session) : Prop :=
  s₂ = s₁.tidy

theorem Session.tidy_write (s : Session) (text : String) : (s.write text).tidy = s.tidy.write text := by
  have hsilent : s.tidy.silent = s.silent := rfl
  unfold Session.write
  rw [hsilent]
  split <;> rfl

theorem sharesWorld_tidied : SharesWorld Tidied where
  silent := by rintro s _ rfl; rfl
  write := by rintro s _ text rfl; exact (Session.tidy_write s text).symm
  files := by rintro s _ rfl; rfl
  input := by rintro s _ rfl; rfl
  streams := by rintro s _ rfl; rfl
  setFiles := by rintro s _ files rfl; rfl
  setInput := by rintro s _ input streams rfl; rfl

theorem sameNames_tidied : SameNames Tidied := by
  rintro s _ rfl
  exact ⟨rfl, rfl⟩

theorem lineCongruence_tidied : LineCongruence fun {_} => Matches (fun _ => False) Tidied where
  toCongruence := congruence_matches _ _
  assign := by
    intro name v
    refine .modify ?_
    rintro s _ rfl
    rfl
  print := fun v => printValues_matches sharesWorld_tidied.toPrintsAlike [v]

/-! ## Runs -/

section Runs

variable {call₁ call₂ : Caller} {run₁ run₂ : List String → Run (Option Value)}

theorem define_tidied (name : String) (params block : List String) :
    Matches (fun _ => False) Tidied
      (Run.modify fun s => { s with funcs := s.funcs.set name ⟨params, block⟩ })
      (Run.modify fun s => { s with funcs := s.funcs.set name ⟨params, tidyLines block⟩ }) := by
  refine .modify ?_
  rintro s _ rfl
  have hset := Table.tidy_set s.funcs name ⟨params, block⟩
  simp only [Tidied, Session.tidy, hset]
  rfl

/-- Lines and tidy lines match if their texts and their blocks do. -/
theorem runAhead_tidied (htext : ∀ text, Matches (fun _ => False) Tidied (evalText call₁ text)
      (evalText call₂ text))
    (hrun : ∀ block, Matches (fun _ => False) Tidied (run₁ block) (run₂ (tidyLines block)))
    (lines : List String) :
    Matches (fun _ => False) Tidied (runAhead call₁ run₁ 0 lines)
      (runAhead call₂ run₂ 0 (tidyLines lines)) := by
  -- A jump leaves out a whole block, so the induction is on the number of lines.
  induction hlength : lines.length using Nat.strong_induction_on generalizing lines with
  | _ length ih =>
    cases lines with
    | nil => exact .pure _
    | cons line rest =>
      have hnext := ih rest.length (by simp [← hlength]) rest rfl
      cases hvoid : isVoid (Text.strip line) with
      | true =>
        -- The line is there on one side only, where it does nothing.
        rw [tidyLines_cons_of_isVoid hvoid, runAhead_of_none (Statement.ofLine?_of_isVoid hvoid)]
        exact hnext
      | false =>
        rw [tidyLines_cons hvoid]
        cases hst : Statement.ofLine? (Text.strip line) with
        | none =>
          rw [runAhead_of_none hst, runAhead_of_none (by rwa [Text.strip_strip])]
          exact hnext
        | some st =>
          rw [runAhead_of_statement hst, runAhead_of_statement (by rwa [Text.strip_strip])]
          refine Statement.execAhead_congr lineCongruence_tidied (fun text _ => htext text)
            (fun _ => hnext) fun _ => ?_
          cases hsplit : splitBlock rest with
          | none => exact .missing hsplit (splitBlock_tidyLines_of_none hsplit)
          | some b =>
            -- The blocks have different lengths, but the same lines follow them.
            obtain ⟨htidy, hdrop⟩ := splitBlock_tidyLines hsplit
            refine .found hsplit htidy (hrun b.1) (fun name params _ => define_tidied name params b.1) ?_
            rw [runAhead_skip call₁, runAhead_skip call₂, hdrop]
            exact ih _ (by simp [← hlength]) _ rfl

theorem runAll_tidied (htext : ∀ text, Matches (fun _ => False) Tidied (evalText call₁ text)
      (evalText call₂ text)) (lines : List String) :
    Matches (fun _ => False) Tidied (runAll call₁ lines) (runAll call₂ (tidyLines lines)) :=
  runAhead_tidied htext (runAhead_tidied htext fun _ => .fail _) lines

/-! ## Calls -/

theorem inCall_tidied {m₁ m₂ : Run α} (h : Matches (fun _ => False) Tidied m₁ m₂) (f : Function)
    (args : List Value) :
    Matches (fun _ => False) Tidied (m₁.inCall f args) (m₂.inCall f.tidy args) := by
  rintro s _ rfl
  have henter : Tidied (s.enter f args) (s.tidy.enter f.tidy args) := rfl
  obtain ⟨hsame, hafter⟩ := (h henter).same
  refine .inr ⟨hsame, ?_⟩
  change (m₂ (s.tidy.enter f.tidy args)).2.leave s.tidy = ((m₁ (s.enter f args)).2.leave s).tidy
  rw [show (m₂ (s.tidy.enter f.tidy args)).2 = _ from hafter]
  rfl

theorem callBody_tidied (htext : ∀ text, Matches (fun _ => False) Tidied (evalText call₁ text)
      (evalText call₂ text)) (name : String) (f : Function) (args : List Value) :
    Matches (fun _ => False) Tidied (callBody .quiet call₁ name f args)
      (callBody .quiet call₂ name f.tidy args) := by
  have hparams : f.tidy.params = f.params := rfl
  by_cases harity : args.length = f.params.length
  · rw [callBody_of_length_eq name harity, callBody_of_length_eq name (by rwa [hparams])]
    refine inCall_tidied (.bind ?_ fun _ => .pure _) f args
    rw [runLines_quiet, runLines_quiet]
    exact runAll_tidied htext f.body
  · rw [callBody_of_length_ne name harity, callBody_of_length_ne name (by rwa [hparams]), hparams]
    exact .fail _

theorem callWith_tidied {body₁ body₂ : String → Function → List Value → Run Value} {name : String}
    {args : List Value}
    (hbody : ∀ f, Matches (fun _ => False) Tidied (body₁ name f args) (body₂ name f.tidy args)) :
    Matches (fun _ => False) Tidied (callWith .quiet body₁ name args)
      (callWith .quiet body₂ name args) := by
  rintro s _ rfl
  have htidy := Table.get?_tidy s.funcs name
  cases hf : s.funcs.get? name with
  | some f =>
    rw [hf] at htidy
    rw [MatchesAt, callWith_of_some hf, callWith_of_some htidy]
    exact hbody f rfl
  | none =>
    rw [hf] at htidy
    rw [MatchesAt, callWith_of_none hf, callWith_of_none htidy]
    exact sharesWorld_tidied.callBuiltin name args rfl

/-- Calls match where the second session has tidy bodies. -/
theorem callNamed_tidied (depth : Nat) (name : String) (args : List Value) :
    Matches (fun _ => False) Tidied (callNamed .quiet depth name args)
      (callNamed .quiet depth name args) := by
  induction depth generalizing name args with
  | zero =>
    rw [callNamed_zero]
    exact callWith_tidied fun _ => .giveUp
  | succ depth ih =>
    rw [callNamed_succ]
    refine callWith_tidied fun f => callBody_tidied (fun text => ?_) name f args
    exact evalText_matches sameNames_tidied fun name _ => ih name

/-- A run without a debugger is followed by the tidy run from the tidy session. -/
theorem runLines_tidied {s : Session} (off : s.debugger.Off) (depth : Nat) (source : String)
    (lines : List String) :
    (runLines .standard (callNamed .standard depth) source lines s).1 =
      (runAll (callNamed .quiet depth) (tidyLines lines) s.tidy).1 ∧
    (runLines .standard (callNamed .standard depth) source lines s).2.tidy =
      (runAll (callNamed .quiet depth) (tidyLines lines) s.tidy).2 := by
  have htext : ∀ text, Matches (fun _ => False) Tidied (evalText (callNamed .quiet depth) text)
      (evalText (callNamed .quiet depth) text) := fun text =>
    evalText_matches sameNames_tidied fun name _ => callNamed_tidied depth name
  rw [runLines_eq_quiet off, runLines_quiet]
  obtain ⟨hsame, hafter⟩ := (runAll_tidied htext lines (rfl : Tidied s s.tidy)).same
  exact ⟨hsame, hafter.symm⟩

end Runs

/-! ## Compiling -/

theorem Compile.program_of_tidyLines_eq {lines₁ lines₂ : List String}
    (h : tidyLines lines₁ = tidyLines lines₂) : program lines₁ = program lines₂ := by
  have hforms : forms lines₁ = forms lines₂ := congrArg (List.map Form.ofLine) h
  unfold program
  rw [hforms]

/-- The lines of a file that holds the tidy lines of a script are tidied to the same lines. -/
theorem tidyLines_of_read {t₁ t₂ : Files.FileTree} {path₁ path₂ : String} {lines : List String}
    (hlines : t₁.readLines path₁ = .ok lines)
    (hread : t₂.read path₂ = .ok (Text.Utf8.encode (String.join ((tidyLines lines).map (· ++ "\n"))))) :
    ∃ lines₂, t₂.readLines path₂ = .ok lines₂ ∧ tidyLines lines₂ = tidyLines lines := by
  have honeLine : ∀ line ∈ tidyLines lines, Text.OneLine line.toList := by
    intro line hline
    obtain ⟨l, hl, rfl⟩ := List.mem_map.mp (List.mem_of_mem_filter hline)
    exact Files.FileTree.oneLine_of_readLines hlines l hl
  refine ⟨_, Files.FileTree.readLines_of_read honeLine hread, ?_⟩
  rw [tidyLines_ended, tidyLines_tidyLines]

/-- What the compiler leaves at the place of the program. -/
theorem Compile.read_of_compileFile {path : String} {output : Option String} {s : Session}
    {lines : List String} {place : Files.Location} (hlines : s.files.readLines path = .ok lines)
    (writable : s.files.target (outputPath path output) = .ok place) :
    (compileFile path output s).1 = .done () ∧
    (compileFile path output s).2.files.read (outputPath path output) =
      .ok (Text.Utf8.encode (program lines)) := by
  have hwrite := Files.FileTree.write_of_target writable (Text.Utf8.encode (program lines))
  rw [compileFile_of_readLines hlines hwrite, Session.write_files]
  exact ⟨rfl, Files.FileTree.read_of_write hwrite⟩

/-! ## Layout does not matter -/

theorem Session.eq_of_tidy_eq {s t : Session} (h : s.tidy = t.tidy) :
    t = { s with funcs := t.funcs } ∧ s.funcs.tidy = t.funcs.tidy := by
  obtain ⟨⟩ := s
  obtain ⟨⟩ := t
  simp only [Session.tidy, Session.mk.injEq] at h ⊢
  simp [h]

/-- A script and its tidy lines do the same while the debugger is off: they end the same way, and the
sessions differ at most in the layout of the functions. A file with the tidy lines is compiled to the same
bytes as a file with the lines. -/
theorem layout_irrelevant (lines : List String) :
    (∀ (depth : Nat) (source₁ source₂ : String) (s : Session), s.debugger.Off →
      let one := runLines .standard (callNamed .standard depth) source₁ lines s
      let other := runLines .standard (callNamed .standard depth) source₂ (tidyLines lines) s
      one.1 = other.1 ∧ other.2 = { one.2 with funcs := other.2.funcs } ∧
        one.2.funcs.tidy = other.2.funcs.tidy) ∧
    (∀ (path₁ path₂ : String) (output₁ output₂ : Option String) (s₁ s₂ : Session)
      (place₁ place₂ : Files.Location), s₁.files.readLines path₁ = .ok lines →
      s₂.files.read path₂ = .ok (Text.Utf8.encode (String.join ((tidyLines lines).map (· ++ "\n")))) →
      s₁.files.target (Compile.outputPath path₁ output₁) = .ok place₁ →
      s₂.files.target (Compile.outputPath path₂ output₂) = .ok place₂ →
      let one := Compile.compileFile path₁ output₁ s₁
      let other := Compile.compileFile path₂ output₂ s₂
      one.1 = .done () ∧ other.1 = .done () ∧
        ∃ bytes, one.2.files.read (Compile.outputPath path₁ output₁) = .ok bytes ∧
          other.2.files.read (Compile.outputPath path₂ output₂) = .ok bytes) := by
  constructor
  · intro depth source₁ source₂ s off
    -- Both runs are followed by the run of the tidy lines from the tidy session.
    obtain ⟨houtcome₁, hafter₁⟩ := runLines_tidied off depth source₁ lines
    obtain ⟨houtcome₂, hafter₂⟩ := runLines_tidied off depth source₂ (tidyLines lines)
    rw [tidyLines_tidyLines] at houtcome₂ hafter₂
    exact ⟨houtcome₁.trans houtcome₂.symm, Session.eq_of_tidy_eq (hafter₁.trans hafter₂.symm)⟩
  · intro path₁ path₂ output₁ output₂ s₁ s₂ place₁ place₂ hlines hread writable₁ writable₂
    obtain ⟨lines₂, hlines₂, htidy⟩ := tidyLines_of_read hlines hread
    obtain ⟨hdone₁, hread₁⟩ := Compile.read_of_compileFile hlines writable₁
    obtain ⟨hdone₂, hread₂⟩ := Compile.read_of_compileFile hlines₂ writable₂
    rw [Compile.program_of_tidyLines_eq htidy] at hread₂
    exact ⟨hdone₁, hdone₂, _, hread₁, hread₂⟩

/-- A script with comments, empty lines and margins, also inside a block. -/
def untidyLines : List String :=
  ["# a sum", "  stryset x (1)\t", "", "def sum(n):", "    # of two numbers", "    return n + x ", " end  ",
    "stryprint sum(2)"].map (· ++ "\n")

/-- A session with a text at the path `p`. -/
def holding (text : String) : Session :=
  { Session.fresh with
    files := (Files.FileTree.empty Files.work).put ["work", "p"] (.file (Text.Utf8.encode text)) }

theorem read_holding (text : String) : (holding text).files.read "p" = .ok (Text.Utf8.encode text) := by
  have htarget : (Files.FileTree.empty Files.work).target "p" = .ok ["work", "p"] := by cbv
  exact Files.FileTree.read_of_write (Files.FileTree.write_of_target htarget _)

theorem untidy_layout_irrelevant :
    (runLines .standard (callNamed .standard 2) "p" untidyLines .fresh).1 =
      (runLines .standard (callNamed .standard 2) "q" (tidyLines untidyLines) .fresh).1 ∧
    ∃ bytes,
      (Compile.compileFile "p" (some "q") (holding (String.join untidyLines))).2.files.read
        (Compile.outputPath "p" (some "q")) = .ok bytes ∧
      (Compile.compileFile "p" (some "q")
        (holding (String.join ((tidyLines untidyLines).map (· ++ "\n"))))).2.files.read
        (Compile.outputPath "p" (some "q")) = .ok bytes := by
  obtain ⟨hruns, hcompiled⟩ := layout_irrelevant untidyLines
  have hlines : (holding (String.join untidyLines)).files.readLines "p" = .ok untidyLines :=
    Files.FileTree.readLines_of_read (by decide +kernel) (read_holding _)
  have hwritable : ∀ content, ((Files.FileTree.empty Files.work).put ["work", "p"]
      (.file content)).target (Compile.outputPath "p" (some "q")) = .ok ["work", "q"] := by
    intro content
    cbv
  refine ⟨(hruns 2 "p" "q" .fresh ⟨rfl, rfl, rfl⟩).1, ?_⟩
  exact (hcompiled "p" "p" (some "q") (some "q") _ _ _ _ hlines (read_holding _) (hwritable _)
    (hwritable _)).2.2

end LineScript
