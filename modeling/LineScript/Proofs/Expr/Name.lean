import LineScript.Proofs.Expr.Quoted
import LineScript.Proofs.Statement

/-!
# Names of variables

An assignment writes a variable under its name as it stands, letter by letter. An expression that is a name
reads the variable whose name is the normal form of it. So a variable can be read back by its own name if that
is in normal form; if it is not, something else is read.
-/

namespace LineScript.Text

/-! ## The characters of identifiers -/

variable {c : Char} {cs : List Char}

theorem isWordChar_of_isIdentStart (h : isIdentStart c = true) : Expr.isWordChar c = true := by
  unfold isIdentStart at h
  split at h
  · -- A plain letter or an underscore.
    simp only [Expr.isWordChar, isPlainWord, Char.isAlphanum]
    grind
  · simp only [Expr.isWordChar, Bool.or_eq_true, decide_eq_true_eq]
    omega

theorem isWordChar_of_isIdentContinue (h : isIdentContinue c = true) : Expr.isWordChar c = true := by
  unfold isIdentContinue at h
  split at h
  · simp [Expr.isWordChar, h]
  · simp only [Expr.isWordChar, Bool.or_eq_true, decide_eq_true_eq]
    omega

theorem isWordChar_of_isIdentifier (h : isIdentifier cs = true) : ∀ c ∈ cs, Expr.isWordChar c = true := by
  cases cs with
  | nil => simp
  | cons c cs =>
    simp only [isIdentifier, Bool.and_eq_true, List.all_eq_true] at h
    refine List.forall_mem_cons.mpr ⟨isWordChar_of_isIdentStart h.1, ?_⟩
    intro d hd
    exact isWordChar_of_isIdentContinue (h.2 d hd)

theorem isDigit_eq_false_of_isIdentStart (h : isIdentStart c = true) : c.isDigit = false := by
  rw [Bool.eq_false_iff]
  intro hdigit
  have hrange : 48 ≤ c.toNat ∧ c.toNat ≤ 57 := by
    simpa [Char.isDigit, UInt32.le_iff_toNat_le] using hdigit
  unfold isIdentStart at h
  rw [if_pos (by omega)] at h
  simp only [Char.isAlpha, Char.isUpper, Char.isLower, Bool.or_eq_true, Bool.and_eq_true,
    decide_eq_true_eq, UInt32.le_iff_toNat_le, ge_iff_le, beq_iff_eq] at h
  change ((65 ≤ c.toNat ∧ c.toNat ≤ 90) ∨ (97 ≤ c.toNat ∧ c.toNat ≤ 122)) ∨ c = '_' at h
  rcases h with (h | h) | rfl
  · omega
  · omega
  · revert hrange
    decide

end LineScript.Text

namespace LineScript.Expr

/-! ## The token of an identifier -/

section Tokens

variable {c : Char} {cs : List Char}

theorem ne_of_isWordChar {d : Char} (hc : isWordChar c = true) (hd : isWordChar d = false) : c ≠ d := by
  rintro rfl
  rw [hc] at hd
  cases hd

/-- A quotation begins with a quote, whatever marks stand in front of it. -/
theorem openQuotation_eq_none (h : ∀ c ∈ cs, isWordChar c = true) (m : Marks) :
    openQuotation m cs = none := by
  induction cs generalizing m with
  | nil => rfl
  | cons c cs ih =>
    obtain ⟨hc, hcs⟩ := List.forall_mem_cons.mp h
    have hquote : (c == '"' || c == '\'') = false := by
      simp [ne_of_isWordChar hc (d := '"') rfl, ne_of_isWordChar hc (d := '\'') rfl]
    rw [openQuotation, hquote, if_neg Bool.false_ne_true]
    cases m.add? c with
    | none => rfl
    | some m => exact ih hcs m

/-- A word character ends the blanks at the start of a line. -/
theorem indentation_of_isWordChar {fuel : Nat} (hc : isWordChar c = true) :
    indentation (fuel + 1) 0 0 (c :: cs) = some (0, c :: cs) := by
  rw [indentation]
  · rfl
  all_goals
    intro rest h
    exact ne_of_isWordChar hc rfl (List.cons.inj h).1

theorem isVoidLine_of_isWordChar (hc : isWordChar c = true) : isVoidLine (c :: cs) = false := by
  rw [isVoidLine]
  all_goals
    intro rest h
    exact ne_of_isWordChar hc rfl (List.cons.inj h).1

theorem nextToken_of_isIdentifier (h : Text.isIdentifier cs = true) :
    nextToken ⟨[], false, false⟩ cs = some ([.word (String.ofList cs)], ⟨[], false, false⟩, []) := by
  have hword := Text.isWordChar_of_isIdentifier h
  have hopen := openQuotation_eq_none hword {}
  have hspan : cs.span isWordChar = (cs, []) := by
    rw [List.span_eq_takeWhile_dropWhile, List.takeWhile_eq_self_iff.mpr hword,
      List.dropWhile_eq_nil_iff.mpr hword]
  cases cs with
  | nil => cases h
  | cons c cs =>
    have hc := hword c List.mem_cons_self
    have hdigit : c.isDigit = false := by
      simp only [Text.isIdentifier, Bool.and_eq_true] at h
      exact Text.isDigit_eq_false_of_isIdentStart h.1
    -- None of the characters that begin something else is a word character.
    have hne : ∀ d, isWordChar d = false → (c == d) = false := by
      intro d hd
      exact beq_eq_false_iff_ne.mpr (ne_of_isWordChar hc hd)
    simp only [nextToken, isGap, hne ' ' rfl, hne '\t' rfl, hne '\x0c' rfl, hne '#' rfl, hne '\n' rfl,
      hne '\\' rfl, hne '.' rfl, hopen, hdigit, hc, hspan, h, Bool.or_false, Bool.false_and,
      Bool.false_eq_true, if_false, if_true]

theorem tokens?_of_isIdentifier (h : Text.isIdentifier cs = true) :
    tokens? cs = some [.word (String.ofList cs)] := by
  have hword := Text.isWordChar_of_isIdentifier h
  have hnot : ∀ d, isWordChar d = false → d ∉ cs := by
    intro d hd hmem
    exact ne_of_isWordChar (hword d hmem) hd rfl
  cases hcs : cs with
  | nil => rw [hcs] at h; cases h
  | cons c rest =>
    have hc : isWordChar c = true := hword c (by simp [hcs])
    have hstart : nextToken ⟨[], true, false⟩ (c :: rest) = some ([], ⟨[], false, false⟩, c :: rest) := by
      simp only [nextToken, if_true, indentation_of_isWordChar hc, Option.bind_eq_bind, Option.bind_some,
        isVoidLine_of_isWordChar hc]
      rfl
    have hlength : 2 * (c :: rest).length + 2 = 2 * rest.length + 1 + 3 := by
      simp
      omega
    rw [← hcs, tokens?, if_neg (by simpa using hnot '\x00' rfl), Text.unifyNewlines_eq_self (hnot '\r' rfl)]
    dsimp only
    rw [hcs, hlength, tokensFrom_succ (List.cons_ne_nil _ _), hstart, Option.bind_some]
    dsimp only
    rw [tokensFrom_succ (List.cons_ne_nil _ _), nextToken_of_isIdentifier (hcs ▸ h), Option.bind_some]
    rfl

end Tokens

/-! ## A name as an expression -/

theorem takeWord_of_ne {v w : String} (h : v ≠ w) : takeWord w [.word v] = some (false, [.word v]) := by
  have hword : atWord w [.word v] = some (false, [.word v]) := by
    change some (v == w, [Token.word v]) = _
    rw [beq_eq_false_iff_ne.mpr h]
  rw [takeWord, bind_of_eq hword]
  rfl

variable {w : String}

theorem atAtom_word (h : w ∉ keywords) : AtAtom [.word w] := by
  refine ⟨fun _ _ => rfl, ?_⟩
  intro v hv
  have hmem : v ∈ keywords := by
    revert v
    decide
  exact takeWord_of_ne fun heq => h (heq ▸ hmem)

theorem atom_word {valid : List Char → Bool} {g : Grammar} {bound : Nat} (h : w ∉ keywords) :
    atom valid g bound [.word w] = some (⟨.name (Text.Normal.normalize w), true⟩, []) := by
  have hget : (get : Parser (List Token)) [.word w] = some ([.word w], [.word w]) := rfl
  have hne : ∀ v ∈ keywords, (w == v) = false := by
    intro v hv
    rw [beq_eq_false_iff_ne]
    rintro rfl
    exact h hv
  have hname : expectName [.word w] = some (Text.Normal.normalize w, []) := by
    rw [expectName, bind_of_eq hget]
    simp only [List.contains_eq_mem, decide_eq_false h, Bool.false_eq_true, if_false]
    rfl
  rw [atom, bind_of_eq hget]
  simp only [hne "True" (by decide), hne "False" (by decide), hne "None" (by decide), Bool.false_eq_true,
    if_false]
  exact bind_of_eq hname

/-- An identifier is the name that its normal form is. -/
theorem parse?_of_isIdentifier (hident : Text.isIdentifier w.toList = true) (h : w ∉ keywords) :
    parse? w = some (.name (Text.Normal.normalize w)) := by
  have htokens : tokens? w.toList = some [.word w] := by
    rw [tokens?_of_isIdentifier hident, String.ofList_toList]
  exact parseWith_of_atom htokens (atAtom_word h) fun _ _ => atom_word h

end LineScript.Expr

namespace LineScript.Text.Normal

/-! ## Normal forms -/

/-- In a table, the first entry of a key is the one that counts. -/
theorem get?_tableOf (entries : List (List Nat × List Nat)) (key : List Nat) :
    (tableOf entries).get? key = entries.lookup key := by
  induction entries with
  | nil => simp [tableOf]
  | cons entry entries ih =>
    have htable : tableOf (entry :: entries) = (tableOf entries).insert entry.1 entry.2 := rfl
    rw [htable, Std.HashMap.get?_insert, ih, List.lookup_cons]
    by_cases hkey : entry.1 = key
    · simp [hkey]
    · simp [hkey, beq_eq_false_iff_ne.mpr (Ne.symm hkey)]

/-- A character that stands for a single other one has that one for its normal form. -/
theorem normalize_of_decompose {s : String} {c : Char} {n : Nat} (hs : s.toList = [c])
    (hc : 128 ≤ c.toNat) (hparts : decompose c.toNat = [n]) :
    normalize s = String.singleton (Char.ofNat n) := by
  have hplain : ¬ (s.toList.all (·.toNat < 128)) = true := by
    simpa [hs] using hc
  -- Whether it is a mark or not, there is nothing else to order or to compose it with.
  have hkept : compose (orderMarks [] [n]) = [n] := by
    by_cases hmark : markClass n = 0
    · rw [orderMarks, if_pos hmark, orderMarks, List.nil_append, compose, if_pos hmark]
      rfl
    · rw [orderMarks, if_neg hmark, orderMarks, insertMark, compose, if_neg hmark, compose]
  rw [normalize, if_neg hplain, hs, List.flatMap_singleton, hparts]
  dsimp only
  rw [hkept]
  rfl

/-- The micro sign stands for the letter that it looks like. -/
theorem normalize_micro : normalize "\u00b5" = "\u03bc" := by
  -- It stands in the first row, and no other row is read.
  have hrows : decompositionData = decompositionData.headD "" :: decompositionData.tail := rfl
  have hfirst : (((decompositionData.headD "").toList.splitOn ' ').flatMap readDecompositions).lookup
      [0xb5] = some [0x3bc] := by
    decide +kernel
  have hentry : decompositions.get? [0xb5] = some [0x3bc] := by
    rw [decompositions, get?_tableOf, readRows, hrows, List.flatMap_cons, List.lookup_append, hfirst, Option.some_or]
  have hparts : decompose '\u00b5'.toNat = [0x3bc] := by
    have hcode : '\u00b5'.toNat = 0xb5 := rfl
    rw [hcode, decompose, if_neg (by decide), hentry]
  exact normalize_of_decompose rfl (by decide) hparts

end LineScript.Text.Normal

namespace LineScript

/-! ## Variables by their names -/

/-- A name that an expression can read: a word that is an identifier and no keyword. -/
structure VariableName extends Compile.Word where
  isIdentifier : Text.isIdentifier text.toList = true
  no_keyword : text ∉ Expr.keywords

theorem VariableName.isQuoted_eq_false (name : VariableName) : isQuoted name.text = false := by
  rw [Bool.eq_false_iff]
  intro hquoted
  obtain ⟨quote, hquote, hends⟩ := eq_or_toList_of_isQuoted hquoted
  have hmem : quote ∈ name.text.toList := by
    rcases hends with hends | hends <;> simp [hends]
  have hword := Text.isWordChar_of_isIdentifier name.isIdentifier quote hmem
  rcases hquote with rfl | rfl <;> exact absurd hword (by decide)

/-- To evaluate a name is to look up its normal form. -/
theorem VariableName.evaluate_eq (name : VariableName) (depth : Nat) (s : Session) :
    Host.standard.evaluate depth name.text s =
      Run.ofResult (s.lookup (Text.Normal.normalize name.text)) s := by
  have hstrip : Text.strip name.text = name.text := by
    rw [Text.strip, name.trimmed.trim, String.ofList_toList]
  have hparse := Expr.parse?_of_isIdentifier name.isIdentifier name.no_keyword
  rw [← hstrip] at hparse
  rw [Host.evaluate, evalText_of_parse_some (hstrip.symm ▸ name.isQuoted_eq_false) hparse, hstrip,
    Expr.eval]

/-- Setting a variable changes what its own name stands for, and nothing else. -/
theorem Session.lookup_set_vars (s : Session) (name : String) (v : Value) (id : String) :
    Session.lookup { s with vars := s.vars.set name v } id =
      if id = name then .ok v else s.lookup id := by
  by_cases h : id = name <;> simp [Session.lookup, Table.get?_set, h]

/-- An assignment to a name, with the debugger off, sets the variable of just that name to the value of the
text. Evaluating the name then gives the value exactly if the name is its own normal form, or if the
normal form stood for that very value before. -/
theorem assigned_value_read_back_iff (name : VariableName) {text : String} (hne : text ≠ "")
    (honeLine : '\n' ∉ text.toList) (depth readDepth : Nat) (p : Place) {s s' : Session}
    (off : s.debugger.Off) {v : Value} (hvalue : Host.standard.evaluate depth text s = (.done v, s')) :
    ∃ after, after = { s' with vars := s'.vars.set name.text v } ∧
      execLine .standard (callNamed .standard depth) p ("stryset " ++ name.text ++ " (" ++ text ++ ")") s =
        (.done .next, after) ∧
      (Host.standard.evaluate readDepth name.text after = (.done v, after) ↔
        Text.Normal.normalize name.text = name.text ∨
          s'.lookup (Text.Normal.normalize name.text) = .ok v) := by
  refine ⟨_, rfl, ?_, ?_⟩
  · obtain ⟨inner, hread, hinner⟩ := exists_ofLine?_assign name.toWord hne honeLine
    rw [execLine_of_statement off hread, Statement.exec, evalText_of_strip_eq hinner]
    exact Run.bind_of_done hvalue
  · rw [name.evaluate_eq, Run.ofResult_eq_done_iff, Session.lookup_set_vars]
    by_cases hnormal : Text.Normal.normalize name.text = name.text <;> simp [hnormal]

/-- Letters that could be the marks of a quotation. -/
def marksName : VariableName where
  text := "rb"
  ne_nil := by decide
  all_isWord := by decide
  isIdentifier := by decide
  no_keyword := by decide

theorem marksName_read_back :
    ∃ after, execLine .standard (callNamed .standard 0) ⟨none, none, unnamedSource⟩
        ("stryset " ++ "rb" ++ " (" ++ " 'ready' " ++ ")") .fresh = (.done .next, after) ∧
      Host.standard.evaluate 1 "rb" after = (.done (.str "ready"), after) := by
  have hvalue : Host.standard.evaluate 0 " 'ready' " .fresh = (.done (.str "ready"), .fresh) := by
    rw [Host.evaluate, evalText_of_quoted (by decide +kernel)]
    rfl
  obtain ⟨after, -, hassign, hiff⟩ := assigned_value_read_back_iff marksName (by decide) (by decide) 0 1
    ⟨none, none, unnamedSource⟩ ⟨rfl, rfl, rfl⟩ hvalue
  exact ⟨after, hassign, hiff.mpr (.inl (by decide))⟩

/-- The micro sign is an identifier, but its normal form is the letter. -/
def microName : VariableName where
  text := "\u00b5"
  ne_nil := by decide
  all_isWord := by decide +kernel
  isIdentifier := by decide +kernel
  no_keyword := by decide

/-- A variable whose name is the micro sign is not found by its name: the letter is looked for. -/
theorem micro_sign_not_read_back :
    ∃ after, execLine .standard (callNamed .standard 0) ⟨none, none, unnamedSource⟩ "stryset \u00b5 ('1')"
        .fresh = (.done .next, after) ∧
      after.vars = [("\u00b5", .str "1")] ∧
      Host.standard.evaluate 0 "\u00b5" after = (.failed (.name (.identifier "\u03bc")), after) := by
  have hread : Statement.ofLine? (Text.strip "stryset \u00b5 ('1')") = some (.assign "\u00b5" "'1'") := by
    decide +kernel
  have hnormal : Text.Normal.normalize microName.text = "\u03bc" := Text.Normal.normalize_micro
  refine ⟨{ Session.fresh with vars := [("\u00b5", .str "1")] }, ?_, rfl, ?_⟩
  · rw [execLine_of_statement ⟨rfl, rfl, rfl⟩ hread, Statement.exec, evalText_of_quoted (by decide +kernel)]
    rfl
  · refine (microName.evaluate_eq 0 _).trans ?_
    rw [hnormal]
    rfl

end LineScript
