import LineScript.Json.Access
import LineScript.Proofs.Json.Number
import LineScript.Proofs.Text.Utf8
import LineScript.Proofs.Text.Visible

/-!
# Reading JSON back

The text of a value is read in every layout that sets the parts of a container apart with blanks. What is read
is the value itself, but for doubles, and for entries of one key in an object, of which the last counts. The
text has no character that reading a file would change.
-/

namespace LineScript.Json

/-! ## Readers -/

section Readers

variable {cs rest : List Char} {c : Char}

@[simp]
theorem skipSpace_run : skipSpace.run cs = .ok ((), cs.dropWhile isSpace) := rfl

/-- Blanks before a character that is none are skipped. -/
theorem dropWhile_isSpace (hgap : ∀ x ∈ cs, isSpace x = true) (hc : isSpace c = false) :
    (cs ++ c :: rest).dropWhile isSpace = c :: rest := by
  rw [List.dropWhile_append_of_pos hgap, List.dropWhile_cons_of_neg (by simp [hc])]

end Readers

/-! ## Texts in quotes -/

theorem unitText_eq_cons (n : Nat) : unitText n = '\\' :: (unitText n).tail := rfl

/-- A unit is written with four digits. -/
theorem unitText_eq {n : Nat} (h : n < 0x10000) :
    unitText n =
      '\\' :: 'u' :: [n / 16 / 16 / 16, n / 16 / 16 % 16, n / 16 % 16, n % 16].map Nat.digitChar := by
  have hstep : ∀ m, 16 ≤ m → Nat.toDigits 16 m = Nat.toDigits 16 (m / 16) ++ [(m % 16).digitChar] :=
    fun m hm => by rw [Nat.toDigits_eq_if (by decide), if_neg (by omega)]
  -- The leading zeros stand for the digits that a smaller number does not have.
  have hzero : Nat.digitChar 0 = '0' := rfl
  unfold unitText
  by_cases h₁ : n < 16
  · have hd : n / 16 = 0 := by omega
    simp [Nat.toDigits_of_lt_base h₁, hd, hzero, Nat.mod_eq_of_lt h₁, List.replicate]
  rw [hstep n (by omega)]
  by_cases h₂ : n / 16 < 16
  · have hd : n / 16 / 16 = 0 := by omega
    simp [Nat.toDigits_of_lt_base h₂, hd, hzero, Nat.mod_eq_of_lt h₂, List.replicate]
  rw [hstep (n / 16) (by omega)]
  by_cases h₃ : n / 16 / 16 < 16
  · have hd : n / 16 / 16 / 16 = 0 := by omega
    simp [Nat.toDigits_of_lt_base h₃, hd, hzero, Nat.mod_eq_of_lt h₃]
  have h₄ : n / 16 / 16 / 16 < 16 := by omega
  rw [hstep (n / 16 / 16) (by omega), Nat.toDigits_of_lt_base h₄]
  simp

theorem asciiDigit?_digitChar {d : Nat} (h : d < 16) :
    (Text.asciiDigit? d.digitChar).filter (· < 16) = some d := by
  revert d
  decide

/-- A unit is read back when something follows it. -/
theorem readUnit_append {n : Nat} (h : n < 0x10000) {rest : List Char} (hrest : rest ≠ []) :
    readUnit.run ([n / 16 / 16 / 16, n / 16 / 16 % 16, n / 16 % 16, n % 16].map Nat.digitChar ++ rest) =
      .ok (n, rest) := by
  have hvalue : 16 * (16 * (16 * (n / 16 / 16 / 16) + n / 16 / 16 % 16) + n / 16 % 16) + n % 16 = n := by
    omega
  have h₁ := asciiDigit?_digitChar (d := n / 16 / 16 / 16) (by omega)
  have h₂ := asciiDigit?_digitChar (d := n / 16 / 16 % 16) (by omega)
  have h₃ := asciiDigit?_digitChar (d := n / 16 % 16) (by omega)
  have h₄ := asciiDigit?_digitChar (d := n % 16) (by omega)
  have hlength : ¬ rest.length + 1 + 1 + 1 + 1 < 5 := by
    have := List.length_pos_iff.mpr hrest
    omega
  simp [readUnit, h₁, h₂, h₃, h₄, hlength, hvalue]
  rfl

theorem charOf_toNat (c : Char) : Text.charOf c.toNat = c := by
  have hvalid : c.toNat.isValidChar := c.valid
  rw [Text.charOf, if_pos hvalid, Char.ofNat_toNat]

/-- A character of the first plane is read back from its unit. -/
theorem readEscape_unit {start : Nat} {c : Char} (h : c.toNat < 0x10000) {rest : List Char}
    (hrest : rest ≠ []) :
    (readEscape start).run ((unitText c.toNat).tail ++ rest) = .ok (c, rest) := by
  have hhigh : (decide (0xD800 ≤ c.toNat) && decide (c.toNat < 0xDC00)) = false := by
    have hrange := Text.Utf8.toNat_range c
    simp only [Bool.and_eq_false_iff, decide_eq_false_iff_not]
    omega
  have hunit := readUnit_append h hrest
  rw [unitText_eq h]
  simp only [List.map_cons, List.map_nil, List.tail_cons, List.cons_append, List.nil_append] at hunit ⊢
  simp only [readEscape, StateT.run_bind, StateT.run_get, pure_bind, StateT.run_set, hunit, ok_bind,
    hhigh, Bool.false_eq_true, if_false, charOf_toNat]
  rfl

/-- The low half of a character is read back from its unit. -/
theorem readLowHalf_unit {m : Nat} (hm : 0xDC00 ≤ m ∧ m < 0xE000) {rest : List Char}
    (hrest : rest ≠ []) :
    readLowHalf.run (unitText m ++ rest) = .ok (some m, rest) := by
  have hunit := readUnit_append (n := m) (by omega) hrest
  have hpos := List.length_pos_iff.mpr hrest
  rw [unitText_eq (by omega)]
  simp only [List.map_cons, List.map_nil, List.cons_append, List.nil_append] at hunit ⊢
  simp only [readLowHalf, StateT.run_bind, StateT.run_get, pure_bind, List.length_cons]
  rw [if_neg (by omega)]
  simp [hunit, hm]
  rfl

/-- A character beyond the first plane is read back from its two halves. -/
theorem readEscape_halves {start hi lo : Nat} {c : Char} (hhi : 0xD800 ≤ hi ∧ hi < 0xDC00)
    (hlo : 0xDC00 ≤ lo ∧ lo < 0xE000) (hc : 0x10000 + (hi - 0xD800) * 1024 + (lo - 0xDC00) = c.toNat)
    {rest : List Char} (hrest : rest ≠ []) :
    (readEscape start).run ((unitText hi).tail ++ (unitText lo ++ rest)) = .ok (c, rest) := by
  have hne : unitText lo ++ rest ≠ [] := by simp [unitText]
  have hunit := readUnit_append (n := hi) (by omega) hne
  have hlow := readLowHalf_unit hlo hrest
  rw [unitText_eq (n := hi) (by omega)]
  simp only [List.map_cons, List.map_nil, List.tail_cons, List.cons_append, List.nil_append] at hunit ⊢
  simp only [readEscape, StateT.run_bind, StateT.run_get, pure_bind, StateT.run_set, hunit, ok_bind,
    hhi, decide_true, Bool.and_true, if_true, hlow, hc, charOf_toNat]
  rfl

/-- The characters that are written as a backslash and a mark. -/
def marked : List Char :=
  ['"', '\\', '\n', '\r', '\t', '\x0c', '\x08']

theorem escapedChar_of_mem_marked {c : Char} (h : c ∈ marked) :
    ∃ mark, escapedChar c = ['\\', mark] ∧
      ∀ start rest, (readEscape start).run (mark :: rest) = .ok (c, rest) := by
  simp only [marked, List.mem_cons, List.not_mem_nil, or_false] at h
  rcases h with rfl | rfl | rfl | rfl | rfl | rfl | rfl <;> exact ⟨_, rfl, fun _ _ => rfl⟩

theorem escapedChar_of_not_mem_marked {c : Char} (h : c ∉ marked) :
    escapedChar c =
      if 32 ≤ c.toNat ∧ c.toNat < 127 then [c]
      else if c.toNat < 0x10000 then unitText c.toNat
      else unitText (0xD800 + (c.toNat - 0x10000) / 1024) ++
        unitText (0xDC00 + (c.toNat - 0x10000) % 1024) := by
  simp only [marked, List.mem_cons, List.not_mem_nil, or_false, not_or] at h
  simp [escapedChar, h]

/-- What stands for a character inside quotes is read as that character. -/
theorem readChars_escapedChar (start fuel : Nat) (c : Char) {rest : List Char} (hrest : rest ≠ []) :
    (readChars start (fuel + 1)).run (escapedChar c ++ rest) =
      (readChars start fuel).run rest >>= fun p => .ok (c :: p.1, p.2) := by
  -- Behind a backslash, all hangs on what the escape is read as.
  have hescape : ∀ {cs : List Char}, (readEscape start).run cs = .ok (c, rest) →
      (readChars start (fuel + 1)).run ('\\' :: cs) =
        (readChars start fuel).run rest >>= fun p => .ok (c :: p.1, p.2) := by
    intro cs h
    simp [readChars, h]
    rfl
  by_cases hc : c ∈ marked
  · obtain ⟨mark, htext, hread⟩ := escapedChar_of_mem_marked hc
    rw [htext]
    exact hescape (hread start rest)
  rw [escapedChar_of_not_mem_marked hc]
  split
  · rename_i hplain
    have hge : ¬ c.toNat < 32 := by omega
    have hquote : c ≠ '"' := fun h => hc (by simp [h, marked])
    have hslash : c ≠ '\\' := fun h => hc (by simp [h, marked])
    simp [readChars, hge, hquote, hslash]
    rfl
  split
  · rw [unitText_eq_cons, List.cons_append]
    exact hescape (readEscape_unit ‹_› hrest)
  · have hrange := Text.Utf8.toNat_range c
    rw [unitText_eq_cons (0xD800 + _), List.cons_append, List.cons_append, List.append_assoc]
    exact hescape (readEscape_halves (by omega) (by omega) (by omega) hrest)

theorem escapedChar_ne_nil (c : Char) : escapedChar c ≠ [] := by
  by_cases hc : c ∈ marked
  · obtain ⟨mark, htext, -⟩ := escapedChar_of_mem_marked hc
    simp [htext]
  · rw [escapedChar_of_not_mem_marked hc]
    split
    · exact List.cons_ne_nil _ _
    split
    · rw [unitText_eq_cons]
      exact List.cons_ne_nil _ _
    · rw [unitText_eq_cons (0xD800 + _), List.cons_append]
      exact List.cons_ne_nil _ _

theorem readChars_escaped (start : Nat) (rest : List Char) :
    ∀ {fuel : Nat} {cs : List Char}, cs.length < fuel →
      (readChars start fuel).run (cs.flatMap escapedChar ++ '"' :: rest) = .ok (cs, rest)
  | 0, _, h => absurd h (by omega)
  | fuel + 1, [], _ => rfl
  | fuel + 1, c :: cs, h => by
    have hrest : cs.flatMap escapedChar ++ '"' :: rest ≠ [] := by simp
    rw [List.flatMap_cons, List.append_assoc, readChars_escapedChar start fuel c hrest,
      readChars_escaped start rest (by simpa using h)]
    rfl

theorem length_le_length_flatMap {f : α → List β} {as : List α} (h : ∀ a ∈ as, f a ≠ []) :
    as.length ≤ (as.flatMap f).length := by
  induction as with
  | nil => simp
  | cons a as ih =>
    have hfirst := List.length_pos_iff.mpr (h a (.head _))
    have hrest := ih fun b hb => h b (.tail _ hb)
    simp only [List.length_cons, List.flatMap_cons, List.length_append]
    omega

theorem length_le_of_mem_flatMap {f : α → List β} {as : List α} {a : α} (h : a ∈ as) :
    (f a).length ≤ (as.flatMap f).length := by
  obtain ⟨front, back, rfl⟩ := List.append_of_mem h
  simp only [List.flatMap_append, List.flatMap_cons, List.length_append]
  omega

/-- A text is read back from what stands behind its opening quote. -/
theorem readText_escaped (s : String) (rest : List Char) :
    readText.run (s.toList.flatMap escapedChar ++ '"' :: rest) = .ok (s, rest) := by
  have hlength := length_le_length_flatMap fun c (_ : c ∈ s.toList) => escapedChar_ne_nil c
  simp only [readText, StateT.run_bind, StateT.run_get, pure_bind]
  rw [readChars_escaped _ _ (by simp only [List.length_append, List.length_cons]; omega), ok_bind]
  simp only [String.ofList_toList]
  rfl

/-! ## Containers -/

def Gap (cs : List Char) : Prop :=
  ∀ c ∈ cs, c = ' ' ∨ c = '\n'

theorem Gap.isSpace {cs : List Char} (h : Gap cs) : ∀ c ∈ cs, isSpace c = true := by
  intro c hc
  rcases h c hc with rfl | rfl <;> rfl

/-- A layout that sets parts apart with gaps. -/
structure Layout.Spaced (l : Layout) : Prop where
  between : ∀ d, ∃ gap, (l.between d).toList = ',' :: gap ∧ Gap gap
  before : ∀ d, Gap (l.before d).toList
  after : ∀ d, Gap (l.after d).toList

theorem gap_indented (width depth : Nat) : Gap (indented width depth).toList := by
  intro c hc
  simp only [indented, String.toList_append, String.toList_ofList, List.mem_append,
    List.mem_replicate] at hc
  rcases hc with hc | ⟨-, rfl⟩
  · exact .inr (by simpa using hc)
  · exact .inl rfl

theorem Layout.spaced_lines (width : Nat) : (Layout.lines width).Spaced where
  between d := ⟨(indented width (d + 1)).toList, by simp [Layout.lines], gap_indented _ _⟩
  before _ := gap_indented _ _
  after _ := gap_indented _ _

theorem ended_cons {c : Char} {cs : List Char} (h : c ∈ [',', ' ', '\n', ']', '\x7d']) : Ended (c :: cs) := by
  intro c' hc'
  obtain rfl : c = c' := by simpa using hc'
  simp only [List.mem_cons, List.not_mem_nil, or_false] at h
  rcases h with rfl | rfl | rfl | rfl | rfl
  all_goals exact ⟨rfl, by decide, by decide, by decide⟩

theorem Gap.ended_append {gap cs : List Char} (h : Gap gap) (hcs : Ended cs) : Ended (gap ++ cs) := by
  cases gap with
  | nil => exact hcs
  | cons c gap =>
    refine ended_cons ?_
    rcases h c List.mem_cons_self with rfl | rfl <;> simp

section Containers

variable {part : Reader α} {write : γ → List Char} {reread : γ → α} {close : Char}

/-- The parts of a container are read, whatever reads one of them. -/
theorem readParts_run (hclose : isSpace close = false) (hcomma : close ≠ ',') (hend : ∀ cs, Ended (close :: cs))
    {gap after : List Char} (hgap : Gap gap) (hafter : Gap after) (rest : List Char) {parts : List γ}
    (hread : ∀ b ∈ parts, ∀ rest, Ended rest → part.run (write b ++ rest) = .ok (reread b, rest))
    (hhead : ∀ b ∈ parts, ∃ c, (write b).head? = some c ∧ isSpace c = false) {a : γ} {fuel : Nat}
    (ha : ∀ rest, Ended rest → part.run (write a ++ rest) = .ok (reread a, rest)) (hfuel : parts.length < fuel) :
    (readParts close part fuel).run
      (write a ++ (parts.flatMap (fun b => ',' :: gap ++ write b) ++ (after ++ close :: rest))) =
        .ok ((a :: parts).map reread, rest) := by
  induction parts generalizing a fuel with
  | nil =>
    cases fuel with
    | zero => omega
    | succ fuel =>
      simp [readParts, ha _ (hafter.ended_append (hend rest)), dropWhile_isSpace hafter.isSpace hclose]
      rfl
  | cons b parts ih =>
    cases fuel with
    | zero => omega
    | succ fuel =>
      have hnext := ih (fun b' hb' => hread b' (.tail _ hb')) (fun b' hb' => hhead b' (.tail _ hb'))
        (hread b (.head _)) (show parts.length < fuel by simpa using hfuel)
      obtain ⟨c, hb', hc⟩ := hhead b (.head _)
      obtain ⟨cs, hb⟩ := List.head?_eq_some_iff.mp hb'
      have hspace : isSpace ',' = false := rfl
      have hfirst : ∀ cs, part.run (write a ++ ',' :: cs) = .ok (reread a, ',' :: cs) :=
        fun cs => ha _ (ended_cons (by simp))
      rw [hb] at hnext
      simp only [List.cons_append] at hnext
      simp only [readParts, List.flatMap_cons, List.append_assoc, List.cons_append, StateT.run_bind,
        hfirst, ok_bind, skipSpace_run, List.dropWhile_cons, hspace, Bool.false_eq_true, if_false,
        takeChar_of_ne hcomma, takeChar_self, Bool.not_true, hb, dropWhile_isSpace hgap.isSpace hc, hnext]
      rfl

/-- What stands in a container behind its opening mark. -/
def inside (l : Layout) (d : Nat) (write : γ → List Char) (close : Char) (a : γ) (parts : List γ) :
    List Char :=
  (l.before d).toList ++ (write a ++ (parts.flatMap (fun b => (l.between d).toList ++ write b) ++
    ((l.after d).toList ++ [close])))

/-- Behind the opening mark and the blanks, a part begins, and all parts are read from there. -/
theorem readParts_inside {l : Layout} (hl : l.Spaced) (d : Nat) (hclose : isSpace close = false)
    (hcomma : close ≠ ',') (hend : ∀ cs, Ended (close :: cs)) {a : γ} {parts : List γ}
    (hread : ∀ b ∈ a :: parts, ∀ rest, Ended rest → part.run (write b ++ rest) = .ok (reread b, rest))
    (hhead : ∀ b ∈ a :: parts, ∃ c, (write b).head? = some c ∧ isSpace c = false ∧ c ≠ close)
    (rest : List Char) {fuel : Nat} (hfuel : (inside l d write close a parts).length ≤ fuel) :
    ∃ c cs, (inside l d write close a parts ++ rest).dropWhile isSpace = c :: cs ∧ c ≠ close ∧
      (readParts close part fuel).run (c :: cs) = .ok ((a :: parts).map reread, rest) := by
  obtain ⟨gap, hbetween, hgap⟩ := hl.between d
  obtain ⟨c, ha', hc, hne⟩ := hhead a (.head _)
  obtain ⟨cs, ha⟩ := List.head?_eq_some_iff.mp ha'
  have hcount : parts.length < fuel := by
    have hparts := length_le_length_flatMap fun b (_ : b ∈ parts) =>
      List.cons_ne_nil ',' (gap ++ write b)
    simp only [inside, hbetween, List.length_append, List.length_singleton, List.cons_append] at hfuel
    omega
  have hparts := readParts_run hclose hcomma hend hgap (hl.after d) rest
    (fun b hb => hread b (.tail _ hb))
    (fun b hb => (hhead b (.tail _ hb)).imp fun _ h => ⟨h.1, h.2.1⟩) (hread a (.head _)) hcount
  have htext : (inside l d write close a parts ++ rest).dropWhile isSpace =
      c :: (cs ++ (parts.flatMap (fun b => ',' :: gap ++ write b) ++
        ((l.after d).toList ++ close :: rest))) := by
    simp only [inside, hbetween, ha, List.append_assoc, List.cons_append, List.nil_append]
    exact dropWhile_isSpace (hl.before d).isSpace hc
  exact ⟨c, _, htext, hne, by simpa [ha] using hparts⟩

end Containers

/-! ## Values -/

/-- The double that is read from the text of a double. -/
def readBack (x : Float) : Float :=
  match Number.shape x with
  | .notANumber => Number.notANumber
  | .infinite negative => Number.infinity negative
  | .finite _ =>
    match readNumber.run (Number.floatText x).toList with
    | .ok (float y, _) => y
    | _ => x

mutual

/-- What is read from the text of a value. -/
def reread : Json → Json
  | float x => float (readBack x)
  | list items => list (rereadAll items)
  | object entries => object ((rereadEntries entries).foldl (fun es e => setEntry es e.1 e.2) [])
  | v => v

def rereadAll : List Json → List Json
  | [] => []
  | v :: vs => reread v :: rereadAll vs

def rereadEntries : List (String × Json) → List (String × Json)
  | [] => []
  | (k, v) :: es => (k, reread v) :: rereadEntries es

end

theorem rereadAll_eq_map (vs : List Json) : rereadAll vs = vs.map reread := by
  induction vs with
  | nil => rfl
  | cons v vs ih => rw [rereadAll, ih, List.map_cons]

theorem rereadEntries_eq_map (es : List (String × Json)) :
    rereadEntries es = es.map fun e => (e.1, e.2.reread) := by
  induction es with
  | nil => rfl
  | cons e es ih => rw [rereadEntries, ih, List.map_cons]

/-- A value that has a text and is nested in at most so many levels. -/
inductive Written : Nat → Json → Prop where
  | null {levels : Nat} : Written levels null
  | bool {levels : Nat} (b : Bool) : Written levels (bool b)
  | int {levels : Nat} {n : Int} (h : Number.hasText n = true) : Written levels (int n)
  | float {levels : Nat} (x : Float) : Written levels (float x)
  | str {levels : Nat} (s : String) : Written levels (str s)
  | list {levels : Nat} {items : List Json} (h : ∀ v ∈ items, Written levels v) :
    Written (levels + 1) (list items)
  | object {levels : Nat} {entries : List (String × Json)} (h : ∀ e ∈ entries, Written levels e.2) :
    Written (levels + 1) (object entries)

def itemText (l : Layout) (depth : Nat) (v : Json) : List Char :=
  (v.render l depth).toList

def entryText (l : Layout) (depth : Nat) (e : String × Json) : List Char :=
  '"' :: e.1.toList.flatMap escapedChar ++ '"' :: ':' :: ' ' :: (e.2.render l depth).toList

section Render

variable {l : Layout} {d : Nat}

theorem toList_renderItems (vs : List Json) :
    (renderItems l d vs).toList =
      vs.flatMap fun v => (l.between d).toList ++ itemText l (d + 1) v := by
  induction vs with
  | nil => rfl
  | cons v vs ih => simp [renderItems, ih, itemText]

theorem toList_renderEntries (es : List (String × Json)) :
    (renderEntries l d es).toList =
      es.flatMap fun e => (l.between d).toList ++ entryText l (d + 1) e := by
  induction es with
  | nil => rfl
  | cons e es ih => simp [renderEntries, ih, entryText, quotedText]

theorem toList_render_list (v : Json) (vs : List Json) :
    ((list (v :: vs)).render l d).toList =
      '[' :: inside l d (itemText l (d + 1)) ']' v vs := by
  simp [render, toList_renderItems, inside, itemText]

theorem toList_render_object (e : String × Json) (es : List (String × Json)) :
    ((object (e :: es)).render l d).toList =
      '\x7b' :: inside l d (entryText l (d + 1)) '\x7d' e es := by
  simp [render, toList_renderEntries, entryText, quotedText, inside]

theorem length_le_of_mem_inside (l : Layout) (d : Nat) (write : γ → List Char) (close : Char)
    {a b : γ} {parts : List γ} (h : b ∈ a :: parts) :
    (write b).length ≤ (inside l d write close a parts).length := by
  simp only [inside, List.length_append]
  rcases List.mem_cons.mp h with rfl | h
  · omega
  · have hpart := @length_le_of_mem_flatMap _ _ (fun b => (l.between d).toList ++ write b) _ _ h
    simp only [List.length_append] at hpart
    omega

end Render

theorem isPrefixOf_eq_false {a c : Char} {ws cs : List Char} (h : a ≠ c) :
    (a :: ws).isPrefixOf (c :: cs) = false := by
  change (a == c && ws.isPrefixOf cs) = false
  simp [h]

theorem takeText_of_not_isPrefixOf {word : String} {ws cs : List Char} (hword : word.toList = ws)
    (h : ws.isPrefixOf cs = false) : (takeText word).run cs = .ok (false, cs) := by
  simp only [takeText, StateT.run_bind, StateT.run_get, pure_bind, hword, h]
  rfl

/-- If the first of two ways is not open, the second one is taken. -/
theorem run_ite_of_false {p : Reader Bool} {x y : Reader α} {cs : List Char} (h : p.run cs = .ok (false, cs)) :
    (do if ← p then x else y : Reader α).run cs = y.run cs := by
  rw [StateT.run_bind, h, ok_bind]
  rfl

/-- What begins with neither a mark nor a letter of a word is read as a number. -/
theorem readValueWith_of_ne (list object : Reader Json) {c : Char} {cs : List Char}
    (hmarks : '"' ≠ c ∧ '\x7b' ≠ c ∧ '[' ≠ c) (hletters : 'n' ≠ c ∧ 't' ≠ c ∧ 'f' ≠ c ∧ 'N' ≠ c ∧ 'I' ≠ c)
    (hinfinity : (takeText "-Infinity").run (c :: cs) = .ok (false, c :: cs)) :
    (readValueWith list object).run (c :: cs) = readNumber.run (c :: cs) := by
  obtain ⟨hn, ht, hf, hN, hI⟩ := hletters
  have hword : ∀ (word : String) {a : Char}, word.toList.head? = some a → a ≠ c →
      (takeText word).run (c :: cs) = .ok (false, c :: cs) := by
    intro word a hhead h
    obtain ⟨ws, hword⟩ := List.head?_eq_some_iff.mp hhead
    exact takeText_of_not_isPrefixOf hword (isPrefixOf_eq_false h)
  have hnull := hword "null" (by simp) hn
  have htrue := hword "true" (by simp) ht
  have hfalse := hword "false" (by simp) hf
  have hnone := hword "NaN" (by simp) hN
  have hpositive := hword "Infinity" (by simp) hI
  unfold readValueWith
  rw [run_ite_of_false (takeChar_of_ne hmarks.1), run_ite_of_false (takeChar_of_ne hmarks.2.1),
    run_ite_of_false (takeChar_of_ne hmarks.2.2), run_ite_of_false hnull, run_ite_of_false htrue,
    run_ite_of_false hfalse, run_ite_of_false hnone, run_ite_of_false hpositive, run_ite_of_false hinfinity]

/-- What begins like a number is read as one. -/
theorem readValueWith_number (list object : Reader Json) {cs : List Char} (h : NumberStart cs) :
    (readValueWith list object).run cs = readNumber.run cs := by
  obtain ⟨negative, c, cs', rfl, hc⟩ := h
  have hne : ∀ a : Char, a.isDigit = false → a ≠ c := by
    rintro a ha rfl
    rw [hc] at ha
    cases ha
  have hword : "-Infinity".toList = '-' :: 'I' :: ['n', 'f', 'i', 'n', 'i', 't', 'y'] := by simp
  cases negative with
  | false =>
    rw [Number.signed, if_neg Bool.false_ne_true]
    exact readValueWith_of_ne list object ⟨hne _ rfl, hne _ rfl, hne _ rfl⟩
      ⟨hne _ rfl, hne _ rfl, hne _ rfl, hne _ rfl, hne _ rfl⟩
      (takeText_of_not_isPrefixOf hword (isPrefixOf_eq_false (hne _ rfl)))
  | true =>
    rw [Number.signed, if_pos rfl]
    refine readValueWith_of_ne list object (by decide) (by decide) (takeText_of_not_isPrefixOf hword ?_)
    change ('-' == '-' && ('I' :: _).isPrefixOf (c :: cs')) = false
    rw [isPrefixOf_eq_false (hne _ rfl), Bool.and_false]

/-- A double is read from its text. -/
theorem readValueWith_float (list object : Reader Json) (x : Float) {rest : List Char} (hrest : Ended rest) :
    (readValueWith list object).run ((floatText x).toList ++ rest) = .ok (float (readBack x), rest) := by
  unfold floatText readBack
  cases hx : Number.shape x with
  | notANumber =>
    simp [readValueWith]
    rfl
  | infinite negative =>
    cases negative
    all_goals
      simp [readValueWith]
      rfl
  | finite value =>
    obtain ⟨hstart, y, hy⟩ := readNumber_floatText hx
    have hback := hy [] (by simp [Ended])
    rw [List.append_nil] at hback
    simp only [hback, readValueWith_number list object (hstart.append rest), hy rest hrest]

/-- No blank, no end of a list, no byte order mark. -/
def Opening (c : Char) : Prop :=
  isSpace c = false ∧ c ≠ ']' ∧ c ≠ '\ufeff'

theorem opening_of_isDigit {c : Char} (hc : c.isDigit = true) : Opening c := by
  have hne : ∀ a : Char, a.isDigit = false → c ≠ a := by
    rintro a ha rfl
    rw [hc] at ha
    cases ha
  refine ⟨?_, hne _ rfl, hne _ rfl⟩
  simp only [isSpace, Bool.or_eq_false_iff, beq_eq_false_iff_ne]
  exact ⟨⟨⟨hne _ rfl, hne _ rfl⟩, hne _ rfl⟩, hne _ rfl⟩

theorem NumberStart.opening {cs : List Char} (h : NumberStart cs) : ∃ c, cs.head? = some c ∧ Opening c := by
  obtain ⟨negative, c, cs', rfl, hc⟩ := h
  cases negative with
  | false => exact ⟨c, rfl, opening_of_isDigit hc⟩
  | true => exact ⟨'-', rfl, rfl, by decide, by decide⟩

theorem opening_floatText (x : Float) : ∃ c, (floatText x).toList.head? = some c ∧ Opening c := by
  unfold floatText
  cases hx : Number.shape x with
  | notANumber => exact ⟨'N', by simp, rfl, by decide, by decide⟩
  | infinite negative =>
    cases negative
    · exact ⟨'I', by simp, rfl, by decide, by decide⟩
    · exact ⟨'-', by simp, rfl, by decide, by decide⟩
  | finite value => exact (readNumber_floatText hx).1.opening

/-- A value begins with a mark, a letter, a sign or a digit. -/
theorem Written.head_render {v : Json} {levels : Nat} (hv : v.Written levels) (l : Layout) (d : Nat) :
    ∃ c, (v.render l d).toList.head? = some c ∧ Opening c := by
  cases hv with
  | null => exact ⟨'n', by simp [render, atomText], rfl, by decide, by decide⟩
  | bool b =>
    cases b
    · exact ⟨'f', by simp [render, atomText], rfl, by decide, by decide⟩
    · exact ⟨'t', by simp [render, atomText], rfl, by decide, by decide⟩
  | @int _ n h => exact (numberStart_decimalText n).opening
  | float x => exact opening_floatText x
  | str s => exact ⟨'"', by simp [render, atomText, quotedText], rfl, by decide, by decide⟩
  | @list _ items h =>
    refine ⟨'[', ?_, rfl, by decide, by decide⟩
    cases items with
    | nil => simp [render, atomText]
    | cons v vs => rw [toList_render_list, List.head?_cons]
  | @object _ entries h =>
    refine ⟨'\x7b', ?_, rfl, by decide, by decide⟩
    cases entries with
    | nil => simp [render, atomText]
    | cons e es => rw [toList_render_object, List.head?_cons]

section Values

variable {l : Layout} {d : Nat}

/-- An entry is read if its value is. -/
theorem readEntry_run {value : Reader Json} {e : String × Json} {levels : Nat} (he : e.2.Written levels)
    {rest : List Char} (hvalue : value.run ((e.2.render l d).toList ++ rest) = .ok (e.2.reread, rest)) :
    (readEntry value).run (entryText l d e ++ rest) = .ok ((e.1, e.2.reread), rest) := by
  obtain ⟨c, hhead, hc, -⟩ := he.head_render l d
  obtain ⟨cs, htext⟩ := List.head?_eq_some_iff.mp hhead
  have hcolon : isSpace ':' = false := rfl
  have hblank : isSpace ' ' = true := rfl
  rw [htext, List.cons_append] at hvalue
  simp only [readEntry, entryText, List.cons_append, List.append_assoc, StateT.run_bind, takeChar_self,
    ok_bind, Bool.not_true, Bool.false_eq_true, if_false, readText_escaped, skipSpace_run, htext,
    List.dropWhile_cons, hcolon, hblank, hc, if_true, hvalue]
  rfl

theorem readValueWith_bracket (list object : Reader Json) (cs : List Char) :
    (readValueWith list object).run ('[' :: cs) = list.run cs := rfl

theorem readValueWith_brace (list object : Reader Json) (cs : List Char) :
    (readValueWith list object).run ('\x7b' :: cs) = object.run cs := rfl

theorem readValueWith_quote (list object : Reader Json) (cs : List Char) :
    (readValueWith list object).run ('"' :: cs) = (do return str (← readText)).run cs := rfl

/-- A list is read if its items are. -/
theorem readList_render (hl : l.Spaced) {value : Reader Json} {levels : Nat} {v : Json} {vs : List Json}
    (hwritten : ∀ w ∈ v :: vs, w.Written levels)
    (hread : ∀ w ∈ v :: vs, ∀ rest, Ended rest →
      value.run (itemText l (d + 1) w ++ rest) = .ok (w.reread, rest)) (rest : List Char) :
    (readList value).run (inside l d (itemText l (d + 1)) ']' v vs ++ rest) =
      .ok ((list (v :: vs)).reread, rest) := by
  have hfuel : (inside l d (itemText l (d + 1)) ']' v vs).length ≤
      (inside l d (itemText l (d + 1)) ']' v vs ++ rest).length + 1 := by
    rw [List.length_append]
    omega
  obtain ⟨c, cs, htext, hc, hparts⟩ := readParts_inside hl d (by decide) (by decide)
    (fun _ => ended_cons (by simp)) hread
    (fun w hw => ((hwritten w hw).head_render l (d + 1)).imp fun _ h => ⟨h.1, h.2.1, h.2.2.1⟩) rest hfuel
  simp only [readList, StateT.run_bind, StateT.run_get, pure_bind, skipSpace_run, ok_bind, htext,
    takeChar_of_ne hc.symm, Bool.false_eq_true, if_false, hparts, reread, rereadAll_eq_map]
  rfl

/-- An object is read if the values of its entries are. -/
theorem readObject_render (hl : l.Spaced) {value : Reader Json} {levels : Nat} {e : String × Json}
    {es : List (String × Json)} (hwritten : ∀ e' ∈ e :: es, e'.2.Written levels)
    (hread : ∀ e' ∈ e :: es, ∀ rest, Ended rest →
      value.run (itemText l (d + 1) e'.2 ++ rest) = .ok (e'.2.reread, rest)) (rest : List Char) :
    (readObject value).run (inside l d (entryText l (d + 1)) '\x7d' e es ++ rest) =
      .ok ((object (e :: es)).reread, rest) := by
  have hfuel : (inside l d (entryText l (d + 1)) '\x7d' e es).length ≤
      (inside l d (entryText l (d + 1)) '\x7d' e es ++ rest).length + 1 := by
    rw [List.length_append]
    omega
  obtain ⟨c, cs, htext, hc, hparts⟩ := readParts_inside hl d (by decide) (by decide)
    (fun _ => ended_cons (by simp))
    (fun e' he' rest hrest => readEntry_run (hwritten e' he') (hread e' he' rest hrest))
    (fun e' _ => ⟨'"', rfl, rfl, by decide⟩) rest hfuel
  simp only [readObject, StateT.run_bind, StateT.run_get, pure_bind, skipSpace_run, ok_bind, htext,
    takeChar_of_ne hc.symm, Bool.false_eq_true, if_false, hparts, reread, rereadEntries_eq_map]
  rfl

/-- A value is read from its text, in any layout that spaces its parts, by every reader that follows it
deeply enough. -/
theorem readValue_render (hl : l.Spaced) {levels : Nat} {v : Json} (hv : v.Written levels)
    {rest : List Char} (hrest : Ended rest) :
    (readValue levels).run ((v.render l d).toList ++ rest) = .ok (v.reread, rest) := by
  induction hv generalizing d rest with
  | @null levels =>
    cases levels
    all_goals
      simp [render, atomText, readValue, readValueWith, reread]
      rfl
  | @bool levels b =>
    cases levels <;> cases b
    all_goals
      simp [render, atomText, readValue, readValueWith, reread]
      rfl
  | @int levels n h =>
    have htext : (int n).render l d = Number.decimalText n := by simp [render, atomText]
    have hnumber := (numberStart_decimalText n).append rest
    cases levels
    all_goals
      rw [htext, readValue, readValueWith_number _ _ hnumber, readNumber_decimalText h hrest]
      rfl
  | @float levels x =>
    have htext : (float x).render l d = floatText x := by simp [render, atomText]
    cases levels
    all_goals rw [htext, readValue, readValueWith_float _ _ x hrest, reread]
  | @str levels s =>
    have htext : ((str s).render l d).toList ++ rest =
        '"' :: (s.toList.flatMap escapedChar ++ '"' :: rest) := by
      simp [render, atomText, quotedText]
    cases levels
    all_goals
      rw [htext, readValue, readValueWith_quote, StateT.run_bind, readText_escaped]
      rfl
  | @list levels items h ih =>
    cases items with
    | nil =>
      simp [render, atomText, readValue, readValueWith_bracket, readList]
      rfl
    | cons v vs =>
      rw [toList_render_list, List.cons_append, readValue, readValueWith_bracket]
      exact readList_render hl h (fun w hw rest hrest => ih w hw hrest) rest
  | @object levels entries h ih =>
    cases entries with
    | nil =>
      simp [render, atomText, readValue, readValueWith_brace, readObject]
      rfl
    | cons e es =>
      rw [toList_render_object, List.cons_append, readValue, readValueWith_brace]
      exact readObject_render hl h (fun e' he' rest hrest => ih e' he' hrest) rest

/-- A text is the value that is read from it if only blanks follow. -/
theorem readWithin_eq_ok {s : String} {c : Char} {cs rest : List Char} {levels : Nat} {v : Json}
    (htext : s.toList = c :: cs) (hc : isSpace c = false) (hmark : c ≠ '\ufeff')
    (hvalue : (readValue levels).run s.toList = .ok (v, rest)) (hrest : rest.dropWhile isSpace = []) :
    readWithin levels s = .ok v := by
  have hhead : (s.toList.head? == some '\ufeff') = false := by
    rw [htext]
    simpa using hmark
  have hspace : s.toList.dropWhile isSpace = s.toList := by
    rw [htext, List.dropWhile_cons_of_neg (by simp [hc])]
  simp only [readWithin, hhead, Bool.false_eq_true, if_false, StateT.run'_eq, StateT.run_bind,
    skipSpace_run, ok_bind, hspace, hvalue, hrest]
  rfl

/-- The text of a value, and blanks behind it, are read by every reader that follows it deeply enough. -/
theorem Written.parseWithin_append (hl : l.Spaced) {levels : Nat} {v : Json} (hv : v.Written levels)
    {blanks : String} (hended : Ended blanks.toList) (hblanks : blanks.toList.dropWhile isSpace = []) :
    parseWithin levels (v.render l d ++ blanks) = .ok v.reread := by
  obtain ⟨c, hhead, hc, -, hmark⟩ := hv.head_render l d
  obtain ⟨cs, htext⟩ := List.head?_eq_some_iff.mp hhead
  have htext' : (v.render l d ++ blanks).toList = c :: (cs ++ blanks.toList) := by
    rw [String.toList_append, htext, List.cons_append]
  have hvalue : (readValue levels).run (v.render l d ++ blanks).toList = .ok (v.reread, blanks.toList) := by
    rw [String.toList_append]
    exact readValue_render hl hv hended
  rw [parseWithin, readWithin_eq_ok htext' hc hmark hvalue hblanks]

theorem Written.parseWithin_render (hl : l.Spaced) {levels : Nat} {v : Json} (hv : v.Written levels) :
    parseWithin levels (v.render l d) = .ok v.reread := by
  have hempty := @hv.parseWithin_append l d hl _ _ "" (by simp [Ended]) (by simp)
  rwa [String.append_empty] at hempty

theorem Written.mono {levels levels' : Nat} {v : Json} (hv : v.Written levels) (h : levels ≤ levels') :
    v.Written levels' := by
  induction hv generalizing levels' with
  | null => exact .null
  | bool b => exact .bool b
  | int hn => exact .int hn
  | float x => exact .float x
  | str s => exact .str s
  | list _ ih =>
    obtain ⟨n, rfl⟩ := Nat.exists_eq_add_of_lt h
    exact .list fun v hv => ih v hv (by omega)
  | object _ ih =>
    obtain ⟨n, rfl⟩ := Nat.exists_eq_add_of_lt h
    exact .object fun e he => ih e he (by omega)

/-- A value is not nested more deeply than its text is long. -/
theorem Written.length_render {levels : Nat} {v : Json} (hv : v.Written levels) (l : Layout) (d : Nat) :
    v.Written (v.render l d).toList.length := by
  induction hv generalizing d with
  | null => exact .null
  | bool b => exact .bool b
  | int h => exact .int h
  | float x => exact .float x
  | str s => exact .str s
  | @list levels items h ih =>
    cases items with
    | nil => simpa [render, atomText] using @Written.list 1 [] (by simp)
    | cons v vs =>
      rw [toList_render_list]
      exact .list fun w hw =>
        (ih w hw (d + 1)).mono (length_le_of_mem_inside l d (itemText l (d + 1)) ']' hw)
  | @object levels entries h ih =>
    cases entries with
    | nil => simpa [render, atomText] using @Written.object 1 [] (by simp)
    | cons e es =>
      rw [toList_render_object]
      refine .object fun e' he' => (ih e' he' (d + 1)).mono ?_
      have hlength := length_le_of_mem_inside l d (entryText l (d + 1)) '\x7d' he'
      simp only [entryText, List.length_cons, List.length_append] at hlength
      omega

theorem Written.parse_render (hl : l.Spaced) {levels : Nat} {v : Json} (hv : v.Written levels) :
    parse (v.render l d) = .ok v.reread :=
  Written.parseWithin_render hl (String.length_toList ▸ hv.length_render l d)

end Values

/-! ## Values without numbers -/

/-- A value without numbers, nested in at most so many levels, in which no object has two entries of one
key. -/
inductive Plain : Nat → Json → Prop where
  | null {levels : Nat} : Plain levels null
  | bool {levels : Nat} (b : Bool) : Plain levels (bool b)
  | str {levels : Nat} (s : String) : Plain levels (str s)
  | list {levels : Nat} {items : List Json} (h : ∀ v ∈ items, Plain levels v) :
    Plain (levels + 1) (list items)
  | object {levels : Nat} {entries : List (String × Json)} (hkeys : (entries.map (·.1)).Nodup)
      (h : ∀ e ∈ entries, Plain levels e.2) : Plain (levels + 1) (object entries)

theorem setEntry_of_not_mem {entries : List (String × Json)} {key : String}
    (h : key ∉ entries.map (·.1)) (v : Json) : setEntry entries key v = entries ++ [(key, v)] := by
  induction entries with
  | nil => rfl
  | cons e entries ih =>
    simp only [List.map_cons, List.mem_cons, not_or] at h
    have hne : (e.1 == key) = false := by simpa using Ne.symm h.1
    rw [setEntry, hne, if_neg (by simp), ih h.2, List.cons_append]

/-- Setting entries of different keys one after the other lists them. -/
theorem foldl_setEntry {entries : List (String × Json)} (hkeys : (entries.map (·.1)).Nodup) :
    entries.foldl (fun es e => setEntry es e.1 e.2) [] = entries := by
  suffices h : ∀ front, ((front ++ entries).map (·.1)).Nodup →
      entries.foldl (fun es e => setEntry es e.1 e.2) front = front ++ entries from h [] hkeys
  clear hkeys
  induction entries with
  | nil => intro front _; simp
  | cons e entries ih =>
    intro front hkeys
    have hnew : e.1 ∉ front.map (·.1) := by
      rw [List.map_append, List.map_cons, List.nodup_append] at hkeys
      exact fun hmem => hkeys.2.2 _ hmem _ (.head _) rfl
    rw [List.foldl_cons, setEntry_of_not_mem hnew, ih _ (by simpa using hkeys)]
    simp

namespace Plain

variable {levels : Nat} {v : Json}

theorem written (hv : v.Plain levels) : v.Written levels := by
  induction hv with
  | null => exact .null
  | bool b => exact .bool b
  | str s => exact .str s
  | list _ ih => exact .list ih
  | object _ _ ih => exact .object ih

/-- Such a value is read as itself. -/
theorem reread_eq (hv : v.Plain levels) : v.reread = v := by
  induction hv with
  | null => rfl
  | bool b => rfl
  | str s => rfl
  | @list _ items _ ih => rw [reread, rereadAll_eq_map, List.map_congr_left ih, List.map_id']
  | @object _ entries hkeys _ ih =>
    have hentries : (entries.map fun e => (e.1, e.2.reread)) = entries :=
      (List.map_congr_left fun e he => by rw [ih e he]).trans (List.map_id' entries)
    rw [reread, rereadEntries_eq_map, hentries, foldl_setEntry hkeys]

theorem mono {levels' : Nat} (hv : v.Plain levels) (h : levels ≤ levels') : v.Plain levels' := by
  induction hv generalizing levels' with
  | null => exact .null
  | bool b => exact .bool b
  | str s => exact .str s
  | list _ ih =>
    obtain ⟨n, rfl⟩ := Nat.exists_eq_add_of_lt h
    exact .list fun v hv => ih v hv (by omega)
  | object hkeys _ ih =>
    obtain ⟨n, rfl⟩ := Nat.exists_eq_add_of_lt h
    exact .object hkeys fun e he => ih e he (by omega)

end Plain

section Plain

variable {l : Layout} {d levels : Nat} {v : Json}

theorem parseWithin_render (hl : l.Spaced) (hv : v.Plain levels) : parseWithin levels (v.render l d) = .ok v := by
  rw [hv.written.parseWithin_render hl, hv.reread_eq]

theorem parse_render (hl : l.Spaced) (hv : v.Plain levels) : parse (v.render l d) = .ok v := by
  rw [hv.written.parse_render hl, hv.reread_eq]

end Plain

/-! ## The characters of a text -/

section Characters

open Text

theorem visible_unitText {n : Nat} (h : n < 0x10000) : Visible (unitText n) := by
  rw [unitText_eq h]
  simp [visible_digitChar]

theorem visible_escapedChar (c : Char) : Visible (escapedChar c) := by
  by_cases hc : c ∈ marked
  · have hall : marked.all (fun c => (escapedChar c).all fun x => decide (32 ≤ x.toNat)) = true := by decide
    intro x hx
    simpa using List.all_eq_true.mp (List.all_eq_true.mp hall c hc) x hx
  · rw [escapedChar_of_not_mem_marked hc]
    have hrange := Utf8.toNat_range c
    split
    · rename_i hseen
      simpa using hseen.1
    split
    · exact visible_unitText ‹_›
    · exact visible_append.mpr ⟨visible_unitText (by omega), visible_unitText (by omega)⟩

theorem visible_flatMap_escapedChar (s : String) : Visible (s.toList.flatMap escapedChar) := by
  intro c hc
  obtain ⟨x, -, hx⟩ := List.mem_flatMap.mp hc
  exact visible_escapedChar x c hx

theorem visible_floatText (x : Float) : Visible (floatText x).toList := by
  unfold floatText
  cases Number.shape x with
  | notANumber => simp
  | infinite negative => cases negative <;> simp
  | finite value =>
    simp only [Number.floatText, String.toList_ofList]
    exact Number.visible_shortestText (by simp) x

/-- All visible characters, and those that a layout puts between the parts. -/
structure Layout.Within (l : Layout) (P : Char → Prop) : Prop where
  visible : ∀ c, 32 ≤ c.toNat → P c
  between : ∀ d, ∀ c ∈ (l.between d).toList, P c
  before : ∀ d, ∀ c ∈ (l.before d).toList, P c
  after : ∀ d, ∀ c ∈ (l.after d).toList, P c

variable {l : Layout} {P : Char → Prop}

theorem Layout.Within.inside (hl : l.Within P) {d : Nat} {write : γ → List Char} {close : Char}
    (hclose : 32 ≤ close.toNat) {a : γ} {parts : List γ} (hwrite : ∀ b ∈ a :: parts, ∀ c ∈ write b, P c) :
    ∀ c ∈ inside l d write close a parts, P c := by
  intro c hc
  simp only [Json.inside, List.mem_append, List.mem_flatMap, List.mem_singleton] at hc
  rcases hc with hc | hc | ⟨b, hb, hc | hc⟩ | hc | rfl
  · exact hl.before d c hc
  · exact hwrite a (.head _) c hc
  · exact hl.between d c hc
  · exact hwrite b (.tail _ hb) c hc
  · exact hl.after d c hc
  · exact hl.visible c hclose

theorem Layout.Within.entryText (hl : l.Within P) {d : Nat} {e : String × Json}
    (h : ∀ c ∈ itemText l d e.2, P c) : ∀ c ∈ entryText l d e, P c := by
  have hkey := visible_flatMap_escapedChar e.1
  intro c hc
  simp only [Json.entryText, List.cons_append, List.mem_cons, List.mem_append] at hc
  rcases hc with rfl | hc | rfl | rfl | rfl | hc
  · exact hl.visible _ (by decide)
  · exact hl.visible c (hkey c hc)
  · exact hl.visible _ (by decide)
  · exact hl.visible _ (by decide)
  · exact hl.visible _ (by decide)
  · exact h c hc

/-- The text of a value has only characters of its layout and visible ones. -/
theorem Written.mem_render {v : Json} {levels : Nat} (hv : v.Written levels) (hl : l.Within P) (d : Nat) :
    ∀ c ∈ (v.render l d).toList, P c := by
  have hatom : ∀ {cs : List Char}, Visible cs → ∀ c ∈ cs, P c := fun h c hc => hl.visible c (h c hc)
  induction hv generalizing d with
  | null => exact hatom (by simp [render, atomText])
  | bool b => exact hatom (by cases b <;> simp [render, atomText])
  | @int _ n _ => exact hatom (by simpa [render, atomText] using Number.visible_decimalText n)
  | float x => exact hatom (by simpa [render, atomText] using visible_floatText x)
  | str s => exact hatom (by simpa [render, atomText, quotedText] using visible_flatMap_escapedChar s)
  | @list _ items h ih =>
    cases items with
    | nil => exact hatom (by simp [render, atomText])
    | cons v vs =>
      rw [toList_render_list]
      exact List.forall_mem_cons.mpr ⟨hl.visible _ (by decide), hl.inside (by decide) fun w hw => ih w hw (d + 1)⟩
  | @object _ entries h ih =>
    cases entries with
    | nil => exact hatom (by simp [render, atomText])
    | cons e es =>
      rw [toList_render_object]
      exact List.forall_mem_cons.mpr ⟨hl.visible _ (by decide),
        hl.inside (by decide) fun e' he' => hl.entryText (ih e' he' (d + 1))⟩

theorem Gap.of_mem {cs : List Char} (h : Gap cs) : ∀ c ∈ cs, c = '\n' ∨ 32 ≤ c.toNat := by
  intro c hc
  rcases h c hc with rfl | rfl
  · exact .inr (by decide)
  · exact .inl rfl

theorem Layout.Spaced.within (hl : l.Spaced) : l.Within fun c => c = '\n' ∨ 32 ≤ c.toNat where
  visible _ h := .inr h
  between d := by
    obtain ⟨gap, hbetween, hgap⟩ := hl.between d
    rw [hbetween]
    exact List.forall_mem_cons.mpr ⟨.inr (by decide), hgap.of_mem⟩
  before d := (hl.before d).of_mem
  after d := (hl.after d).of_mem

theorem Layout.within_line : Layout.line.Within fun c => 32 ≤ c.toNat where
  visible _ h := h
  between _ := by simp [Layout.line]
  before _ := by simp [Layout.line]
  after _ := by simp [Layout.line]

/-- A value on one line has no line ends in its text. -/
theorem Written.visible_text {v : Json} {levels : Nat} (hv : v.Written levels) : Visible v.text.toList :=
  hv.mem_render Layout.within_line 0

end Characters

end LineScript.Json
