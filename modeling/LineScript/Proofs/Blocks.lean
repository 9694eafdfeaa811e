import LineScript.Interpreter
import Mathlib.Data.List.TakeDrop

/-!
# Blocks and their ends

A header takes the lines up to the first `end` behind it. Among nested blocks that is its own `end` only
if no other header stands in between. Otherwise it is the `end` of a block inside, and the header's block
is cut short there.
-/

namespace LineScript

/-! ## Nesting -/

/-- Whether a statement takes a block: a definition or a branch. -/
def Statement.takesBlock : Statement → Bool
  | define _ _ => true
  | branch _ => true
  | _ => false

def opensBlock (line : String) : Bool :=
  (Statement.ofLine? (Text.strip line)).any Statement.takesBlock

def closesBlock (line : String) : Bool :=
  Text.strip line == "end"

/-- Lines in which every header has an `end` of its own, and every `end` a header. -/
inductive WellNested : List String → Prop where
  | nil : WellNested []
  | line {line : String} {rest : List String} (hopens : opensBlock line = false)
      (hcloses : closesBlock line = false) (hrest : WellNested rest) : WellNested (line :: rest)
  | block {header stop : String} {body rest : List String} (hopens : opensBlock header = true)
      (hbody : WellNested body) (hcloses : closesBlock stop = true) (hrest : WellNested rest) :
      WellNested (header :: (body ++ stop :: rest))

/-- The lines strictly between two indices. -/
def between (lines : List String) (i j : Nat) : List String :=
  (lines.take j).drop (i + 1)

/-- The `end` at index `j` is the one of the header at index `i`. -/
structure Encloses (lines : List String) (i j : Nat) : Prop where
  order : i < j
  header : lines[i]?.any opensBlock = true
  stop : lines[j]?.any closesBlock = true
  inner : WellNested (between lines i j)

/-- A line that is `end` is no header. -/
theorem closesBlock_of_opensBlock {line : String} (h : opensBlock line = true) :
    closesBlock line = false := by
  have hend : Statement.ofLine? "end" = none := by decide +kernel
  cases hcloses : closesBlock line with
  | false => rfl
  | true =>
    have hstrip : Text.strip line = "end" := by simpa [closesBlock] using hcloses
    have hnone : Statement.ofLine? (Text.strip line) = none := (congrArg _ hstrip).trans hend
    rw [opensBlock, hnone] at h
    cases h

section Nesting

variable {body : List String}

/-- Without headers there are no ends. -/
theorem WellNested.not_closes (h : WellNested body)
    (hflat : ∀ line ∈ body, opensBlock line = false) : ∀ line ∈ body, closesBlock line = false := by
  induction h with
  | nil => simp
  | line _ hcloses _ ih =>
    intro l hl
    rcases List.mem_cons.mp hl with rfl | hl
    · exact hcloses
    · exact ih (fun l hl => hflat l (List.mem_cons_of_mem _ hl)) l hl
  | block hopens =>
    have hheader := hflat _ List.mem_cons_self
    rw [hopens] at hheader
    cases hheader

/-- The first `end` among nested lines that hold a header closes a block without headers inside. -/
theorem WellNested.exists_first_end (h : WellNested body)
    (hheader : ∃ line ∈ body, opensBlock line = true) :
    ∃ front header inner stop back, body = front ++ header :: (inner ++ stop :: back) ∧
      (∀ line ∈ front, closesBlock line = false) ∧ opensBlock header = true ∧ WellNested inner ∧
      (∀ line ∈ inner, closesBlock line = false) ∧ closesBlock stop = true := by
  induction h with
  | nil => simp at hheader
  | @line line rest hopens hcloses _ ih =>
    obtain ⟨l, hl, hopen⟩ := hheader
    have hrest : l ∈ rest := by
      rcases List.mem_cons.mp hl with rfl | hl
      · rw [hopens] at hopen
        cases hopen
      · exact hl
    obtain ⟨front, header, inner, stop, back, rfl, hfront, hinside⟩ := ih ⟨l, hrest, hopen⟩
    exact ⟨line :: front, header, inner, stop, back, rfl, List.forall_mem_cons.mpr ⟨hcloses, hfront⟩,
      hinside⟩
  | @block header stop body rest hopens hbody hcloses _ ih _ =>
    by_cases hflat : ∀ line ∈ body, opensBlock line = false
    · exact ⟨[], header, body, stop, rest, rfl, by simp, hopens, hbody, hbody.not_closes hflat, hcloses⟩
    · -- The first end lies inside the block, behind its header.
      obtain ⟨l, hl, hopen⟩ : ∃ l ∈ body, opensBlock l = true := by simpa using hflat
      obtain ⟨front, h', inner, stop', back, rfl, hfront, hinside⟩ := ih ⟨l, hl, hopen⟩
      refine ⟨header :: front, h', inner, stop', back ++ stop :: rest, by simp, ?_, hinside⟩
      exact List.forall_mem_cons.mpr ⟨closesBlock_of_opensBlock hopens, hfront⟩

end Nesting

/-! ## The first end -/

/-- A block ends at the first `end`. -/
theorem splitBlock_append {block rest : List String} {stop : String}
    (hblock : ∀ line ∈ block, closesBlock line = false) (hstop : closesBlock stop = true) :
    splitBlock (block ++ stop :: rest) = some (block, block.length) := by
  unfold closesBlock at hblock hstop
  induction block with
  | nil => simp [splitBlock, hstop]
  | cons line block ih =>
    obtain ⟨hline, hblock⟩ := List.forall_mem_cons.mp hblock
    simp [splitBlock, hline, ih hblock]

theorem drop_append_cons (front : List String) (line : String) (back : List String) :
    (front ++ line :: back).drop (front.length + 1) = back := by
  rw [List.drop_append, List.drop_of_length_le (Nat.le_succ _)]
  simp

/-- The block after the line at an index runs to the first `end`. -/
theorem parseBlock_append (front : List String) (header : String) {block : List String} {stop : String}
    (rest : List String) (hblock : ∀ line ∈ block, closesBlock line = false)
    (hstop : closesBlock stop = true) :
    parseBlock (front ++ header :: (block ++ stop :: rest)) ((front.length : Int) + 1) =
      .ok (block, ((front.length + 1 + block.length : Nat) : Int)) := by
  have hdrop : (front ++ header :: (block ++ stop :: rest)).drop (front.length + 1) =
      block ++ stop :: rest := drop_append_cons front header _
  have hfrom : linesFrom (front ++ header :: (block ++ stop :: rest)) ((front.length : Int) + 1) =
      .ok (block ++ stop :: rest) := by
    have hindex : ((front.length : Int) + 1).toNat = front.length + 1 := by omega
    rw [linesFrom, if_pos (by omega), hindex, hdrop]
  simp only [parseBlock, hfrom, bind, Except.bind, splitBlock_append hblock hstop]
  rfl

/-! ## Lines without an end -/

/-- No line is an `end`. -/
def Endless (lines : List String) : Prop :=
  ∀ line ∈ lines, closesBlock line = false

instance (lines : List String) : Decidable (Endless lines) :=
  inferInstanceAs (Decidable (∀ line ∈ lines, closesBlock line = false))

section Endless

variable {lines block : List String}

theorem Endless.drop (h : Endless lines) (n : Nat) : Endless (lines.drop n) :=
  fun line hline => h line (List.mem_of_mem_drop hline)

/-- Without an `end` there is no block. -/
theorem Endless.splitBlock_eq_none (h : Endless lines) : splitBlock lines = none := by
  unfold Endless closesBlock at h
  induction lines with
  | nil => rfl
  | cons line rest ih =>
    obtain ⟨hline, hrest⟩ := List.forall_mem_cons.mp h
    simp [splitBlock, hline, ih hrest]

theorem endless_of_splitBlock {n : Nat} (h : splitBlock lines = some (block, n)) : Endless block := by
  induction lines generalizing block n with
  | nil => simp [splitBlock] at h
  | cons line rest ih =>
    rw [splitBlock] at h
    split at h
    · simp only [Option.some.injEq, Prod.mk.injEq] at h
      simp [← h.1, Endless]
    · rename_i hline
      obtain ⟨b, hb, he⟩ := Option.map_eq_some_iff.mp h
      simp only [Prod.mk.injEq] at he
      rw [← he.1]
      exact List.forall_mem_cons.mpr ⟨by simpa [closesBlock] using hline, ih hb⟩

/-- A block stands before an `end`. -/
theorem append_of_splitBlock {n : Nat} (h : splitBlock lines = some (block, n)) :
    ∃ stop back, lines = block ++ stop :: back ∧ closesBlock stop = true ∧ n = block.length := by
  induction lines generalizing block n with
  | nil => simp [splitBlock] at h
  | cons line rest ih =>
    rw [splitBlock] at h
    split at h
    · rename_i hline
      simp only [Option.some.injEq, Prod.mk.injEq] at h
      obtain ⟨rfl, rfl⟩ := h
      exact ⟨line, rest, rfl, hline, rfl⟩
    · obtain ⟨b, hb, he⟩ := Option.map_eq_some_iff.mp h
      obtain ⟨stop, back, hrest, hstop, hlength⟩ := ih hb
      simp only [Prod.mk.injEq] at he
      obtain ⟨rfl, rfl⟩ := he
      exact ⟨stop, back, by rw [hrest]; rfl, hstop, by simp [hlength]⟩

theorem endless_of_splitBlock_none (h : splitBlock lines = none) : Endless lines := by
  induction lines with
  | nil => simp [Endless]
  | cons line rest ih =>
    rw [splitBlock] at h
    split at h
    · cases h
    · rename_i hline
      have hrest : splitBlock rest = none := by simpa using h
      exact List.forall_mem_cons.mpr ⟨by simpa [closesBlock] using hline, ih hrest⟩

/-- The block after a line has no `end`, wherever the line stands. -/
theorem Place.endless_of_block {p : Place} {stop : Int} (h : p.block = .ok (block, stop)) :
    Endless block := by
  unfold Place.block at h
  split at h
  · cases h
  · cases h
  · simp only [parseBlock, bind, Except.bind] at h
    split at h
    · cases h
    · split at h
      · rename_i hsplit
        cases h
        exact endless_of_splitBlock hsplit
      · cases h

end Endless

/-! ## Indices -/

theorem between_append (front body rest : List String) (header stop : String) :
    between (front ++ header :: (body ++ stop :: rest)) front.length (front.length + 1 + body.length) =
      body := by
  have htake : (front ++ header :: (body ++ stop :: rest)).take (front.length + 1 + body.length) =
      front ++ header :: body := by
    rw [Nat.add_assoc, List.take_length_add_append, Nat.add_comm 1, List.take_succ_cons,
      List.take_left]
  rw [between, htake, List.drop_append, List.drop_of_length_le (Nat.le_succ _)]
  simp

/-- The lines around a header and its `end`. -/
theorem Encloses.exists_append {lines : List String} {i j : Nat} (h : Encloses lines i j) :
    ∃ front header stop back, lines = front ++ header :: (between lines i j ++ stop :: back) ∧
      front.length = i ∧ i + 1 + (between lines i j).length = j ∧ opensBlock header = true ∧
      closesBlock stop = true := by
  obtain ⟨header, hheader, hopens⟩ := (Option.any_eq_true _ _).mp h.header
  obtain ⟨stop, hstop, hcloses⟩ := (Option.any_eq_true _ _).mp h.stop
  obtain ⟨hi, hi'⟩ := List.getElem?_eq_some_iff.mp hheader
  obtain ⟨hj, hj'⟩ := List.getElem?_eq_some_iff.mp hstop
  have horder := h.order
  refine ⟨lines.take i, header, stop, lines.drop (j + 1), ?_, by simp; omega, ?_, hopens, hcloses⟩
  · have hback : stop :: lines.drop (j + 1) = lines.drop j := by
      rw [← hj', ← List.drop_eq_getElem_cons hj]
    have hmiddle : between lines i j ++ lines.drop j = lines.drop (i + 1) := by
      rw [between, List.drop_take]
      have hsplit : lines.drop j = (lines.drop (i + 1)).drop (j - (i + 1)) := by
        rw [List.drop_drop, Nat.add_sub_cancel' (by omega)]
      rw [hsplit, List.take_append_drop]
    rw [hback, hmiddle, ← hi', ← List.drop_eq_getElem_cons hi, List.take_append_drop]
  · simp only [between, List.length_drop, List.length_take]
    omega

theorem encloses_append (front back : List String) {body : List String} {header stop : String}
    (hopens : opensBlock header = true) (hbody : WellNested body) (hcloses : closesBlock stop = true) :
    Encloses (front ++ header :: (body ++ stop :: back)) front.length
      (front.length + 1 + body.length) where
  order := by omega
  header := by simp [hopens]
  stop := by
    have hindex : (front ++ header :: (body ++ stop :: back))[front.length + 1 + body.length]? =
        some stop := by
      rw [List.getElem?_append_right (by omega), List.getElem?_cons, if_neg (by omega),
        List.getElem?_append_right (by omega)]
      have hzero : front.length + 1 + body.length - front.length - 1 - body.length = 0 := by omega
      rw [hzero]
      rfl
    simp [hindex, hcloses]
  inner := by rwa [between_append]

/-- A header takes the lines up to some `end`, which is its own one exactly if no header stands in between.
Any other one closes a block inside. What a header takes as its block when it is executed is the same. -/
theorem parseBlock_stops_at_own_end_iff {lines : List String} {i j : Nat} (h : Encloses lines i j)
    (source : String) :
    ∃ k ≤ j, parseBlock lines ((i : Int) + 1) = .ok (between lines i k, (k : Int)) ∧
      Place.block ⟨some lines, some i, source⟩ = .ok (between lines i k, (k : Int)) ∧
      (k = j ↔ ∀ line ∈ between lines i j, opensBlock line = false) ∧
      (k ≠ j → ∃ i', i < i' ∧ Encloses lines i' k) := by
  obtain ⟨front, header, stop, back, hlines, hfront, hj, hopens, hcloses⟩ := h.exists_append
  have hinner := h.inner
  generalize between lines i j = body at hlines hj hinner ⊢
  subst hlines hfront hj
  by_cases hflat : ∀ line ∈ body, opensBlock line = false
  · have hparse := parseBlock_append front header back (hinner.not_closes hflat) hcloses
    refine ⟨_, Nat.le_refl _, ?_, ?_, by simpa using hflat, fun hne => absurd rfl hne⟩
    · rw [between_append]
      exact hparse
    · rw [between_append]
      exact hparse
  · obtain ⟨l, hl, hopen⟩ : ∃ l ∈ body, opensBlock l = true := by simpa using hflat
    obtain ⟨before, header', inner, stop', after, rfl, hbefore, hopens', hnested, hinside, hcloses'⟩ :=
      hinner.exists_first_end ⟨l, hl, hopen⟩
    -- The block that is taken ends where the first block inside does.
    have hblock : ∀ line ∈ before ++ header' :: inner, closesBlock line = false := by
      intro line hline
      rcases List.mem_append.mp hline with hline | hline
      · exact hbefore line hline
      · rcases List.mem_cons.mp hline with rfl | hline
        · exact closesBlock_of_opensBlock hopens'
        · exact hinside line hline
    have hcut : front ++ header :: (before ++ header' :: (inner ++ stop' :: after) ++ stop :: back) =
        front ++ header :: (before ++ header' :: inner ++ stop' :: (after ++ stop :: back)) := by
      simp
    have hparse := parseBlock_append front header (after ++ stop :: back) hblock hcloses'
    have hshorter : (before ++ header' :: inner).length <
        (before ++ header' :: (inner ++ stop' :: after)).length := by
      simp
    refine ⟨front.length + 1 + (before ++ header' :: inner).length, by omega, ?_, ?_, ?_, ?_⟩
    · rw [hcut, between_append]
      exact hparse
    · rw [hcut, between_append]
      exact hparse
    · exact ⟨fun hk => by omega, fun hall => absurd hall hflat⟩
    · intro _
      have henclosed := encloses_append (front ++ header :: before) (after ++ stop :: back) hopens'
        hnested hcloses'
      refine ⟨(front ++ header :: before).length, by simp, ?_⟩
      have hindex : front.length + 1 + (before ++ header' :: inner).length =
          (front ++ header :: before).length + 1 + inner.length := by
        simp only [List.length_append, List.length_cons]
        omega
      rw [hcut, hindex]
      simpa using henclosed

/-- A definition that holds a branch, which holds another one. -/
def nestedBranches : List String :=
  ["def clamp(x, lo, hi):", "    if (\"x < lo\"):", "        return lo", "    else:",
    "        if (\"x > hi\"):", "            return hi", "        end", "    end", "    return x", "end"]

theorem encloses_branch : Encloses nestedBranches 4 6 where
  order := by decide
  header := by decide +kernel
  stop := by decide +kernel
  inner := .line (by decide +kernel) (by decide +kernel) .nil

theorem encloses_definition : Encloses nestedBranches 0 9 where
  order := by decide
  header := by decide +kernel
  stop := by decide +kernel
  inner := by
    have hinner : WellNested ("        if (\"x > hi\"):" ::
        (["            return hi"] ++ "        end" :: [])) :=
      .block (by decide +kernel) encloses_branch.inner (by decide +kernel) .nil
    have houter : WellNested ("    if (\"x < lo\"):" ::
        (between nestedBranches 1 7 ++ "    end" :: ["    return x"])) :=
      .block (by decide +kernel)
        (.line (by decide +kernel) (by decide +kernel) (.line (by decide +kernel) (by decide +kernel) hinner))
        (by decide +kernel) (.line (by decide +kernel) (by decide +kernel) .nil)
    exact houter

theorem wellNested_nestedBranches : WellNested nestedBranches := by
  have hdefinition : WellNested ("def clamp(x, lo, hi):" :: (between nestedBranches 0 9 ++ "end" :: [])) :=
    .block (by decide +kernel) encloses_definition.inner (by decide +kernel) .nil
  exact hdefinition

/-- The inner branch takes its whole block, for no header stands in it. -/
theorem parseBlock_inner_branch :
    parseBlock nestedBranches 5 = .ok (["            return hi"], 6) := by
  obtain ⟨k, -, hparse, -, hown, -⟩ := parseBlock_stops_at_own_end_iff encloses_branch unnamedSource
  obtain rfl : k = 6 := hown.mpr (by decide +kernel)
  exact hparse

/-- Not every header among nested lines takes the lines up to its own `end`: the definition is cut short at
the `end` of the branch inside. -/
theorem own_end_missed :
    ¬ ∀ (lines : List String) (i j : Nat), WellNested lines → Encloses lines i j →
      parseBlock lines ((i : Int) + 1) = .ok (between lines i j, (j : Int)) := by
  intro hall
  have hown := hall nestedBranches 0 9 wellNested_nestedBranches encloses_definition
  have hcut : parseBlock nestedBranches 1 = .ok (between nestedBranches 0 6, 6) :=
    parseBlock_append [] "def clamp(x, lo, hi):" (nestedBranches.drop 7)
      (by decide +kernel : ∀ line ∈ between nestedBranches 0 6, closesBlock line = false)
      (by decide +kernel : closesBlock "        end" = true)
  have hsame : (Except.ok (between nestedBranches 0 6, 6) : Result (List String × Int)) =
      .ok (between nestedBranches 0 9, 9) := hcut.symm.trans hown
  have hindex : (6 : Int) = 9 := (Prod.mk.inj (Except.ok.inj hsame)).2
  exact absurd hindex (by decide)

end LineScript
