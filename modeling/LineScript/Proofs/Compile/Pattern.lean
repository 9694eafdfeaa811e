import LineScript.Compile
import LineScript.Proofs.Text.Pattern

/-!
# The patterns of lines

The interpreter and the compiler recognise lines by patterns. For a line without blanks at its ends, each
reader finds exactly what its pattern keeps. Three places decide what that is: blanks before an expression
belong to the pattern and not to the expression, blanks behind it belong to the expression, and the brackets
end with the last one of the line.
-/

namespace LineScript.Text

open Statement

/-! ## Ends of lines -/

/-- A text that does not end in a blank. -/
def Solid (cs : List Char) : Prop :=
  ∀ c ∈ cs.getLast?, isBlank c = false

variable {kind : Char → Bool} {cs rest : List Char} {tail : Pattern}

theorem Solid.of_suffix (hcs : Solid cs) (h : rest <:+ cs) : Solid rest := by
  obtain ⟨front, rfl⟩ := h
  intro c hc
  exact hcs c (by rw [List.getLast?_append, Option.mem_def.mp hc, Option.some_or]; rfl)

theorem Solid.eq_nil {front gap : List Char} (hcs : Solid (front ++ gap))
    (hgap : ∀ c ∈ gap, isBlank c = true) : gap = [] := by
  cases hlast : gap.getLast? with
  | none => exact List.getLast?_eq_none_iff.mp hlast
  | some c =>
    have hsolid := (hcs.of_suffix (List.suffix_append front gap)) c hlast
    rw [hgap c (List.mem_of_getLast? hlast)] at hsolid
    cases hsolid

theorem groups?_blanks_end {groups : List (List Char)} :
    groups? [.span .blanks] cs = some groups ↔ groups = [] ∧ ∀ c ∈ cs, isBlank c = true := by
  constructor
  · intro h
    obtain ⟨front, back, found, hcut, hend, rfl⟩ := exists_of_groups?_span h
    rw [groups?, Option.ite_none_right_eq_some] at hend
    obtain ⟨hback, hfound⟩ := hend
    cases hfound
    refine ⟨rfl, fun c hc => ?_⟩
    rw [hcut.eq, List.mem_append] at hc
    rcases hc with hc | hc
    · exact hcut.all c hc
    · rcases hback with rfl | rfl
      · cases hc
      · obtain rfl : c = '\n' := by simpa using hc
        decide
  · rintro ⟨rfl, hblank⟩
    have hcut : Span.Cuts .blanks cs cs [] := ⟨(List.append_nil cs).symm, hblank, Nat.zero_le _⟩
    refine groups?_span hcut rfl fun front back hother hlonger => ?_
    have hlength := congrArg List.length hother.eq
    have hlt : cs.length < front.length := hlonger
    rw [List.length_append] at hlength
    omega

/-- A name up to the end of a line. -/
theorem groups?_name_end (cs : List Char) :
    groups? [.span .name, .span .blanks] cs =
      (takeName? cs).bind fun parts => if parts.2 = [] then some [parts.1] else none := by
  have hend : Rejects isWord [] := by
    intro c cs hc
    rw [groups?, if_neg]
    rintro (h | h)
    · cases h
    · obtain ⟨rfl, -⟩ := List.cons.inj h
      exact absurd hc (by decide)
  rw [@groups?_span_of_rejects cs .name [.span .blanks] (rejects_gap hend fun _ => isBlank_of_isWord),
    takeName?, List.span_eq_takeWhile_dropWhile]
  dsimp only
  cases hname : cs.takeWhile isWord with
  | nil => rfl
  | cons c name =>
    have hblanks : groups? [.span .blanks] (cs.dropWhile isWord) =
        if trimStart (cs.dropWhile isWord) = [] then some [] else none := by
      split
      · rename_i hnil
        exact groups?_blanks_end.mpr ⟨rfl, List.dropWhile_eq_nil_iff.mp hnil⟩
      · rename_i hne
        rw [Option.eq_none_iff_forall_ne_some]
        intro groups h
        exact hne (trimStart_of_blank (groups?_blanks_end.mp h).2)
    rw [hblanks]
    by_cases hnil : trimStart (cs.dropWhile isWord) = [] <;> simp [hnil, Span.keep]

/-- The end of a pattern behind brackets, and the reader that finds what stands before it. -/
structure Ends (tail : Pattern) (before? : List Char → Option (List Char)) : Prop where
  closing : Closing tail
  before : ∀ {cs body}, Solid cs →
    (before? cs = some body ↔ ∃ closer, cs = body ++ closer ∧ groups? tail closer = some [])

theorem exists_closer {spans : List Span} {groups : List (List Char)}
    (h : groups? (spans.map .span ++ tail) cs = some groups) :
    ∃ body closer found, cs = body ++ closer ∧ groups? tail closer = some found := by
  induction spans generalizing cs groups with
  | nil => exact ⟨[], cs, groups, rfl, h⟩
  | cons s spans ih =>
    obtain ⟨front, back, found, hcut, hrest, -⟩ := exists_of_groups?_span h
    obtain ⟨body, closer, found, rfl, hcloser⟩ := ih hrest
    exact ⟨front ++ body, closer, found, by rw [hcut.eq, List.append_assoc], hcloser⟩

/-- A pattern for brackets: what is found inside them is found in the text before the end of the pattern. -/
theorem Ends.groups?_eq {before? : List Char → Option (List Char)} (h : Ends tail before?) (hcs : Solid cs)
    {spans : List Span} {inside : List Char → Option (List (List Char))}
    (hinside : ∀ body closer, groups? tail closer = some [] →
      groups? (spans.map .span ++ tail) (body ++ closer) = inside body) :
    groups? (spans.map .span ++ tail) cs = (before? cs).bind inside := by
  cases hbefore : before? cs with
  | some body =>
    obtain ⟨closer, rfl, hcloser⟩ := (h.before hcs).mp hbefore
    exact hinside body closer hcloser
  | none =>
    rw [Option.bind_none, Option.eq_none_iff_forall_ne_some]
    intro groups hgroups
    obtain ⟨body, closer, found, rfl, hcloser⟩ := exists_closer hgroups
    obtain ⟨rfl, -⟩ := h.closing _ _ hcloser
    have hsome := (h.before hcs).mpr ⟨closer, rfl, hcloser⟩
    rw [hbefore] at hsome
    cases hsome

/-- `\)\s*$` -/
def bracketEnd : Pattern := [.text ")", .span .blanks]

/-- `\)\s*:\s*$` -/
def colonEnd : Pattern := [.text ")", .span .blanks, .text ":", .span .blanks]

/-- `\):\s*$` -/
def joinedEnd : Pattern := [.text "):", .span .blanks]

theorem groups?_text_eq_some_iff {start : String} {groups : List (List Char)} :
    groups? (.text start :: tail) cs = some groups ↔
      ∃ rest, cs = start.toList ++ rest ∧ groups? tail rest = some groups := by
  rw [groups?, Option.bind_eq_some_iff]
  simp only [after?_eq_some_iff]

theorem groups?_text_end {start : String} {groups : List (List Char)} :
    groups? [.text start, .span .blanks] cs = some groups ↔
      groups = [] ∧ ∃ gap, cs = start.toList ++ gap ∧ ∀ c ∈ gap, isBlank c = true := by
  rw [groups?_text_eq_some_iff]
  simp only [groups?_blanks_end]
  constructor
  · rintro ⟨gap, rfl, rfl, hgap⟩
    exact ⟨rfl, gap, rfl, hgap⟩
  · rintro ⟨rfl, gap, rfl, hgap⟩
    exact ⟨gap, rfl, rfl, hgap⟩

theorem rejects_colon (rest : Pattern) : Rejects isBlank (.text ":" :: rest) :=
  rejects_text rfl (by decide) rest

theorem groups?_colonEnd {groups : List (List Char)} :
    groups? colonEnd cs = some groups ↔ groups = [] ∧
      ∃ gap back, cs = ')' :: (gap ++ ':' :: back) ∧ (∀ c ∈ gap, isBlank c = true) ∧
        ∀ c ∈ back, isBlank c = true := by
  rw [colonEnd, groups?_text_eq_some_iff]
  simp only [groups?_blanks (rejects_colon _), groups?_text_eq_some_iff, groups?_blanks_end]
  constructor
  · rintro ⟨rest, rfl, back, hback, rfl, hblank⟩
    refine ⟨rfl, rest.takeWhile isBlank, back, ?_, fun _ => List.mem_takeWhile_imp, hblank⟩
    have hrest : rest.takeWhile isBlank ++ trimStart rest = rest := List.takeWhile_append_dropWhile
    rw [hback] at hrest
    exact congrArg (')' :: ·) hrest.symm
  · rintro ⟨rfl, gap, back, rfl, hgap, hblank⟩
    refine ⟨gap ++ ':' :: back, rfl, back, ?_, rfl, hblank⟩
    rw [trimStart_append hgap, trimStart_of_head (by simp; decide)]
    rfl

theorem bracket_not_mem_of_blank {gap : List Char} (hgap : ∀ c ∈ gap, isBlank c = true) : ')' ∉ gap :=
  fun hmem => absurd (hgap ')' hmem) (by decide)

theorem ends_bracketEnd : Ends bracketEnd (beforeLast? ')') where
  closing := by
    intro cs groups h
    obtain ⟨rfl, gap, rfl, hgap⟩ := groups?_text_end.mp h
    exact ⟨rfl, gap, rfl, bracket_not_mem_of_blank hgap⟩
  before := by
    intro cs body hcs
    rw [beforeLast?_eq_some_iff]
    constructor
    · rintro rfl
      exact ⟨[')'], rfl, groups?_text_end.mpr ⟨rfl, [], rfl, by simp⟩⟩
    · rintro ⟨closer, rfl, hcloser⟩
      obtain ⟨-, gap, rfl, hgap⟩ := groups?_text_end.mp hcloser
      rw [← List.append_assoc] at hcs
      rw [hcs.eq_nil hgap, List.append_nil]
      rfl

theorem ends_joinedEnd : Ends joinedEnd fun cs => (beforeLast? ':' cs).bind (beforeLast? ')') where
  closing := by
    intro cs groups h
    obtain ⟨rfl, gap, rfl, hgap⟩ := groups?_text_end.mp h
    exact ⟨rfl, ':' :: gap, rfl, by simpa using bracket_not_mem_of_blank hgap⟩
  before := by
    intro cs body hcs
    simp only [Option.bind_eq_some_iff, beforeLast?_eq_some_iff]
    constructor
    · rintro ⟨_, rfl, rfl⟩
      exact ⟨[')', ':'], by simp, groups?_text_end.mpr ⟨rfl, [], rfl, by simp⟩⟩
    · rintro ⟨closer, rfl, hcloser⟩
      obtain ⟨-, gap, rfl, hgap⟩ := groups?_text_end.mp hcloser
      rw [← List.append_assoc] at hcs
      rw [hcs.eq_nil hgap, List.append_nil]
      exact ⟨body ++ [')'], by simp, rfl⟩

theorem ends_colonEnd :
    Ends colonEnd fun cs => (beforeLast? ':' cs).bind fun front => beforeLast? ')' (trimEnd front) where
  closing := by
    intro cs groups h
    obtain ⟨rfl, gap, back, rfl, hgap, hback⟩ := groups?_colonEnd.mp h
    refine ⟨rfl, gap ++ ':' :: back, rfl, ?_⟩
    simp [bracket_not_mem_of_blank hgap, bracket_not_mem_of_blank hback]
  before := by
    intro cs body hcs
    simp only [Option.bind_eq_some_iff, beforeLast?_eq_some_iff]
    constructor
    · rintro ⟨front, rfl, hfront⟩
      obtain ⟨gap, hgap, hblank⟩ := exists_blanks_behind front
      rw [hfront] at hgap
      refine ⟨')' :: (gap ++ [':']), by simp [hgap], groups?_colonEnd.mpr ⟨rfl, gap, [], rfl, hblank, ?_⟩⟩
      exact List.forall_mem_nil _
    · rintro ⟨closer, rfl, hcloser⟩
      obtain ⟨-, gap, back, rfl, hgap, hback⟩ := groups?_colonEnd.mp hcloser
      have hsplit : body ++ ')' :: (gap ++ ':' :: back) = (body ++ ')' :: (gap ++ [':'])) ++ back := by simp
      rw [hsplit] at hcs
      have hlast : ∀ c ∈ (body ++ [')']).getLast?, isBlank c = false := by simp; decide
      have htrim : trimEnd ((body ++ [')']) ++ gap) = body ++ [')'] := by
        rw [trimEnd_append hgap, trimEnd_of_last hlast]
      exact ⟨(body ++ [')']) ++ gap, by simp [hcs.eq_nil hback], htrim⟩

/-! ## Expressions up to the end of a line -/

theorem groups?_line_end (hcs : Solid cs) : groups? [.span .line] cs = (oneLine? cs).map ([·]) := by
  have hend : ∀ front back : List Char, cs = front ++ back → groups? [] back ≠ none → back = [] := by
    intro front back hcut hback
    rw [groups?, ne_eq, ite_eq_right_iff, Classical.not_imp] at hback
    rcases hback.1 with hnil | hnewline
    · exact hnil
    · rw [hcut] at hcs
      exact hcs.eq_nil (by rw [hnewline]; simp; decide)
  unfold oneLine?
  split
  · rename_i hnone
    refine groups?_span_eq_none fun front back hcut => ?_
    by_contra hback
    obtain rfl := hend front back hcut.eq hback
    obtain rfl : cs = front := hcut.eq.trans (List.append_nil front)
    have hne : cs ≠ [] := List.length_pos_iff.mp hcut.least
    have hline : '\n' ∉ cs := fun hmem => by simpa using hcut.all _ hmem
    simp [hne, hline] at hnone
  · rename_i hsome
    have hparts : cs ≠ [] ∧ '\n' ∉ cs := by simpa using hsome
    have hcut : Span.Cuts .line cs cs [] :=
      ⟨(List.append_nil cs).symm, fun c hc => by simpa using ne_of_mem_of_not_mem hc hparts.2,
        List.length_pos_iff.mpr hparts.1⟩
    refine groups?_span hcut rfl fun front back hother hlonger => ?_
    have hlength := congrArg List.length hother.eq
    have hlt : cs.length < front.length := hlonger
    rw [List.length_append] at hlength
    omega

theorem oneLine?_eq_none_of_mem (h : '\n' ∈ cs) : oneLine? cs = none := by
  rw [oneLine?, if_pos]
  simp [h]

/-- Before an expression the gap takes all blanks. -/
theorem groups?_gap_line {c : Char} (hc : isBlank c = true) (hcs : Solid (c :: cs)) :
    groups? [.span .gap, .span .line] (c :: cs) = (oneLine? (trimStart cs)).map ([·]) := by
  have hstart : trimStart (c :: cs) = trimStart cs := List.dropWhile_cons_of_pos hc
  have hsplit : c :: cs = (c :: cs).takeWhile isBlank ++ trimStart (c :: cs) :=
    List.takeWhile_append_dropWhile.symm
  rw [← hstart]
  cases hline : oneLine? (trimStart (c :: cs)) with
  | some expr =>
    have hcut : Span.Cuts .gap (c :: cs) ((c :: cs).takeWhile isBlank)
        (trimStart (c :: cs)) := by
      refine ⟨hsplit, fun _ => List.mem_takeWhile_imp, ?_⟩
      rw [List.takeWhile_cons, if_pos hc]
      exact Nat.succ_pos _
    have hsolid : Solid (trimStart (c :: cs)) := hcs.of_suffix (List.dropWhile_suffix _)
    refine groups?_span hcut ?_ fun front back hother hlonger => ?_
    · rw [groups?_line_end hsolid, hline, Option.map_some]
    · exact absurd hlonger (not_longer hother.eq hother.all)
  | none =>
    have hne : trimStart (c :: cs) ≠ [] := by
      intro hnil
      have hblank : ∀ d ∈ c :: cs, isBlank d = true := List.dropWhile_eq_nil_iff.mp hnil
      exact absurd (Solid.eq_nil (List.nil_append (c :: cs) ▸ hcs) hblank) (List.cons_ne_nil _ _)
    have hmem : '\n' ∈ trimStart (c :: cs) := by
      simpa [oneLine?, hne] using hline
    refine groups?_span_eq_none fun front back hcut => ?_
    -- With fewer blanks in the gap, the line end is still to come.
    obtain ⟨gap, -, rfl, -⟩ := exists_gap hcut.eq hcut.all
    rw [groups?_line_end (hcs.of_suffix ⟨front, hcut.eq.symm⟩),
      oneLine?_eq_none_of_mem (List.mem_append_right gap hmem)]
    rfl

theorem groups?_word_line (word : String) (hcs : Solid cs) :
    groups? [.text word, .span .gap, .span .line] cs =
      (afterWord? word cs).bind fun rest => (oneLine? rest).map ([·]) := by
  refine groups?_word_of fun c behind hcut hc => groups?_gap_line hc (hcs.of_suffix ?_)
  exact ⟨word.toList, hcut.symm⟩

/-! ## Brackets behind a word or a name -/

theorem rejects_open (hkind : kind '(' = false) (rest : Pattern) : Rejects kind (.text "(" :: rest) :=
  rejects_text rfl hkind rest

theorem groups?_open (inside : Pattern) (cs : List Char) :
    groups? (.text "(" :: inside) cs = (afterOpen? cs).bind (groups? inside) := by
  rw [groups?]
  congr 1
  cases cs with
  | nil => rfl
  | cons c cs =>
    by_cases hc : c = '('
    · subst hc
      rfl
    · have hafter : after? "(".toList (c :: cs) = none := if_neg (Ne.symm hc)
      rw [hafter, eq_comm, Option.eq_none_iff_forall_ne_some]
      intro rest hrest
      exact hc (List.cons.inj (afterOpen?_eq_some_iff.mp hrest)).1

section Brackets

variable {before? : List Char → Option (List Char)} {spans : List Span}
  {inside : List Char → Option (List (List Char))} (h : Ends tail before?)
  (hinside : ∀ body closer, groups? tail closer = some [] →
    groups? (spans.map .span ++ tail) (body ++ closer) = inside body)

include h hinside

/-- A word and brackets behind it. -/
theorem Ends.groups?_header (word : String) (hcs : Solid cs) :
    groups? (.text word :: .span .blanks :: .text "(" :: (spans.map .span ++ tail)) cs =
      (after? word.toList cs).bind fun rest => (afterOpen? (trimStart rest)).bind fun rest =>
        (before? rest).bind inside := by
  rw [groups?]
  refine Option.bind_congr fun rest hrest => ?_
  rw [groups?_blanks (rejects_open (by decide) _), groups?_open]
  refine Option.bind_congr fun behind hbehind => h.groups?_eq (hcs.of_suffix ?_) hinside
  exact ((suffix_of_afterOpen? hbehind).trans (List.dropWhile_suffix _)).trans (suffix_of_after? hrest)

/-- A word, a name, and brackets behind it. -/
theorem Ends.groups?_named (word : String) (hcs : Solid cs) :
    groups? (.text word :: .span .gap :: .span .name :: .span .blanks :: .text "(" ::
        (spans.map .span ++ tail)) cs =
      (afterWord? word cs).bind fun rest => (takeName? rest).bind fun parts =>
        ((afterOpen? parts.2).bind fun rest => (before? rest).bind inside).map (parts.1 :: ·) := by
  rw [groups?_word word (rejects_name _)]
  refine Option.bind_congr fun rest hrest => ?_
  rw [groups?_name (rejects_open (by decide) _) (rejects_open (by decide) _)]
  refine Option.bind_congr fun parts hparts => ?_
  rw [groups?_open]
  congr 1
  refine Option.bind_congr fun behind hbehind => h.groups?_eq (hcs.of_suffix ?_) hinside
  exact ((suffix_of_afterOpen? hbehind).trans (suffix_of_takeName? hparts)).trans (suffix_of_afterWord? hrest)

end Brackets

/-- A word and an expression in brackets behind it. -/
theorem Ends.groups?_condition {before? : List Char → Option (List Char)} (h : Ends tail before?)
    (word : String) (hcs : Solid cs) :
    groups? (.text word :: .span .blanks :: .text "(" :: .span .blanks :: .span .line :: .span .blanks ::
        tail) cs =
      (after? word.toList cs).bind fun rest => (afterOpen? (trimStart rest)).bind fun rest =>
        (before? rest).bind fun body => (enclosed? body).map ([·]) :=
  @Ends.groups?_header cs tail before? [.blanks, .line, .blanks] _ h
    (fun _ _ hcloser => groups?_enclosed h.closing hcloser) word hcs

/-- A word, a name, and an expression in brackets behind it. -/
theorem Ends.groups?_assignment {before? : List Char → Option (List Char)} (h : Ends tail before?)
    (word : String) (hcs : Solid cs) :
    groups? (.text word :: .span .gap :: .span .name :: .span .blanks :: .text "(" :: .span .blanks ::
        .span .line :: .span .blanks :: tail) cs =
      (afterWord? word cs).bind fun rest => (takeName? rest).bind fun parts =>
        ((afterOpen? parts.2).bind fun rest => (before? rest).bind fun body =>
          (enclosed? body).map ([·])).map (parts.1 :: ·) :=
  @Ends.groups?_named cs tail before? [.blanks, .line, .blanks] _ h
    (fun _ _ hcloser => groups?_enclosed h.closing hcloser) word hcs

end LineScript.Text

/-! ## The statements of the interpreter -/

namespace LineScript

open Text

variable {α : Type} {cs : List Char}

/-- What is made of one text that a pattern keeps. -/
def ofOne (f : List Char → α) : List (List Char) → Option α
  | [first] => some (f first)
  | _ => none

def ofTwo (f : List Char → List Char → α) : List (List Char) → Option α
  | [first, second] => some (f first second)
  | _ => none

namespace Statement

/-- `^\s*stryset\s+(\w+)\s*\(\s*(.+)\s*\)\s*$` -/
def assignPattern : Pattern :=
  [.span .blanks, .text "stryset", .span .gap, .span .name, .span .blanks, .text "(", .span .blanks,
    .span .line, .span .blanks] ++ bracketEnd

/-- `^\s*stryprint\s+(.+)$` -/
def printPattern : Pattern :=
  [.span .blanks, .text "stryprint", .span .gap, .span .line]

/-- `^\s*def\s+(\w+)\s*\((.*?)\)\s*:\s*$` -/
def definePattern : Pattern :=
  [.span .blanks, .text "def", .span .gap, .span .name, .span .blanks, .text "(", .span .shortLine] ++
    colonEnd

/-- `^\s*return\s+(.+)$` -/
def giveBackPattern : Pattern :=
  [.span .blanks, .text "return", .span .gap, .span .line]

/-- `^\s*if\s*\(\s*(.+)\s*\)\s*:\s*$` -/
def branchPattern : Pattern :=
  [.span .blanks, .text "if", .span .blanks, .text "(", .span .blanks, .span .line, .span .blanks] ++ colonEnd

/-- The blanks in front of a pattern find nothing to take. -/
theorem groups?_front (hcs : Trimmed cs) {word : String} {c : Char} {ds : List Char}
    (hword : word.toList = c :: ds) (hc : isBlank c = false) (rest : Pattern) :
    groups? (.span .blanks :: .text word :: rest) cs = groups? (.text word :: rest) cs := by
  rw [groups?_blanks (rejects_text hword hc rest), trimStart_of_head hcs.head]

section Readers

variable (hcs : Trimmed cs)

include hcs

theorem assign?_eq_groups? : assign? cs = (groups? assignPattern cs).bind
    (ofTwo fun name expr => .assign (String.ofList name) (String.ofList expr)) := by
  have hgroups : groups? assignPattern cs = _ :=
    (groups?_front hcs rfl (by decide) _).trans (ends_bracketEnd.groups?_assignment "stryset" hcs.last)
  simp [hgroups, assign?, ofTwo, Option.bind_assoc, Option.map_eq_bind]

theorem print?_eq_groups? : print? cs = (groups? printPattern cs).bind
    (ofOne fun expr => .print (String.ofList expr)) := by
  have hgroups : groups? printPattern cs = _ :=
    (groups?_front hcs rfl (by decide) _).trans (groups?_word_line "stryprint" hcs.last)
  simp [hgroups, print?, ofOne, Option.bind_assoc, Option.map_eq_bind]

theorem define?_eq_groups? : define? cs = (groups? definePattern cs).bind
    (ofTwo fun name params => .define (String.ofList name) (commaParts params)) := by
  have hgroups : groups? definePattern cs = _ :=
    (groups?_front hcs rfl (by decide) _).trans (@Ends.groups?_named cs colonEnd _ [.shortLine] _
      ends_colonEnd (fun _ _ hcloser => groups?_shortLine ends_colonEnd.closing hcloser) "def" hcs.last)
  simp only [hgroups, define?, Option.bind_assoc, Option.map_eq_bind, Option.bind_eq_bind, Function.comp_def,
    Option.bind_some]
  refine Option.bind_congr fun rest _ => Option.bind_congr fun parts _ => Option.bind_congr fun inner _ =>
    Option.bind_congr fun front _ => Option.bind_congr fun params _ => ?_
  by_cases hline : '\n' ∈ params <;> simp [hline, ofTwo]

theorem giveBack?_eq_groups? : giveBack? cs = (groups? giveBackPattern cs).bind
    (ofOne fun expr => .giveBack (String.ofList expr)) := by
  have hgroups : groups? giveBackPattern cs = _ :=
    (groups?_front hcs rfl (by decide) _).trans (groups?_word_line "return" hcs.last)
  simp [hgroups, giveBack?, ofOne, Option.bind_assoc, Option.map_eq_bind]

theorem branch?_eq_groups? : branch? cs = (groups? branchPattern cs).bind
    (ofOne fun condition => .branch (String.ofList condition)) := by
  have hgroups : groups? branchPattern cs = _ :=
    (groups?_front hcs rfl (by decide) _).trans (ends_colonEnd.groups?_condition "if" hcs.last)
  simp [hgroups, branch?, ofOne, Option.bind_assoc, Option.map_eq_bind]

end Readers

/-- The patterns in their order, and what is made of the texts that they keep. -/
def patterns : List (Pattern × (List (List Char) → Option Statement)) :=
  [(assignPattern, ofTwo fun name expr => .assign (String.ofList name) (String.ofList expr)),
    (printPattern, ofOne fun expr => .print (String.ofList expr)),
    (definePattern, ofTwo fun name params => .define (String.ofList name) (commaParts params)),
    (giveBackPattern, ofOne fun expr => .giveBack (String.ofList expr)),
    (branchPattern, ofOne fun condition => .branch (String.ofList condition))]

/-- A line is the statement of the first pattern that fits it. -/
theorem ofLine?_eq_patterns {line : String} (h : Trimmed line.toList) :
    ofLine? line = patterns.findSome? fun p => (groups? p.1 line.toList).bind p.2 := by
  simp only [ofLine?, patterns, List.findSome?_cons, List.findSome?_nil, ← assign?_eq_groups? h,
    ← print?_eq_groups? h, ← define?_eq_groups? h, ← giveBack?_eq_groups? h, ← branch?_eq_groups? h]
  cases assign? line.toList <;> cases print? line.toList <;> cases define? line.toList <;>
    cases giveBack? line.toList <;> cases branch? line.toList <;> rfl

end Statement

/-! ## The forms of the compiler -/

namespace Compile

open Statement

/-- `^stryset\s+(\w+)\s*\(\s*(.+)\s*\)\s*$` -/
def assignPattern : Pattern :=
  [.text "stryset", .span .gap, .span .name, .span .blanks, .text "(", .span .blanks, .span .line,
    .span .blanks] ++ bracketEnd

/-- `^stryprint\s+(.+)$` -/
def printPattern : Pattern :=
  [.text "stryprint", .span .gap, .span .line]

/-- `^if\s*\(\s*(.+)\s*\):\s*$`, and the same with `while` -/
def headerPattern (word : String) : Pattern :=
  [.text word, .span .blanks, .text "(", .span .blanks, .span .line, .span .blanks] ++ joinedEnd

/-- `^def\s+(\w+)\s*\(\s*(.*?)\s*\)\s*:\s*$` -/
def definePattern : Pattern :=
  [.text "def", .span .gap, .span .name, .span .blanks, .text "(", .span .blanks, .span .shortLine,
    .span .blanks] ++ colonEnd

/-- `^import\s+(\w+)\s*$` -/
def notePattern : Pattern :=
  [.text "import", .span .gap, .span .name, .span .blanks]

variable (hcs : Solid cs)

include hcs

theorem assign?_eq_groups? : assign? cs = (groups? assignPattern cs).bind
    (ofTwo fun name expr => .assign (String.ofList name) (String.ofList expr)) := by
  have hgroups : groups? assignPattern cs = _ := ends_bracketEnd.groups?_assignment "stryset" hcs
  simp [hgroups, assign?, ofTwo, Option.bind_assoc, Option.map_eq_bind]

theorem print?_eq_groups? : print? cs = (groups? printPattern cs).bind
    (ofOne fun expr => .print (String.ofList (trim expr))) := by
  have hgroups : groups? printPattern cs = _ := groups?_word_line "stryprint" hcs
  simp [hgroups, print?, ofOne, Option.bind_assoc, Option.map_eq_bind]

theorem header?_eq_groups? (word : String) : header? word cs = (groups? (headerPattern word) cs).bind
    (ofOne fun condition => String.ofList condition) := by
  have hgroups : groups? (headerPattern word) cs = _ := ends_joinedEnd.groups?_condition word hcs
  simp [hgroups, header?, ofOne, Option.bind_assoc, Option.map_eq_bind]

theorem define?_eq_groups? : define? cs = (groups? definePattern cs).bind
    (ofTwo fun name params => .define (String.ofList name) (String.ofList params)) := by
  have hgroups : groups? definePattern cs = _ :=
    @Ends.groups?_named cs colonEnd _ [.blanks, .shortLine, .blanks] _ ends_colonEnd
      (fun _ _ hcloser => groups?_parameters ends_colonEnd.closing hcloser) "def" hcs
  simp only [hgroups, define?, Option.bind_assoc, Option.map_eq_bind, Option.bind_eq_bind, Function.comp_def,
    Option.bind_some]
  refine Option.bind_congr fun rest _ => Option.bind_congr fun parts _ => Option.bind_congr fun inner _ =>
    Option.bind_congr fun front _ => Option.bind_congr fun params _ => ?_
  by_cases hline : '\n' ∈ trim params <;> simp [hline, ofTwo]

omit hcs in
theorem note?_eq_groups? (cs : List Char) : note? cs = (groups? notePattern cs).bind
    (ofOne fun name => .note (String.ofList name)) := by
  have hgroups : groups? notePattern cs = _ := groups?_word "import" (rejects_name _) cs
  simp only [hgroups, note?, Option.bind_assoc, Option.bind_eq_bind, groups?_name_end]
  refine Option.bind_congr fun rest _ => Option.bind_congr fun parts _ => ?_
  by_cases hend : parts.2 = [] <;> simp [hend, ofOne]

end Compile

end LineScript
