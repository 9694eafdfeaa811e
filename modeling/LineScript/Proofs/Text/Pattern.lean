import LineScript.Proofs.Text.Line

/-!
# Patterns

What a pattern finds in a text. A pattern is a row of fixed texts and of runs of characters of a kind. A run
is tried in all its lengths, the longest first or the shortest first, and the first length with which the rest
of the pattern fits counts, so that an early run takes what it can before a later one. Where a run is kept,
its characters are part of the answer. The end of a pattern stands at the end of the text or before the line
end there.
-/

namespace LineScript.Text

open Statement

/-! ## Cuts -/

/-- The cuts of a text behind characters of a kind, in the order of their places. -/
def cuts (kind : Char → Bool) : List Char → List (List Char × List Char)
  | [] => [([], [])]
  | c :: cs => ([], c :: cs) :: if kind c then (cuts kind cs).map fun cut => (c :: cut.1, cut.2) else []

variable {kind : Char → Bool} {cs front back : List Char}

theorem nil_mem_cuts : ([], back) ∈ cuts kind cs ↔ cs = back := by
  cases cs with
  | nil => simp [cuts, eq_comm]
  | cons c cs =>
    rw [cuts]
    split
    · simp [eq_comm]
    · simp [eq_comm]

theorem cons_mem_cuts {c d : Char} :
    (c :: front, back) ∈ cuts kind (d :: cs) ↔ d = c ∧ kind c = true ∧ (front, back) ∈ cuts kind cs := by
  rw [cuts]
  split
  · rename_i hd
    constructor
    · intro h
      obtain ⟨cut, hcut, heq⟩ := List.mem_map.mp (List.mem_of_ne_of_mem (by simp) h)
      obtain ⟨⟨rfl, rfl⟩, rfl⟩ : (d = c ∧ cut.1 = front) ∧ cut.2 = back := by simpa using heq
      exact ⟨rfl, hd, hcut⟩
    · rintro ⟨rfl, -, hcut⟩
      exact List.mem_cons_of_mem _ (List.mem_map.mpr ⟨(front, back), hcut, rfl⟩)
  · rename_i hd
    constructor
    · intro h
      simp at h
    · rintro ⟨rfl, hc, -⟩
      exact absurd hc hd

theorem mem_cuts : (front, back) ∈ cuts kind cs ↔ cs = front ++ back ∧ ∀ c ∈ front, kind c = true := by
  induction front generalizing cs with
  | nil => simp [nil_mem_cuts]
  | cons c front ih =>
    cases cs with
    | nil => simp [cuts]
    | cons d cs =>
      rw [cons_mem_cuts, ih, List.cons_append, List.cons.injEq, List.forall_mem_cons]
      constructor
      · rintro ⟨hd, hc, hcs, hfront⟩
        exact ⟨⟨hd, hcs⟩, hc, hfront⟩
      · rintro ⟨⟨hd, hcs⟩, hc, hfront⟩
        exact ⟨hd, hc, hcs, hfront⟩

theorem cuts_ordered (kind : Char → Bool) (cs : List Char) :
    (cuts kind cs).Pairwise fun a b => a.1.length < b.1.length := by
  induction cs with
  | nil => exact List.pairwise_singleton _ _
  | cons c cs ih =>
    rw [cuts]
    split
    · refine .cons (fun cut hcut => ?_) (List.pairwise_map.mpr (ih.imp fun h => Nat.succ_lt_succ h))
      obtain ⟨tail, -, rfl⟩ := List.mem_map.mp hcut
      exact Nat.succ_pos _
    · exact List.pairwise_singleton _ _

/-! ## Patterns -/

/-- A run of characters of a kind, with at least so many of them. A run that is not short is tried from its
longest form on. -/
structure Span where
  kind : Char → Bool
  least : Nat
  short : Bool
  kept : Bool

inductive Piece where
  | text (start : String)
  | span (s : Span)

abbrev Pattern := List Piece

/-- The lengths of a run in the order in which they are tried, each as a cut of the text. -/
def Span.tries (s : Span) (cs : List Char) : List (List Char × List Char) :=
  let long := (cuts s.kind cs).filter (s.least ≤ ·.1.length)
  if s.short then long else long.reverse

def Span.keep (s : Span) (front : List Char) (groups : List (List Char)) : List (List Char) :=
  if s.kept then front :: groups else groups

/-- The runs that a pattern keeps of a text, if it fits the whole text. -/
def groups? : Pattern → List Char → Option (List (List Char))
  | [], cs => if cs = [] ∨ cs = ['\n'] then some [] else none
  | .text start :: rest, cs => (after? start.toList cs).bind (groups? rest)
  | .span s :: rest, cs => (s.tries cs).findSome? fun cut => (groups? rest cut.2).map (s.keep cut.1)

/-- A cut that is tried before the one behind `front`. -/
def Span.Earlier (s : Span) (before front : List Char) : Prop :=
  if s.short then before.length < front.length else front.length < before.length

/-- A run of `front` at the beginning of a text. -/
structure Span.Cuts (s : Span) (cs front back : List Char) : Prop where
  eq : cs = front ++ back
  all : ∀ c ∈ front, s.kind c = true
  least : s.least ≤ front.length

theorem Span.mem_tries {s : Span} : (front, back) ∈ s.tries cs ↔ s.Cuts cs front back := by
  have hmem : (front, back) ∈ s.tries cs ↔ (front, back) ∈ cuts s.kind cs ∧ s.least ≤ front.length := by
    unfold tries
    split <;> simp
  rw [hmem, mem_cuts]
  exact ⟨fun ⟨⟨heq, hall⟩, hleast⟩ => ⟨heq, hall, hleast⟩, fun ⟨heq, hall, hleast⟩ => ⟨⟨heq, hall⟩, hleast⟩⟩

theorem Span.tries_ordered (s : Span) (cs : List Char) :
    (s.tries cs).Pairwise fun a b => s.Earlier a.1 b.1 := by
  have hlong := (cuts_ordered s.kind cs).filter fun cut => decide (s.least ≤ cut.1.length)
  unfold tries Earlier
  cases s.short with
  | true => simpa using hlong
  | false => simpa [List.pairwise_reverse] using hlong

section Spans

variable {s : Span} {rest : Pattern} {groups : List (List Char)}

theorem exists_of_groups?_span (h : groups? (.span s :: rest) cs = some groups) :
    ∃ front back found, s.Cuts cs front back ∧ groups? rest back = some found ∧
      groups = s.keep front found := by
  obtain ⟨⟨front, back⟩, hmem, hfound⟩ := List.exists_of_findSome?_eq_some h
  obtain ⟨found, hrest, hkeep⟩ := Option.map_eq_some_iff.mp hfound
  exact ⟨front, back, found, Span.mem_tries.mp hmem, hrest, hkeep.symm⟩

/-- The cut that counts is the first one with which the rest of the pattern fits. -/
theorem groups?_span (hcut : s.Cuts cs front back) (hrest : groups? rest back = some groups)
    (hfirst : ∀ front' back', s.Cuts cs front' back' → s.Earlier front' front → groups? rest back' = none) :
    groups? (.span s :: rest) cs = some (s.keep front groups) := by
  obtain ⟨before, behind, hsplit⟩ := List.append_of_mem (Span.mem_tries.mpr hcut)
  have hordered := s.tries_ordered cs
  rw [hsplit, List.pairwise_append] at hordered
  have hbefore : before.findSome? (fun cut => (groups? rest cut.2).map (s.keep cut.1)) = none := by
    rw [List.findSome?_eq_none_iff]
    rintro ⟨front', back'⟩ hmem
    have hcut' : s.Cuts cs front' back' := by
      rw [← Span.mem_tries, hsplit]
      exact List.mem_append_left _ hmem
    rw [hfirst front' back' hcut' (hordered.2.2 _ hmem _ List.mem_cons_self), Option.map_none]
  rw [groups?, hsplit, List.findSome?_append, hbefore, Option.none_or, List.findSome?_cons, hrest,
    Option.map_some]

theorem groups?_span_eq_none (h : ∀ front back, s.Cuts cs front back → groups? rest back = none) :
    groups? (.span s :: rest) cs = none := by
  rw [Option.eq_none_iff_forall_ne_some]
  intro groups hgroups
  obtain ⟨front, back, found, hcut, hrest, -⟩ := exists_of_groups?_span hgroups
  rw [h front back hcut] at hrest
  cases hrest

end Spans

/-! ## Runs that take all they can -/

/-- A pattern that fits no text beginning with a character of a kind. -/
def Rejects (kind : Char → Bool) (pattern : Pattern) : Prop :=
  ∀ c cs, kind c = true → groups? pattern (c :: cs) = none

section Rejects

variable {s : Span} {rest : Pattern}

theorem rejects_text {start : String} {c : Char} {cs : List Char} (hstart : start.toList = c :: cs)
    (hc : kind c = false) (rest : Pattern) : Rejects kind (.text start :: rest) := by
  intro d ds hd
  have hne : c ≠ d := by
    rintro rfl
    rw [hc] at hd
    cases hd
  rw [groups?, hstart, after?, if_neg hne, Option.bind_none]

theorem rejects_span (hkind : ∀ c, kind c = true → s.kind c = false)
    (hrest : s.least = 0 → Rejects kind rest) : Rejects kind (.span s :: rest) := by
  intro c cs hc
  refine groups?_span_eq_none fun front back hcut => ?_
  cases front with
  | nil =>
    obtain rfl : c :: cs = back := hcut.eq
    exact hrest (Nat.le_zero.mp hcut.least) c cs hc
  | cons d front =>
    obtain ⟨rfl, -⟩ : c = d ∧ cs = front ++ back := by simpa using hcut.eq
    have hd := hcut.all c List.mem_cons_self
    rw [hkind c hc] at hd
    cases hd

theorem Span.Cuts.eq_longest {s : Span} (h : s.Cuts cs front back)
    (hback : ∀ c ∈ back.head?, s.kind c = false) :
    front = cs.takeWhile s.kind ∧ back = cs.dropWhile s.kind := by
  obtain ⟨rfl, hall, -⟩ := h
  have hspan := span_append hall hback
  rw [List.span_eq_takeWhile_dropWhile, Prod.mk.injEq] at hspan
  exact ⟨hspan.1.symm, hspan.2.symm⟩

/-- If the rest of the pattern cannot begin with a character of the run's kind, the run takes all of them. -/
theorem groups?_span_of_rejects (hrest : Rejects s.kind rest) :
    groups? (.span s :: rest) cs =
      if s.least ≤ (cs.takeWhile s.kind).length then
        (groups? rest (cs.dropWhile s.kind)).map (s.keep (cs.takeWhile s.kind))
      else none := by
  have hlongest : ∀ front back, s.Cuts cs front back → groups? rest back = none ∨
      front = cs.takeWhile s.kind ∧ back = cs.dropWhile s.kind := by
    intro front back hcut
    by_cases hback : ∀ c ∈ back.head?, s.kind c = false
    · exact .inr (hcut.eq_longest hback)
    · cases back with
      | nil => exact absurd (by simp) hback
      | cons c back => exact .inl (hrest c back (by simpa using hback))
  split
  · rename_i hleast
    cases hfound : groups? rest (cs.dropWhile s.kind) with
    | some groups =>
      have hcut : s.Cuts cs (cs.takeWhile s.kind) (cs.dropWhile s.kind) :=
        ⟨List.takeWhile_append_dropWhile.symm, fun _ => List.mem_takeWhile_imp, hleast⟩
      refine groups?_span hcut hfound fun front back hother hearlier => ?_
      rcases hlongest front back hother with hnone | ⟨rfl, -⟩
      · exact hnone
      · unfold Span.Earlier at hearlier
        split at hearlier <;> exact absurd hearlier (Nat.lt_irrefl _)
    | none =>
      refine groups?_span_eq_none fun front back hcut => ?_
      rcases hlongest front back hcut with hnone | ⟨-, rfl⟩
      · exact hnone
      · exact hfound
  · rename_i hleast
    refine groups?_span_eq_none fun front back hcut => ?_
    rcases hlongest front back hcut with hnone | ⟨rfl, -⟩
    · exact hnone
    · exact absurd hcut.least hleast

end Rejects

/-! ## The pieces of patterns -/

/-- `\s*` -/
abbrev Span.blanks : Span := ⟨isBlank, 0, false, false⟩

/-- `\s+` -/
abbrev Span.gap : Span := ⟨isBlank, 1, false, false⟩

/-- `(\w+)` -/
abbrev Span.name : Span := ⟨isWord, 1, false, true⟩

/-- `(.+)` -/
abbrev Span.line : Span := ⟨(· != '\n'), 1, false, true⟩

/-- `(.*?)` -/
abbrev Span.shortLine : Span := ⟨(· != '\n'), 0, true, true⟩

section Pieces

variable {rest : Pattern}

theorem groups?_blanks (hrest : Rejects isBlank rest) (cs : List Char) :
    groups? (.span .blanks :: rest) cs = groups? rest (trimStart cs) := by
  have hspan := @groups?_span_of_rejects cs .blanks rest hrest
  rw [if_pos (Nat.zero_le _)] at hspan
  exact hspan.trans Option.map_id_apply

theorem rejects_gap (h : Rejects kind rest) (hkind : ∀ c, kind c = true → isBlank c = false) :
    Rejects kind (.span .blanks :: rest) :=
  rejects_span hkind fun _ => h

theorem rejects_name (rest : Pattern) : Rejects isBlank (.span .name :: rest) := by
  refine rejects_span (fun c hc => ?_) fun h => absurd h Nat.one_ne_zero
  cases hword : isWord c with
  | false => exact hword
  | true =>
    rw [isBlank_of_isWord hword] at hc
    cases hc

theorem groups?_gap_eq_none (rest : Pattern) (h : ∀ c ∈ cs.head?, isBlank c = false) :
    groups? (.span .gap :: rest) cs = none := by
  refine groups?_span_eq_none fun front back hcut => ?_
  obtain ⟨c, front, rfl⟩ := List.exists_cons_of_ne_nil (List.length_pos_iff.mp hcut.least)
  have hc : isBlank c = true := hcut.all c List.mem_cons_self
  rw [h c (by rw [hcut.eq]; rfl)] at hc
  cases hc

theorem groups?_gap_cons (hrest : Rejects isBlank rest) {c : Char} (hc : isBlank c = true) (cs : List Char) :
    groups? (.span .gap :: rest) (c :: cs) = groups? rest (trimStart cs) := by
  have hspan := @groups?_span_of_rejects (c :: cs) .gap rest hrest
  rw [hspan]
  dsimp only
  rw [List.takeWhile_cons_of_pos hc, List.dropWhile_cons_of_pos hc, if_pos (by simp)]
  exact Option.map_id_apply

/-- A word and a gap, behind which `next` reads what the rest of the pattern keeps. -/
theorem groups?_word_of {word : String} {next : List Char → Option (List (List Char))}
    (hgap : ∀ c behind, cs = word.toList ++ c :: behind → isBlank c = true →
      groups? (.span .gap :: rest) (c :: behind) = next (trimStart behind)) :
    groups? (.text word :: .span .gap :: rest) cs = (afterWord? word cs).bind next := by
  rw [groups?, afterWord?]
  cases hafter : after? word.toList cs with
  | none => rfl
  | some behind =>
    rw [Option.bind_some]
    cases behind with
    | nil => exact groups?_gap_eq_none rest (by simp)
    | cons c behind =>
      dsimp only
      split
      · rename_i hc
        exact hgap c behind (after?_eq_some_iff.mp hafter) hc
      · rename_i hc
        exact groups?_gap_eq_none rest (by simpa using hc)

theorem groups?_word (word : String) (hrest : Rejects isBlank rest) (cs : List Char) :
    groups? (.text word :: .span .gap :: rest) cs = (afterWord? word cs).bind (groups? rest) :=
  groups?_word_of fun _ behind _ hc => groups?_gap_cons hrest hc behind

/-- A name, blanks behind it, and what cannot begin with a character of a name or with a blank. -/
theorem groups?_name (hword : Rejects isWord rest) (hblank : Rejects isBlank rest) (cs : List Char) :
    groups? (.span .name :: .span .blanks :: rest) cs =
      (takeName? cs).bind fun parts => (groups? rest parts.2).map (parts.1 :: ·) := by
  have hspan := @groups?_span_of_rejects cs .name (.span .blanks :: rest)
    (rejects_gap hword fun _ => isBlank_of_isWord)
  rw [hspan, takeName?, List.span_eq_takeWhile_dropWhile]
  dsimp only
  cases hname : cs.takeWhile isWord with
  | nil => rfl
  | cons c name =>
    rw [groups?_blanks hblank]
    rfl

end Pieces

/-! ## Where a text is cut -/

section Fronts

variable {body inner : List Char}

/-- Behind some of the blanks at its beginning a text goes on with the others. -/
theorem exists_gap (h : body = front ++ inner) (hfront : ∀ c ∈ front, isBlank c = true) :
    ∃ gap, (∀ c ∈ gap, isBlank c = true) ∧ inner = gap ++ trimStart body ∧
      front ++ gap = body.takeWhile isBlank := by
  refine ⟨inner.takeWhile isBlank, fun _ => List.mem_takeWhile_imp, ?_, ?_⟩
  · rw [h, trimStart_append hfront]
    exact List.takeWhile_append_dropWhile.symm
  · rw [h, List.takeWhile_append_of_pos hfront]

theorem not_longer (h : body = front ++ inner) (hfront : ∀ c ∈ front, isBlank c = true) :
    ¬ (body.takeWhile isBlank).length < front.length := by
  obtain ⟨gap, -, -, hblanks⟩ := exists_gap h hfront
  rw [← hblanks, List.length_append]
  omega

/-- The last character of a kind, and what stands around it. -/
theorem exists_of_getLast?_filter {c : Char} (h : (cs.filter kind).getLast? = some c) :
    ∃ front back, cs = front ++ c :: back ∧ kind c = true ∧ ∀ d ∈ back, kind d = false := by
  obtain ⟨others, hothers⟩ := List.getLast?_eq_some_iff.mp h
  obtain ⟨front, behind, rfl, -, hbehind⟩ := List.filter_eq_append_iff.mp hothers
  obtain ⟨mid, back, rfl, -, hc, hback⟩ := List.filter_eq_cons_iff.mp hbehind
  exact ⟨front ++ mid, back, by simp, hc, by simpa [List.filter_eq_nil_iff] using hback⟩

theorem mem_of_longer_front {c d : Char} {front' : List Char} (h : front ++ c :: back = front' ++ inner)
    (hlonger : front.length < front'.length) (hd : d ∈ inner) : d ∈ back := by
  rcases List.append_eq_append_iff.mp h with ⟨mid, rfl, hmid⟩ | ⟨mid, rfl, -⟩
  · cases mid with
    | nil => simp at hlonger
    | cons e mid =>
      obtain ⟨-, rfl⟩ : c = e ∧ back = mid ++ inner := by simpa using hmid
      exact List.mem_append_right _ hd
  · rw [List.length_append] at hlonger
    omega

end Fronts

/-! ## Brackets -/

/-- The end of a pattern that fits texts with one closing bracket, at their beginning, and keeps nothing. -/
def Closing (tail : Pattern) : Prop :=
  ∀ cs groups, groups? tail cs = some groups → groups = [] ∧ ∃ behind, cs = ')' :: behind ∧ ')' ∉ behind

section Closing

variable {tail : Pattern} {body closer : List Char} (htail : Closing tail)

include htail

theorem Closing.rejects (hkind : kind ')' = false) : Rejects kind tail := by
  intro c cs hc
  rw [Option.eq_none_iff_forall_ne_some]
  intro groups h
  obtain ⟨-, behind, heq, -⟩ := htail _ _ h
  obtain ⟨rfl, -⟩ : c = ')' ∧ cs = behind := by simpa using heq
  rw [hkind] at hc
  cases hc

theorem Closing.rejects_blank : Rejects isBlank tail :=
  htail.rejects (by decide)

/-- The place at which the end of a pattern fits is the only one. -/
theorem Closing.unique (hcloser : groups? tail closer = some []) {closer' : List Char}
    {groups : List (List Char)} (hcloser' : groups? tail closer' = some groups) (h : body ++ closer = front ++ closer') :
    body = front ∧ closer = closer' := by
  obtain ⟨-, behind, rfl, hbehind⟩ := htail _ _ hcloser
  obtain ⟨-, behind', rfl, hbehind'⟩ := htail _ _ hcloser'
  rcases List.append_eq_append_iff.mp h with ⟨mid, rfl, hmid⟩ | ⟨mid, rfl, hmid⟩
  · cases mid with
    | nil => exact ⟨(List.append_nil body).symm, by simpa using hmid⟩
    | cons c mid =>
      obtain ⟨-, rfl⟩ : ')' = c ∧ behind = mid ++ ')' :: behind' := by simpa using hmid
      simp at hbehind
  · cases mid with
    | nil => exact ⟨List.append_nil front, by simpa using hmid.symm⟩
    | cons c mid =>
      obtain ⟨-, rfl⟩ : ')' = c ∧ behind' = mid ++ ')' :: behind := by simpa using hmid
      simp at hbehind'

/-- With blanks before it, the end of a pattern fits where only blanks of the inside are left. -/
theorem Closing.blanks_iff (hcloser : groups? tail closer = some []) {groups : List (List Char)}
    (h : body ++ closer = front ++ back) :
    groups? (.span .blanks :: tail) back = some groups ↔
      groups = [] ∧ ∃ gap, (∀ c ∈ gap, isBlank c = true) ∧ body = front ++ gap ∧ back = gap ++ closer := by
  rw [groups?_blanks htail.rejects_blank]
  constructor
  · intro hgroups
    have hback : back = back.takeWhile isBlank ++ trimStart back :=
      List.takeWhile_append_dropWhile.symm
    have hsame : body ++ closer = (front ++ back.takeWhile isBlank) ++ trimStart back := by
      rw [h, List.append_assoc, ← hback]
    obtain ⟨hbody, hclosers⟩ := htail.unique hcloser hgroups hsame
    refine ⟨(htail _ _ hgroups).1, back.takeWhile isBlank, fun _ => List.mem_takeWhile_imp, hbody, ?_⟩
    rw [hclosers]
    exact hback
  · rintro ⟨rfl, gap, hgap, -, rfl⟩
    rw [trimStart_append hgap]
    obtain ⟨-, behind, rfl, -⟩ := htail _ _ hcloser
    rwa [trimStart_of_head (by simp; decide)]

theorem Closing.blanks_self (hcloser : groups? tail closer = some []) {gap : List Char}
    (hgap : ∀ c ∈ gap, isBlank c = true) : groups? (.span .blanks :: tail) (gap ++ closer) = some [] := by
  have hsame : gap ++ closer = [] ++ (gap ++ closer) := rfl
  exact (htail.blanks_iff hcloser hsame).mpr ⟨rfl, gap, hgap, rfl, rfl⟩

/-! ### The inside as one line -/

/-- The run of an inside takes its first line, blanks at the end included, if only blanks follow. -/
theorem groups?_line_eq_some (hcloser : groups? tail closer = some []) (hne : body.takeWhile (· != '\n') ≠ [])
    (hblank : ∀ c ∈ body.dropWhile (· != '\n'), isBlank c = true) :
    groups? (.span .line :: .span .blanks :: tail) (body ++ closer) = some [body.takeWhile (· != '\n')] := by
  have hcut : Span.Cuts .line (body ++ closer) (body.takeWhile (· != '\n'))
      (body.dropWhile (· != '\n') ++ closer) := by
    refine ⟨?_, fun _ => List.mem_takeWhile_imp, List.length_pos_iff.mpr hne⟩
    rw [← List.append_assoc, List.takeWhile_append_dropWhile]
  refine groups?_span hcut (htail.blanks_self hcloser hblank) fun front back hother hlonger => ?_
  -- A longer run within the inside would be longer than its first line.
  rw [Option.eq_none_iff_forall_ne_some]
  intro groups hgroups
  obtain ⟨-, gap, -, rfl, -⟩ := (htail.blanks_iff hcloser hother.eq).mp hgroups
  have hfront : (front ++ gap).takeWhile (· != '\n') = front ++ gap.takeWhile (· != '\n') :=
    List.takeWhile_append_of_pos hother.all
  have hlength : ((front ++ gap).takeWhile (· != '\n')).length < front.length := hlonger
  rw [hfront, List.length_append] at hlength
  omega

theorem groups?_line_eq_none (hcloser : groups? tail closer = some [])
    (h : body.takeWhile (· != '\n') ≠ [] → ∃ c ∈ body.dropWhile (· != '\n'), isBlank c = false) :
    groups? (.span .line :: .span .blanks :: tail) (body ++ closer) = none := by
  refine groups?_span_eq_none fun front back hcut => ?_
  rw [Option.eq_none_iff_forall_ne_some]
  intro groups hgroups
  obtain ⟨-, gap, hgap, rfl, -⟩ := (htail.blanks_iff hcloser hcut.eq).mp hgroups
  rw [List.takeWhile_append_of_pos hcut.all, List.dropWhile_append_of_pos hcut.all] at h
  obtain ⟨c, hc, hsolid⟩ := h (List.append_ne_nil_of_left_ne_nil (List.length_pos_iff.mp hcut.least) _)
  rw [hgap c ((List.dropWhile_sublist _).mem hc)] at hsolid
  cases hsolid

/-- Blanks before the inside of brackets lie in the inside. -/
theorem Closing.exists_of_blank_front (hcloser : groups? tail closer = some [])
    (hfront : ∀ c ∈ front, isBlank c = true) (h : body ++ closer = front ++ back) :
    ∃ inner, body = front ++ inner ∧ back = inner ++ closer := by
  rcases List.append_eq_append_iff.mp h with ⟨mid, rfl, hmid⟩ | ⟨mid, hbody, hback⟩
  · obtain ⟨-, behind, rfl, -⟩ := htail _ _ hcloser
    cases mid with
    | nil => exact ⟨[], by simp, by simpa using hmid.symm⟩
    | cons c mid =>
      obtain ⟨rfl, -⟩ : ')' = c ∧ behind = mid ++ back := by simpa using hmid
      exact absurd (hfront ')' (by simp)) (by decide)
  · exact ⟨mid, hbody, hback⟩

section Inside

variable {inside : Pattern} {inner : List Char} {groups : List (List Char)}

theorem groups?_blanks_eq_some (hcloser : groups? tail closer = some []) (hbody : body = front ++ inner)
    (hfront : ∀ c ∈ front, isBlank c = true) (hinside : groups? inside (inner ++ closer) = some groups)
    (hlongest : ∀ front' inner', body = front' ++ inner' → (∀ c ∈ front', isBlank c = true) →
      front.length < front'.length → groups? inside (inner' ++ closer) = none) :
    groups? (.span .blanks :: inside) (body ++ closer) = some groups := by
  have hcut : Span.Cuts .blanks (body ++ closer) front (inner ++ closer) :=
    ⟨by rw [hbody, List.append_assoc], hfront, Nat.zero_le _⟩
  refine groups?_span hcut hinside fun front' back' hother hlonger => ?_
  obtain ⟨inner', hbody', rfl⟩ := htail.exists_of_blank_front hcloser hother.all hother.eq
  exact hlongest front' inner' hbody' hother.all hlonger

theorem groups?_blanks_eq_none (hcloser : groups? tail closer = some [])
    (h : ∀ front inner, body = front ++ inner → (∀ c ∈ front, isBlank c = true) →
      groups? inside (inner ++ closer) = none) :
    groups? (.span .blanks :: inside) (body ++ closer) = none := by
  refine groups?_span_eq_none fun front back hcut => ?_
  obtain ⟨inner, hbody, rfl⟩ := htail.exists_of_blank_front hcloser hcut.all hcut.eq
  exact h front inner hbody hcut.all

end Inside

/-- Between blanks alone, the run gets the last one that ends no line. -/
theorem groups?_enclosed_of_blank (hcloser : groups? tail closer = some [])
    (hbody : ∀ c ∈ body, isBlank c = true) :
    groups? (.span .blanks :: .span .line :: .span .blanks :: tail) (body ++ closer) =
      ((body.filter (· != '\n')).getLast?).map fun c => [[c]] := by
  have hnone : ∀ inner : List Char, (∀ c ∈ inner, (c != '\n') = false) →
      groups? (.span .line :: .span .blanks :: tail) (inner ++ closer) = none := by
    intro inner hinner
    have hline : inner.takeWhile (· != '\n') = [] := by
      cases inner with
      | nil => rfl
      | cons c inner => exact List.takeWhile_cons_of_neg (by simp [hinner c List.mem_cons_self])
    exact groups?_line_eq_none htail hcloser fun hne => absurd hline hne
  cases hlast : (body.filter (· != '\n')).getLast? with
  | none =>
    have hends : ∀ c ∈ body, (c != '\n') = false := by
      simpa [List.getLast?_eq_none_iff, List.filter_eq_nil_iff] using hlast
    refine groups?_blanks_eq_none htail hcloser fun front inner hcut _ => hnone inner fun c hc => ?_
    exact hends c (hcut ▸ List.mem_append_right _ hc)
  | some c =>
    obtain ⟨front, back, rfl, hc, hback⟩ := exists_of_getLast?_filter hlast
    have hspan : ([c] ++ back).span (· != '\n') = ([c], back) :=
      span_append (by simpa using hc) fun d hd => hback d (List.mem_of_mem_head? hd)
    rw [List.span_eq_takeWhile_dropWhile, Prod.mk.injEq] at hspan
    refine groups?_blanks_eq_some htail hcloser rfl (fun d hd => hbody d (List.mem_append_left _ hd)) ?_ ?_
    · have hblank : ∀ d ∈ ([c] ++ back).dropWhile (· != '\n'), isBlank d = true := by
        rw [hspan.2]
        exact fun d hd => hbody d (by simp [hd])
      have hline : ([c] ++ back).takeWhile (· != '\n') ≠ [] := by
        rw [hspan.1]
        exact List.cons_ne_nil _ _
      have hgroups := groups?_line_eq_some htail hcloser hline hblank
      rwa [hspan.1] at hgroups
    · -- Behind that blank only line ends follow.
      intro front' inner hcut _ hlonger
      exact hnone inner fun d hd => hback d (mem_of_longer_front hcut hlonger hd)

/-- The expression between brackets is what `enclosed?` finds there. -/
theorem groups?_enclosed (hcloser : groups? tail closer = some []) :
    groups? (.span .blanks :: .span .line :: .span .blanks :: tail) (body ++ closer) =
      (enclosed? body).map ([·]) := by
  cases hstart : trimStart body with
  | nil =>
    rw [groups?_enclosed_of_blank htail hcloser (List.dropWhile_eq_nil_iff.mp hstart), enclosed?, hstart,
      Option.map_map]
    rfl
  | cons b inner =>
    have hbody : body = body.takeWhile isBlank ++ (b :: inner) := by
      rw [← hstart]
      exact List.takeWhile_append_dropWhile.symm
    have hb : isBlank b = false := head_trimStart body b (by simp [hstart])
    have hline : (b != '\n') = true := by
      rw [bne_iff_ne]
      rintro rfl
      exact absurd hb (by decide)
    have henclosed : enclosed? body = if ((b :: inner).dropWhile (· != '\n')).all isBlank then
        some ((b :: inner).takeWhile (· != '\n')) else none := by
      simp only [enclosed?, hstart, List.span_eq_takeWhile_dropWhile]
    rw [henclosed]
    split
    · rename_i hrest
      refine groups?_blanks_eq_some htail hcloser hbody (fun _ => List.mem_takeWhile_imp) ?_ ?_
      · have hne : (b :: inner).takeWhile (· != '\n') ≠ [] := by
          rw [List.takeWhile_cons, if_pos hline]
          exact List.cons_ne_nil _ _
        exact groups?_line_eq_some htail hcloser hne (List.all_eq_true.mp hrest)
      · -- A longer run of blanks would take the first character that is none.
        intro front inner' hcut hfront hlonger
        exact absurd hlonger (not_longer hcut hfront)
    · rename_i hrest
      refine groups?_blanks_eq_none htail hcloser fun front inner' hcut hfront => ?_
      obtain ⟨gap, -, rfl, -⟩ := exists_gap hcut hfront
      rw [hstart]
      refine groups?_line_eq_none htail hcloser fun _ => ?_
      -- The later lines stand behind the first one, wherever that begins.
      obtain ⟨c, hc, hsolid⟩ : ∃ c ∈ (b :: inner).dropWhile (· != '\n'), isBlank c = false := by
        simpa using hrest
      refine ⟨c, ?_, hsolid⟩
      rw [List.dropWhile_append]
      split
      · exact hc
      · exact List.mem_append_right _ ((List.dropWhile_sublist _).mem hc)

/-! ### The inside as parameters -/

/-- A short run of an inside that is one line takes it as a whole. -/
theorem groups?_shortLine (hcloser : groups? tail closer = some []) :
    groups? (.span .shortLine :: tail) (body ++ closer) = if '\n' ∈ body then none else some [body] := by
  split
  · rename_i hmem
    refine groups?_span_eq_none fun front back hcut => ?_
    rw [Option.eq_none_iff_forall_ne_some]
    intro groups hgroups
    obtain ⟨rfl, -⟩ := htail.unique hcloser hgroups hcut.eq
    simpa using hcut.all _ hmem
  · rename_i hmem
    have hcut : Span.Cuts .shortLine (body ++ closer) body closer :=
      ⟨rfl, fun c hc => by simpa using ne_of_mem_of_not_mem hc hmem, Nat.zero_le _⟩
    refine groups?_span hcut hcloser fun front back hother hearlier => ?_
    rw [Option.eq_none_iff_forall_ne_some]
    intro groups hgroups
    obtain ⟨rfl, -⟩ := htail.unique hcloser hgroups hother.eq
    exact absurd hearlier (Nat.lt_irrefl _)

/-- Before blanks, a short run leaves them out. -/
theorem groups?_shortLine_blanks (hcloser : groups? tail closer = some []) :
    groups? (.span .shortLine :: .span .blanks :: tail) (body ++ closer) =
      if '\n' ∈ trimEnd body then none else some [trimEnd body] := by
  have htrim : ∀ {front gap}, body = front ++ gap → (∀ c ∈ gap, isBlank c = true) →
      trimEnd body = trimEnd front := by
    intro front gap h hgap
    rw [h, trimEnd_append hgap]
  split
  · rename_i hmem
    refine groups?_span_eq_none fun front back hcut => ?_
    rw [Option.eq_none_iff_forall_ne_some]
    intro groups hgroups
    obtain ⟨-, gap, hgap, hbody, -⟩ := (htail.blanks_iff hcloser hcut.eq).mp hgroups
    obtain ⟨gap', hfront, -⟩ := exists_blanks_behind front
    have hline := hcut.all '\n' (hfront ▸ List.mem_append_left _ (htrim hbody hgap ▸ hmem))
    simp at hline
  · rename_i hmem
    obtain ⟨gap, hbody, hgap⟩ := exists_blanks_behind body
    have hcut : Span.Cuts .shortLine (body ++ closer) (trimEnd body) (gap ++ closer) := by
      refine ⟨?_, fun c hc => by simpa using ne_of_mem_of_not_mem hc hmem, Nat.zero_le _⟩
      rw [← List.append_assoc, ← hbody]
    refine groups?_span hcut (htail.blanks_self hcloser hgap) fun front back hother hearlier => ?_
    rw [Option.eq_none_iff_forall_ne_some]
    intro groups hgroups
    obtain ⟨-, gap', hgap', hbody', -⟩ := (htail.blanks_iff hcloser hother.eq).mp hgroups
    have hshorter : front.length < (trimEnd body).length := hearlier
    obtain ⟨gap', hfront, -⟩ := exists_blanks_behind front
    rw [htrim hbody' hgap', hfront, List.length_append, ← hfront] at hshorter
    omega

/-- Parameters are found without the blanks around them. -/
theorem groups?_parameters (hcloser : groups? tail closer = some []) :
    groups? (.span .blanks :: .span .shortLine :: .span .blanks :: tail) (body ++ closer) =
      if '\n' ∈ trim body then none else some [trim body] := by
  split
  · rename_i hmem
    refine groups?_blanks_eq_none htail hcloser fun front inner hcut hfront => ?_
    obtain ⟨gap, -, rfl, -⟩ := exists_gap hcut hfront
    rw [groups?_shortLine_blanks htail hcloser, if_pos (mem_trimEnd_append gap hmem)]
  · rename_i hmem
    refine groups?_blanks_eq_some htail hcloser List.takeWhile_append_dropWhile.symm
      (fun _ => List.mem_takeWhile_imp) ?_ fun front inner hcut hfront hlonger => ?_
    · exact (groups?_shortLine_blanks htail hcloser).trans (if_neg hmem)
    · exact absurd hlonger (not_longer hcut hfront)

end Closing

end LineScript.Text
