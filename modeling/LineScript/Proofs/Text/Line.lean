import LineScript.Statement
import LineScript.Text.Utf8
import Mathlib.Data.List.TakeDrop
import Mathlib.Data.List.TakeWhile

/-!
# Lines

A text that is made of lines is cut into these lines again, and what stands between blanks in a line
is found again: by trimming, behind a word, in a run of word characters, and in brackets.
-/

namespace LineScript.Text

/-! ## Blanks -/

def Trimmed (cs : List Char) : Prop :=
  cs.head?.all (!isBlank ·) = true ∧ cs.getLast?.all (!isBlank ·) = true

instance (cs : List Char) : Decidable (Trimmed cs) :=
  inferInstanceAs (Decidable (_ = true ∧ _ = true))

theorem trimmed_iff {cs : List Char} :
    Trimmed cs ↔ (∀ c ∈ cs.head?, isBlank c = false) ∧ ∀ c ∈ cs.getLast?, isBlank c = false := by
  have hall : ∀ o : Option Char, o.all (!isBlank ·) = true ↔ ∀ c ∈ o, isBlank c = false := by
    intro o
    cases o <;> simp
  rw [Trimmed, hall, hall]

section Trim

variable {cs front back : List Char}

theorem trimStart_of_head (h : ∀ c ∈ cs.head?, isBlank c = false) : trimStart cs = cs := by
  cases cs with
  | nil => rfl
  | cons c cs => exact List.dropWhile_cons_of_neg (by simp [h c rfl])

theorem trimEnd_of_last (h : ∀ c ∈ cs.getLast?, isBlank c = false) : trimEnd cs = cs := by
  have hreverse : trimStart cs.reverse = cs.reverse :=
    trimStart_of_head (by rwa [List.head?_reverse])
  unfold trimStart at hreverse
  rw [trimEnd, hreverse, List.reverse_reverse]

theorem Trimmed.head (h : Trimmed cs) : ∀ c ∈ cs.head?, isBlank c = false :=
  (trimmed_iff.mp h).1

theorem Trimmed.last (h : Trimmed cs) : ∀ c ∈ cs.getLast?, isBlank c = false :=
  (trimmed_iff.mp h).2

theorem Trimmed.trim (h : Trimmed cs) : trim cs = cs := by
  rw [Text.trim, trimStart_of_head h.head, trimEnd_of_last h.last]

/-- The ends of a text decide whether it is trimmed, whatever stands between them. -/
theorem trimmed_between (hfront : front.head?.any (!isBlank ·) = true)
    (hback : back.getLast?.any (!isBlank ·) = true) (mid : List Char) : Trimmed (front ++ (mid ++ back)) := by
  constructor
  · cases front with
    | nil => cases hfront
    | cons c cs => exact hfront
  · rw [← List.append_assoc, List.getLast?_append]
    cases hlast : back.getLast? with
    | none =>
      rw [hlast] at hback
      cases hback
    | some c =>
      rw [hlast] at hback
      exact hback

theorem trimStart_append (hfront : ∀ c ∈ front, isBlank c = true) :
    trimStart (front ++ cs) = trimStart cs :=
  List.dropWhile_append_of_pos hfront

theorem trimStart_of_blank (hback : ∀ c ∈ back, isBlank c = true) : trimStart back = [] := by
  have hnil : trimStart (back ++ []) = trimStart [] := trimStart_append hback
  rwa [List.append_nil] at hnil

theorem trimEnd_append (hback : ∀ c ∈ back, isBlank c = true) :
    trimEnd (cs ++ back) = trimEnd cs := by
  unfold trimEnd
  rw [List.reverse_append, List.dropWhile_append_of_pos (by simpa using hback)]

theorem head_trimStart (cs : List Char) : ∀ c ∈ (trimStart cs).head?, isBlank c = false := by
  intro c hc
  have hhead := List.head?_dropWhile_not isBlank cs
  unfold trimStart at hc
  rw [Option.mem_def.mp hc] at hhead
  exact hhead

/-- What is left after trimming has no blanks at its ends. -/
theorem trimmed_trim (cs : List Char) : Trimmed (Text.trim cs) := by
  have hstart := head_trimStart cs
  refine trimmed_iff.mpr ⟨fun c hc => ?_, fun c hc => ?_⟩
  · -- The first character is not touched when blanks are removed at the end.
    have hsuffix : (trimStart cs).reverse.dropWhile isBlank <:+ (trimStart cs).reverse :=
      List.dropWhile_suffix isBlank
    rw [← List.reverse_prefix, List.reverse_reverse] at hsuffix
    obtain ⟨back, hback⟩ := hsuffix
    refine hstart c ?_
    rw [Text.trim, trimEnd] at hc
    rw [← hback, List.head?_append, Option.mem_def.mp hc]
    rfl
  · have hhead := List.head?_dropWhile_not isBlank (trimStart cs).reverse
    rw [Text.trim, trimEnd, List.getLast?_reverse] at hc
    rw [Option.mem_def.mp hc] at hhead
    exact hhead

@[simp] theorem strip_strip (s : String) : strip (strip s) = strip s := by
  unfold strip
  rw [String.toList_ofList, (trimmed_trim s.toList).trim]

theorem trim_append_blank (cs : List Char) (hback : ∀ c ∈ back, isBlank c = true) :
    Text.trim (cs ++ back) = Text.trim cs := by
  unfold Text.trim
  have hstart : trimStart (cs ++ back) =
      if (trimStart cs).isEmpty then trimStart back else trimStart cs ++ back :=
    List.dropWhile_append
  rw [hstart]
  split
  · rename_i hempty
    have hcs : trimStart cs = [] := by simpa using hempty
    rw [hcs, trimStart_of_blank hback]
  · exact trimEnd_append hback

theorem mem_of_mem_trim {c : Char} (h : c ∈ Text.trim cs) : c ∈ cs := by
  unfold Text.trim trimEnd trimStart at h
  rw [List.mem_reverse] at h
  have hstart := List.mem_reverse.mp ((List.dropWhile_sublist _).mem h)
  exact (List.dropWhile_sublist _).mem hstart

/-- Blanks around a text are trimmed away. -/
theorem Trimmed.trim_append (h : Trimmed cs) (hfront : ∀ c ∈ front, isBlank c = true)
    (hback : ∀ c ∈ back, isBlank c = true) : Text.trim (front ++ cs ++ back) = cs := by
  rw [Text.trim, List.append_assoc, trimStart_append hfront]
  cases cs with
  | nil =>
    rw [List.nil_append, trimStart_of_blank hback]
    rfl
  | cons c cs =>
    have hhead : ∀ d ∈ (c :: cs ++ back).head?, isBlank d = false := h.head
    rw [trimStart_of_head hhead, trimEnd_append hback, trimEnd_of_last h.last]

theorem trim_cons_of_blank {c : Char} (hc : isBlank c = true) (cs : List Char) :
    Text.trim (c :: cs) = Text.trim cs := by
  have hfront : ∀ d ∈ [c], isBlank d = true := by simpa using hc
  have hstart : trimStart ([c] ++ cs) = trimStart cs := trimStart_append hfront
  rw [List.singleton_append] at hstart
  rw [Text.trim, Text.trim, hstart]

theorem exists_blanks_behind (cs : List Char) :
    ∃ back, cs = trimEnd cs ++ back ∧ ∀ c ∈ back, isBlank c = true := by
  refine ⟨(cs.reverse.takeWhile isBlank).reverse, ?_, fun c hc => ?_⟩
  · rw [trimEnd, ← List.reverse_append, List.takeWhile_append_dropWhile, List.reverse_reverse]
  · exact List.mem_takeWhile_imp (List.mem_reverse.mp hc)

/-- Trimming takes blanks away, and nothing else. -/
theorem exists_blanks_around (cs : List Char) :
    ∃ front back, cs = front ++ Text.trim cs ++ back ∧ (∀ c ∈ front, isBlank c = true) ∧
      ∀ c ∈ back, isBlank c = true := by
  obtain ⟨back, hback, hblank⟩ := exists_blanks_behind (trimStart cs)
  refine ⟨cs.takeWhile isBlank, back, ?_, fun c hc => List.mem_takeWhile_imp hc, hblank⟩
  rw [List.append_assoc, Text.trim, ← hback]
  exact List.takeWhile_append_dropWhile.symm

/-- Blanks are removed from the end of a text whatever stands before it. -/
theorem mem_trimEnd_append {c : Char} (front : List Char) (h : c ∈ trimEnd cs) : c ∈ trimEnd (front ++ cs) := by
  rw [trimEnd, List.mem_reverse] at h
  rw [trimEnd, List.mem_reverse, List.reverse_append, List.dropWhile_append]
  split
  · rename_i hempty
    rw [List.isEmpty_iff.mp hempty] at h
    cases h
  · exact List.mem_append_left _ h

theorem trim_ne_nil (h : ∃ c ∈ cs, isBlank c = false) : Text.trim cs ≠ [] := by
  intro hnil
  obtain ⟨front, back, hcs, hfront, hback⟩ := exists_blanks_around cs
  rw [hnil, List.append_nil] at hcs
  obtain ⟨c, hc, hsolid⟩ := h
  rw [hcs, List.mem_append] at hc
  have hblank : isBlank c = true := hc.elim (hfront c) (hback c)
  rw [hsolid] at hblank
  cases hblank

end Trim

/-! ## Words -/

/-- The code points of the blanks, as closed ranges. -/
def blankRanges : List (Nat × Nat) :=
  [(9, 13), (28, 32), (0x85, 0x85), (0xA0, 0xA0), (0x1680, 0x1680), (0x2000, 0x200A),
    (0x2028, 0x2028), (0x2029, 0x2029), (0x202F, 0x202F), (0x205F, 0x205F), (0x3000, 0x3000)]

theorem inRanges_of_isBlank {c : Char} (h : isBlank c = true) :
    inRanges blankRanges c.toNat = true := by
  simp only [isBlank, inRanges, blankRanges, List.any_cons, List.any_nil, Bool.or_eq_true,
    Bool.and_eq_true, decide_eq_true_eq, beq_iff_eq] at h ⊢
  omega

/-- Whether the ranges of two lists lie apart pairwise. -/
def rangesApart (first second : List (Nat × Nat)) : Bool :=
  first.all fun r => second.all fun q => Nat.blt r.2 q.1 || Nat.blt q.2 r.1

theorem inRanges_eq_false_of_apart {first second : List (Nat × Nat)} {n : Nat}
    (hapart : rangesApart first second = true) (h : inRanges first n = true) :
    inRanges second n = false := by
  obtain ⟨r, hr, hn⟩ := List.any_eq_true.mp h
  refine List.any_eq_false.mpr fun q hq hn' => ?_
  have hrq := List.all_eq_true.mp (List.all_eq_true.mp hapart r hr) q hq
  simp only [Bool.and_eq_true, Bool.or_eq_true, decide_eq_true_eq, Nat.blt_eq] at hn hn' hrq
  omega

theorem blankRanges_apart : rangesApart blankRanges wordRanges = true := by
  decide +kernel

theorem isPlainWord_of_mem_blankRanges :
    ∀ n < 128, inRanges blankRanges n = true → isPlainWord (Char.ofNat n) = false := by
  decide +kernel

/-- No word character is a blank. -/
theorem isBlank_of_isWord {c : Char} (h : isWord c = true) : isBlank c = false := by
  cases hblank : isBlank c with
  | false => rfl
  | true =>
    have hranges := inRanges_of_isBlank hblank
    unfold isWord at h
    split at h
    · rename_i hplain
      have hword := isPlainWord_of_mem_blankRanges c.toNat hplain hranges
      rw [Char.ofNat_toNat, h] at hword
      cases hword
    · rw [inRanges_eq_false_of_apart blankRanges_apart hranges] at h
      cases h

/-! ## Parts of a line -/

/-- A run of characters of a kind ends before a character that is of another. -/
theorem span_append {p : Char → Bool} {front rest : List Char} (hfront : ∀ c ∈ front, p c = true)
    (hrest : ∀ c ∈ rest.head?, p c = false) : (front ++ rest).span p = (front, rest) := by
  rw [List.span_eq_takeWhile_dropWhile, List.takeWhile_append_of_pos hfront,
    List.dropWhile_append_of_pos hfront]
  cases rest with
  | nil => simp
  | cons c rest => simp [hrest c rfl]

/-- A text begins with another exactly if that one can be taken away. -/
theorem after?_eq_some_iff {start cs rest : List Char} :
    after? start cs = some rest ↔ cs = start ++ rest := by
  induction start generalizing cs with
  | nil => simp [after?, eq_comm]
  | cons p ps ih =>
    cases cs with
    | nil => simp [after?]
    | cons c cs =>
      by_cases h : p = c
      · simp [after?, h, ih]
      · simp [after?, h, Ne.symm h]

theorem after?_append (start rest : List Char) : after? start (start ++ rest) = some rest :=
  after?_eq_some_iff.mpr rfl

theorem after?_eq_none_iff {start cs : List Char} : after? start cs = none ↔ ¬ start <+: cs := by
  rw [Option.eq_none_iff_forall_ne_some]
  constructor
  · rintro h ⟨rest, rfl⟩
    exact h rest (after?_append start rest)
  · intro h rest hrest
    exact h ⟨rest, (after?_eq_some_iff.mp hrest).symm⟩

theorem startsWith_iff {s start : String} :
    startsWith s start = true ↔ ∃ rest, s.toList = start.toList ++ rest := by
  simp only [startsWith, Option.isSome_iff_exists, after?_eq_some_iff]

theorem endsWith_iff {s tail : String} :
    endsWith s tail = true ↔ ∃ front, s.toList = front ++ tail.toList := by
  simp only [endsWith, Option.isSome_iff_exists, after?_eq_some_iff]
  constructor
  · rintro ⟨rest, h⟩
    exact ⟨rest.reverse, by simpa using congrArg List.reverse h⟩
  · rintro ⟨front, h⟩
    exact ⟨front.reverse, by simp [h]⟩

end LineScript.Text

namespace LineScript.Statement

open Text

/-- What follows a word and blanks. -/
theorem afterWord?_append_blank (word : String) (rest : List Char) :
    afterWord? word (word.toList ++ ' ' :: rest) = some (trimStart rest) := by
  simp only [afterWord?, after?_append]
  rw [if_pos (by decide)]

/-- What follows a word and a blank, if no more blanks follow. -/
theorem afterWord?_append (word : String) {rest : List Char}
    (h : ∀ c ∈ rest.head?, isBlank c = false) :
    afterWord? word (word.toList ++ ' ' :: rest) = some rest := by
  rw [afterWord?_append_blank, trimStart_of_head h]

theorem afterWord?_eq_none {word : String} {cs : List Char} (h : after? word.toList cs = none) :
    afterWord? word cs = none := by
  simp [afterWord?, h]

theorem afterWord?_eq_some_iff {word : String} {cs rest : List Char} :
    afterWord? word cs = some rest ↔
      ∃ c behind, cs = word.toList ++ c :: behind ∧ isBlank c = true ∧ trimStart behind = rest := by
  constructor
  · intro h
    unfold afterWord? at h
    split at h
    · rename_i c behind hafter
      split at h
      · rename_i hc
        cases h
        exact ⟨c, behind, after?_eq_some_iff.mp hafter, hc, rfl⟩
      · cases h
    · cases h
  · rintro ⟨c, behind, rfl, hc, rfl⟩
    simp only [afterWord?, after?_append, hc, if_true]

theorem takeName?_append {name rest : List Char} (hne : name ≠ [])
    (hname : ∀ c ∈ name, isWord c = true) (hrest : ∀ c ∈ rest.head?, isWord c = false) :
    takeName? (name ++ rest) = some (name, trimStart rest) := by
  rw [takeName?, span_append hname hrest]
  simp [hne]

theorem beforeLast?_append (c : Char) (cs : List Char) : beforeLast? c (cs ++ [c]) = some cs := by
  simp [beforeLast?]

theorem beforeLast?_eq_some_iff {c : Char} {cs front : List Char} :
    beforeLast? c cs = some front ↔ cs = front ++ [c] := by
  constructor
  · intro h
    unfold beforeLast? at h
    split at h
    · rename_i d rest hreverse
      split at h
      · rename_i hc
        cases h
        rw [hc, ← List.reverse_cons, ← hreverse, List.reverse_reverse]
      · cases h
    · cases h
  · rintro rfl
    exact beforeLast?_append c front

theorem afterOpen?_eq_some_iff {cs rest : List Char} : afterOpen? cs = some rest ↔ cs = '(' :: rest := by
  constructor
  · intro h
    unfold afterOpen? at h
    split at h
    · cases h
      rfl
    · cases h
  · rintro rfl
    rfl

section Suffix

variable {cs rest : List Char}

theorem suffix_of_after? {start : List Char} (h : after? start cs = some rest) : rest <:+ cs :=
  ⟨start, (after?_eq_some_iff.mp h).symm⟩

theorem suffix_of_afterWord? {word : String} (h : afterWord? word cs = some rest) : rest <:+ cs := by
  obtain ⟨c, behind, rfl, -, rfl⟩ := afterWord?_eq_some_iff.mp h
  have hbehind : behind <:+ word.toList ++ c :: behind := (List.suffix_cons c behind).trans (List.suffix_append _ _)
  exact (List.dropWhile_suffix _).trans hbehind

theorem suffix_of_takeName? {name : List Char} (h : takeName? cs = some (name, rest)) : rest <:+ cs := by
  simp only [takeName?, List.span_eq_takeWhile_dropWhile] at h
  split at h
  · cases h
  · cases h
    exact (List.dropWhile_suffix _).trans (List.dropWhile_suffix _)

theorem suffix_of_afterOpen? (h : afterOpen? cs = some rest) : rest <:+ cs := by
  rw [afterOpen?_eq_some_iff.mp h]
  exact List.suffix_cons _ _

end Suffix

/-- An expression in brackets, without blanks at its ends. -/
theorem enclosed?_of_trimmed {cs : List Char} (hne : cs ≠ []) (h : Trimmed cs) (hline : '\n' ∉ cs) :
    enclosed? cs = some cs := by
  have hspan : (cs ++ []).span (· != '\n') = (cs, []) :=
    span_append (fun c hc => by simpa using ne_of_mem_of_not_mem hc hline) (by simp)
  rw [List.append_nil] at hspan
  obtain ⟨c, cs, rfl⟩ := List.exists_cons_of_ne_nil hne
  rw [enclosed?, trimStart_of_head h.head]
  simp only [hspan]
  rfl

/-- What stands in brackets is read up to the blanks at its ends. -/
theorem exists_enclosed? {cs : List Char} (hne : cs ≠ []) (hline : '\n' ∉ cs) :
    ∃ inner, enclosed? cs = some inner ∧ trim inner = trim cs := by
  have hends : ∀ c ∈ cs, (c != '\n') = true := by
    intro c hc
    simpa using ne_of_mem_of_not_mem hc hline
  cases hstart : trimStart cs with
  | nil =>
    -- Only blanks stand there, and the last of them is taken.
    have hblank : ∀ c ∈ cs, isBlank c = true := List.dropWhile_eq_nil_iff.mp hstart
    have hlast : ∀ c ∈ [cs.getLast hne], isBlank c = true := by
      simpa using hblank _ (List.getLast_mem hne)
    have hfilter : cs.filter (· != '\n') = cs := List.filter_eq_self.mpr hends
    refine ⟨[cs.getLast hne], ?_, ?_⟩
    · simp only [enclosed?, hstart, hfilter, List.getLast?_eq_some_getLast hne, Option.map_some]
    · rw [trim, trim, hstart, trimStart_of_blank hlast]
  | cons c rest =>
    have hmem : ∀ d ∈ c :: rest, (d != '\n') = true := by
      intro d hd
      rw [← hstart] at hd
      exact hends d ((List.dropWhile_sublist _).mem hd)
    have hspan : (c :: rest ++ []).span (· != '\n') = (c :: rest, []) := span_append hmem (by simp)
    rw [List.append_nil] at hspan
    refine ⟨c :: rest, ?_, ?_⟩
    · simp only [enclosed?, hstart, hspan]
      rfl
    · rw [trim, trim, ← hstart, trimStart_of_head (head_trimStart cs)]

theorem comma_not_mem_of_blank {gap : List Char} (hgap : ∀ c ∈ gap, isBlank c = true) : ',' ∉ gap := by
  intro hmem
  have hcomma := hgap ',' hmem
  revert hcomma
  decide

/-- Blanks around a list belong to its first and its last part. -/
theorem map_trim_splitOn {front back : List Char} (hfront : ∀ c ∈ front, isBlank c = true)
    (hback : ∀ c ∈ back, isBlank c = true) (cs : List Char) :
    ((front ++ cs ++ back).splitOn ',').map trim = (cs.splitOn ',').map trim := by
  induction hlen : cs.length using Nat.strongRecOn generalizing front back cs with
  | ind n ih =>
    by_cases hmem : ',' ∈ cs
    · obtain ⟨first, rest, rfl⟩ := List.append_of_mem hmem
      have hcut : front ++ (first ++ ',' :: rest) ++ back =
          (front ++ first ++ []) ++ ',' :: ([] ++ rest ++ back) := by simp
      have hfirst := ih first.length (by simp [← hlen]) hfront (List.forall_mem_nil _) first rfl
      have hrest := ih rest.length (by simp [← hlen]; omega) (List.forall_mem_nil _) hback rest rfl
      rw [hcut, List.splitOn_append_cons_self, List.splitOn_append_cons_self, List.map_append,
        List.map_append, hfirst, hrest]
    · -- Without a comma there is one part, which is trimmed as a whole.
      have hall : ',' ∉ front ++ cs ++ back := by
        simp [hmem, comma_not_mem_of_blank hfront, comma_not_mem_of_blank hback]
      have htrim : trim (front ++ cs ++ back) = trim cs := by
        rw [trim_append_blank _ hback, trim, trim, trimStart_append hfront]
      rw [List.splitOn_eq_singleton hall, List.splitOn_eq_singleton hmem, List.map_singleton,
        List.map_singleton, htrim]

theorem commaParts_trim (cs : List Char) : commaParts (trim cs) = commaParts cs := by
  have hparts : ∀ ds, commaParts ds =
      (((ds.splitOn ',').map trim).map String.ofList).filter (!·.isEmpty) := by
    intro ds
    rw [commaParts, List.map_map]
    rfl
  obtain ⟨front, back, hcs, hfront, hback⟩ := exists_blanks_around cs
  nth_rewrite 2 [hcs]
  rw [hparts, hparts, map_trim_splitOn hfront hback]

end LineScript.Statement

namespace LineScript.Text

/-! ## Cutting into lines -/

def OneLine (cs : List Char) : Prop :=
  '\n' ∉ cs ∧ '\r' ∉ cs

instance (cs : List Char) : Decidable (OneLine cs) :=
  inferInstanceAs (Decidable ('\n' ∉ cs ∧ '\r' ∉ cs))

@[simp] theorem oneLine_nil : OneLine [] := by
  decide

@[simp] theorem oneLine_append {front back : List Char} :
    OneLine (front ++ back) ↔ OneLine front ∧ OneLine back := by
  simp only [OneLine, List.mem_append]
  tauto

@[simp] theorem oneLine_cons {c : Char} {cs : List Char} :
    OneLine (c :: cs) ↔ (c ≠ '\n' ∧ c ≠ '\r') ∧ OneLine cs := by
  simp only [OneLine, List.mem_cons, not_or]
  tauto

theorem unifyNewlines_append {line : List Char} (h : OneLine line) (rest : List Char) :
    unifyNewlines (line ++ '\n' :: rest) = line ++ '\n' :: unifyNewlines rest := by
  induction line with
  | nil => rfl
  | cons c cs ih =>
    obtain ⟨hn, hr⟩ := h
    simp only [List.mem_cons, not_or] at hn hr
    rw [List.cons_append, unifyNewlines, ih ⟨hn.2, hr.2⟩, List.cons_append]
    all_goals grind

theorem unifyNewlines_eq_self {cs : List Char} (h : '\r' ∉ cs) : unifyNewlines cs = cs := by
  induction cs with
  | nil => rfl
  | cons c cs ih =>
    simp only [List.mem_cons, not_or] at h
    have hc : c ≠ '\r' := fun heq => h.1 heq.symm
    rw [unifyNewlines.eq_4 _ _ (fun _ heq _ => hc heq) hc, ih h.2]

theorem cutLines_append {line : List Char} (h : '\n' ∉ line) (front rest : List Char) :
    cutLines front (line ++ '\n' :: rest) =
      String.ofList (front.reverse ++ line ++ ['\n']) :: cutLines [] rest := by
  induction line generalizing front with
  | nil => simp [cutLines]
  | cons c cs ih =>
    simp only [List.mem_cons, not_or] at h
    rw [List.cons_append, cutLines, ih h.2]
    · simp
    · exact fun hc => h.1 hc.symm

theorem not_mem_unifyNewlines (cs : List Char) : '\r' ∉ unifyNewlines cs := by
  fun_induction unifyNewlines cs with
  | case1 => simp
  | case2 cs ih => simpa using ih
  | case3 cs _ ih => simpa using ih
  | case4 c cs _ hc ih =>
    simp only [List.mem_cons, not_or]
    exact ⟨fun heq => hc heq.symm, ih⟩

/-- A line that was cut out of a text has its end at its end only. -/
theorem exists_of_mem_cutLines {cs front : List Char} {line : String} (hfront : OneLine front)
    (hcs : '\r' ∉ cs) (h : line ∈ cutLines front cs) :
    ∃ body, OneLine body ∧ (line.toList = body ∨ line.toList = body ++ ['\n']) := by
  have hreverse : ∀ {front : List Char}, OneLine front → OneLine front.reverse := by
    intro front hfront
    simpa [OneLine] using hfront
  fun_induction cutLines front cs with
  | case1 front hempty => simp at h
  | case2 front hempty =>
    obtain rfl := List.mem_singleton.mp h
    exact ⟨front.reverse, hreverse hfront, .inl (by simp)⟩
  | case3 front cs ih =>
    simp only [List.mem_cons, not_or] at hcs
    rcases List.mem_cons.mp h with rfl | h
    · exact ⟨front.reverse, hreverse hfront, .inr (by simp)⟩
    · exact ih oneLine_nil hcs.2 h
  | case4 front c cs hc ih =>
    simp only [List.mem_cons, not_or] at hcs
    exact ih (oneLine_cons.mpr ⟨⟨hc, fun heq => hcs.1 heq.symm⟩, hfront⟩) hcs.2 h

/-- A line of a text is one line once it is stripped. -/
theorem oneLine_strip_of_mem_lines {cs : List Char} {line : String}
    (h : line ∈ lines (unifyNewlines cs)) : OneLine (strip line).toList := by
  obtain ⟨body, hbody, hline⟩ := exists_of_mem_cutLines oneLine_nil (not_mem_unifyNewlines cs) h
  have htrim : trim line.toList = trim body := by
    rcases hline with hline | hline
    · rw [hline]
    · rw [hline]
      exact trim_append_blank body (by simp [isBlank])
  rw [strip, String.toList_ofList, htrim]
  exact ⟨fun hc => hbody.1 (mem_of_mem_trim hc), fun hc => hbody.2 (mem_of_mem_trim hc)⟩

/-- Lines that are put together are found again. -/
theorem lines_flatMap {ls : List (List Char)} (h : ∀ l ∈ ls, OneLine l) :
    lines (unifyNewlines (ls.flatMap (· ++ ['\n']))) = ls.map fun l => String.ofList (l ++ ['\n']) := by
  induction ls with
  | nil => rfl
  | cons l ls ih =>
    have hl : OneLine l := h l List.mem_cons_self
    have ih := ih fun l hl => h l (List.mem_cons_of_mem _ hl)
    rw [List.flatMap_cons, List.append_assoc, List.singleton_append, unifyNewlines_append hl, lines,
      cutLines_append hl.1, List.reverse_nil, List.nil_append, List.map_cons]
    exact congrArg _ ih

/-- Lines that are put together are found again. -/
theorem lines_join {texts : List String} (h : ∀ line ∈ texts, OneLine line.toList) :
    lines (unifyNewlines (String.join (texts.map (· ++ "\n"))).toList) = texts.map (· ++ "\n") := by
  have hchars : (String.join (texts.map (· ++ "\n"))).toList =
      (texts.map String.toList).flatMap (· ++ ['\n']) := by
    simp [String.toList_join, List.flatMap_map]
  rw [hchars, lines_flatMap (by simpa using h), List.map_map]
  refine List.map_congr_left fun line _ => ?_
  simp [String.ofList_append]

end LineScript.Text
