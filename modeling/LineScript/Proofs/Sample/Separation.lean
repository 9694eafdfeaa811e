import LineScript.Proofs.Number
import LineScript.Proofs.Text.Utf8
import LineScript.Sample.Fingerprint
import Mathlib

/-!
# Which samples the fingerprint tells apart

What a sample of integers and lists feeds to its fingerprint is a row of pieces: the text of each integer,
and a letter with a count for each list. The pieces determine the sample, but nothing stands between them,
so that digits may move from one integer to the next. Two samples that feed the same bytes are equal exactly
if their pieces have the same widths. This is so at once if every piece after the first begins with a mark.
-/

namespace LineScript.Sample

open Number

/-- Samples of integers and lists, in which at most `levels` lists nest and no list is too long to be fed
as a whole. -/
inductive Numeric : Nat → Sample → Prop where
  | int {levels : Nat} (n : Int) : Numeric levels (.value (.int n))
  | list {levels : Nat} {items : List Sample} (hlength : items.length ≤ itemLimit)
      (hitems : ∀ s ∈ items, Numeric levels s) : Numeric (levels + 1) (.list items)

mutual

/-- The pieces that a sample feeds: one for each integer, and one for each list before those of its items. -/
def pieces : Sample → List (List Char)
  | .value (.int n) => [(Number.decimalText n).toList]
  | .list items => ('L' :: (Number.decimalText items.length).toList) :: piecesAll items
  | _ => []

def piecesAll : List Sample → List (List Char)
  | [] => []
  | s :: rest => s.pieces ++ piecesAll rest

end

/-- How many characters each piece has. -/
def widths (s : Sample) : List Nat :=
  s.pieces.map List.length

/-- A text that does not begin with a digit. -/
def BeginsWithMark (cs : List Char) : Prop :=
  cs.head?.all (!·.isDigit) = true

/-- Every piece after the first begins with a mark: the sign of an integer, or the letter of a list. -/
def Marked (s : Sample) : Prop :=
  ∀ piece ∈ s.pieces.tail, BeginsWithMark piece

/-! ## The bytes of the pieces -/

section Feed

theorem feedItems_eq {depth : Nat} {items : List Sample}
    (h : ∀ s ∈ items, s.feed depth = s.pieces.flatten.flatMap Text.Utf8.encodeChar) :
    (feedItems depth items).flatten = (piecesAll items).flatten.flatMap Text.Utf8.encodeChar := by
  induction items with
  | nil => simp [feedItems, piecesAll]
  | cons s items ih =>
    obtain ⟨hs, hitems⟩ := List.forall_mem_cons.mp h
    simp [feedItems, piecesAll, hs, ih hitems]

theorem length_feedItems (depth : Nat) (items : List Sample) :
    (feedItems depth items).length = items.length := by
  induction items with
  | nil => rfl
  | cons s items ih => simp [feedItems, ih]

/-- A sample feeds the bytes of its pieces one after the other. -/
theorem Numeric.feed_eq {levels depth : Nat} {s : Sample} (h : Numeric levels s)
    (hdepth : levels + depth ≤ depthLimit) :
    s.feed depth = s.pieces.flatten.flatMap Text.Utf8.encodeChar := by
  induction h generalizing depth with
  | int n => simp [feed, valueFeed, pieces, Text.Utf8.encode]
  | @list levels items hlength _ ih =>
    have hdeep : ¬ depthLimit ≤ depth := by omega
    have hitems : ∀ s ∈ items, s.feed (depth + 1) = s.pieces.flatten.flatMap Text.Utf8.encodeChar :=
      fun s hs => ih s hs (by omega)
    have hall : sampled (feedItems (depth + 1) items) = feedItems (depth + 1) items := by
      rw [sampled, if_pos (by rwa [length_feedItems])]
    rw [feed, if_neg hdeep, hall, tagged, feedItems_eq hitems]
    simp [pieces, Text.Utf8.encode]

theorem flatMap_encodeChar_injective {cs ds : List Char}
    (h : cs.flatMap Text.Utf8.encodeChar = ds.flatMap Text.Utf8.encodeChar) : cs = ds := by
  have hcs := Text.Utf8.decode_flatMap_encodeChar cs
  rw [h, Text.Utf8.decode_flatMap_encodeChar] at hcs
  exact (Except.ok.inj hcs).symm

end Feed

/-! ## The pieces determine the sample -/

/-- The text of an integer is no letter with a count. -/
theorem decimalText_ne_letter (n : Int) (cs : List Char) :
    (Number.decimalText n).toList ≠ 'L' :: cs := by
  intro h
  exact not_mem_decimalText (by decide) (by decide) n (h ▸ List.mem_cons_self)

/-- Pieces in a row can be taken apart only in one way into those of a sample and a rest. -/
def Readable (a : Sample) : Prop :=
  ∀ {levels : Nat} {b : Sample}, Numeric levels b →
    ∀ {r r' : List (List Char)}, a.pieces ++ r = b.pieces ++ r' → a = b ∧ r = r'

/-- As many samples as are expected are read one after the other. -/
theorem piecesAll_append_inj {levels : Nat} {items others : List Sample}
    (hitems : ∀ s ∈ items, Readable s) (hothers : ∀ s ∈ others, Numeric levels s)
    (hlength : items.length = others.length) {r r' : List (List Char)}
    (h : piecesAll items ++ r = piecesAll others ++ r') : items = others ∧ r = r' := by
  induction items generalizing others r r' with
  | nil =>
    obtain rfl : others = [] := List.length_eq_zero_iff.mp hlength.symm
    exact ⟨rfl, h⟩
  | cons s items ih =>
    cases others with
    | nil => cases hlength
    | cons t others =>
      obtain ⟨hs, hitems'⟩ := List.forall_mem_cons.mp hitems
      obtain ⟨ht, hothers'⟩ := List.forall_mem_cons.mp hothers
      simp only [piecesAll, List.append_assoc] at h
      obtain ⟨rfl, hrest⟩ := hs ht h
      obtain ⟨rfl, hr⟩ := ih hitems' hothers' (by simpa using hlength) hrest
      exact ⟨rfl, hr⟩

/-- A list announces how many items follow, so its end needs no mark. -/
theorem Numeric.readable {levels : Nat} {a : Sample} (h : Numeric levels a) : Readable a := by
  induction h with
  | int m =>
    intro _ b hb r r' heq
    cases hb with
    | int n =>
      simp only [pieces, List.singleton_append, List.cons.injEq] at heq
      exact ⟨by rw [decimalText_injective heq.1], heq.2⟩
    | list =>
      simp only [pieces, List.cons_append, List.cons.injEq] at heq
      exact absurd heq.1 (decimalText_ne_letter m _)
  | @list levels items _ _ ih =>
    intro _ b hb r r' heq
    cases hb with
    | int n =>
      simp only [pieces, List.cons_append, List.cons.injEq] at heq
      exact absurd heq.1.symm (decimalText_ne_letter n _)
    | @list _ others _ hothers =>
      simp only [pieces, List.cons_append, List.cons.injEq, true_and] at heq
      have hlength : items.length = others.length := by
        have hcount := decimalText_injective heq.1
        omega
      obtain ⟨rfl, hr⟩ := piecesAll_append_inj ih hothers hlength heq.2
      exact ⟨rfl, hr⟩

theorem Numeric.eq_of_pieces_eq {levels levels' : Nat} {a b : Sample} (ha : Numeric levels a)
    (hb : Numeric levels' b) (h : a.pieces = b.pieces) : a = b :=
  (ha.readable hb (congrArg (· ++ []) h)).1

/-! ## Marks between pieces -/

def IsPiece (piece : List Char) : Prop :=
  ∃ c ds, piece = c :: ds ∧ ∀ d ∈ ds, d.isDigit = true

theorem isPiece_letter (n : Int) (h : 0 ≤ n) : IsPiece ('L' :: (Number.decimalText n).toList) := by
  refine ⟨'L', _, rfl, fun d hd => ?_⟩
  rw [toList_decimalText, if_neg (by omega)] at hd
  exact isDigit_of_mem_digits hd

theorem isPiece_int (n : Int) : IsPiece (Number.decimalText n).toList := by
  rw [toList_decimalText]
  split
  · exact ⟨'-', _, rfl, fun d hd => isDigit_of_mem_digits hd⟩
  · obtain ⟨c, ds, hdigits⟩ := List.exists_cons_of_ne_nil (Nat.toDigits_ne_nil (n := n.natAbs) (b := 10))
    rw [List.nil_append, hdigits]
    exact ⟨c, ds, rfl, fun d hd => isDigit_of_mem_digits (hdigits ▸ List.mem_cons_of_mem c hd)⟩

theorem Numeric.isPiece {levels : Nat} {s : Sample} (h : Numeric levels s) :
    ∀ piece ∈ s.pieces, IsPiece piece := by
  induction h with
  | int n => simpa [pieces] using isPiece_int n
  | @list levels items _ _ ih =>
    have hall : ∀ piece ∈ piecesAll items, IsPiece piece := by
      clear * - ih
      induction items with
      | nil => simp [piecesAll]
      | cons s items ih' =>
        obtain ⟨hs, hitems⟩ := List.forall_mem_cons.mp ih
        simp only [piecesAll, List.mem_append]
        rintro piece (hpiece | hpiece)
        · exact hs piece hpiece
        · exact ih' hitems piece hpiece
    simp only [pieces, List.forall_mem_cons]
    exact ⟨isPiece_letter _ (by omega), hall⟩

/-- Digits in front of something that begins with no digit. -/
theorem digits_append_inj {ds es rest rest' : List Char} (hds : ∀ d ∈ ds, d.isDigit = true)
    (hes : ∀ d ∈ es, d.isDigit = true) (hrest : BeginsWithMark rest) (hrest' : BeginsWithMark rest')
    (h : ds ++ rest = es ++ rest') :
    ds = es ∧ rest = rest' := by
  have htake : ∀ {ds rest : List Char}, (∀ d ∈ ds, d.isDigit = true) → BeginsWithMark rest →
      (ds ++ rest).takeWhile Char.isDigit = ds := by
    intro ds rest hds hrest
    rw [List.takeWhile_append_of_pos hds]
    cases rest with
    | nil => simp
    | cons c rest => simp_all [BeginsWithMark]
  have hsame : ds = es := by rw [← htake hds hrest, h, htake hes hrest']
  subst hsame
  exact ⟨rfl, List.append_cancel_left h⟩

theorem beginsWithMark_flatten {ps : List (List Char)} (hps : ∀ p ∈ ps, IsPiece p)
    (hmarks : ∀ p ∈ ps, BeginsWithMark p) : BeginsWithMark ps.flatten := by
  cases ps with
  | nil => rfl
  | cons p ps =>
    obtain ⟨c, ds, rfl, -⟩ := hps p List.mem_cons_self
    have hmark : BeginsWithMark (c :: ds) := hmarks _ List.mem_cons_self
    exact hmark

/-- Pieces with marks between them can be taken apart. -/
theorem eq_of_flatten_eq {ps qs : List (List Char)} (hps : ∀ p ∈ ps, IsPiece p)
    (hqs : ∀ q ∈ qs, IsPiece q) (hmarks : ∀ p ∈ ps.tail, BeginsWithMark p)
    (hmarks' : ∀ q ∈ qs.tail, BeginsWithMark q) (h : ps.flatten = qs.flatten) : ps = qs := by
  induction ps generalizing qs with
  | nil =>
    cases qs with
    | nil => rfl
    | cons q qs =>
      obtain ⟨c, ds, rfl, -⟩ := hqs _ List.mem_cons_self
      simp at h
  | cons p ps ih =>
    obtain ⟨⟨c, ds, rfl, hds⟩, hps'⟩ := List.forall_mem_cons.mp hps
    cases qs with
    | nil => simp at h
    | cons q qs =>
      obtain ⟨⟨d, es, rfl, hes⟩, hqs'⟩ := List.forall_mem_cons.mp hqs
      have hmark := beginsWithMark_flatten hps' hmarks
      have hmark' := beginsWithMark_flatten hqs' hmarks'
      simp only [List.flatten_cons, List.cons_append, List.cons.injEq] at h
      obtain ⟨hds', hrest⟩ := digits_append_inj hds hes hmark hmark' h.2
      have htails : ps = qs := ih hps' hqs' (fun p hp => hmarks p (List.mem_of_mem_tail hp))
        (fun q hq => hmarks' q (List.mem_of_mem_tail hq)) hrest
      rw [h.1, hds', htails]

/-! ## Separation -/

/-- Two samples of integers and lists that feed the same bytes are equal exactly if their pieces have the
same widths, and in any case if every piece after the first begins with a mark. -/
theorem eq_iff_widths_of_feed_eq {a b : Sample} (ha : Numeric depthLimit a) (hb : Numeric depthLimit b)
    (hfeed : a.feed 0 = b.feed 0) :
    (a = b ↔ a.widths = b.widths) ∧ (a.Marked → b.Marked → a = b) := by
  have hflatten : a.pieces.flatten = b.pieces.flatten := by
    rw [ha.feed_eq (Nat.le_refl _), hb.feed_eq (Nat.le_refl _)] at hfeed
    exact flatMap_encodeChar_injective hfeed
  refine ⟨⟨fun h => h ▸ rfl, fun hwidths => ?_⟩, fun hmarked hmarked' => ?_⟩
  · exact ha.eq_of_pieces_eq hb (List.eq_iff_flatten_eq.mpr ⟨hflatten, hwidths⟩)
  · exact ha.eq_of_pieces_eq hb (eq_of_flatten_eq ha.isPiece hb.isPiece hmarked hmarked' hflatten)

/-- Two lists of two integers, where a digit stands in the second or in the first. -/
def digitBehind : Sample := .list [.int 1, .int 23]

def digitBefore : Sample := .list [.int 12, .int 3]

theorem numeric_pair (m n : Int) : Numeric depthLimit (.list [.int m, .int n]) := by
  refine .list (by simp [itemLimit]) fun s hs => ?_
  simp only [List.mem_cons, List.not_mem_nil, or_false] at hs
  rcases hs with rfl | rfl
  · exact .int m
  · exact .int n

theorem numeric_digitBehind : Numeric depthLimit digitBehind :=
  numeric_pair 1 23

theorem numeric_digitBefore : Numeric depthLimit digitBefore :=
  numeric_pair 12 3

theorem feed_digitBehind : digitBehind.feed 0 = digitBefore.feed 0 := by
  decide +kernel

/-- The widths tell these two apart. -/
theorem digitBehind_ne_of_widths :
    digitBehind.widths = [2, 1, 2] ∧ digitBefore.widths = [2, 2, 1] ∧ digitBehind ≠ digitBefore := by
  have hbehind : digitBehind.widths = [2, 1, 2] := by decide +kernel
  have hbefore : digitBefore.widths = [2, 2, 1] := by decide +kernel
  refine ⟨hbehind, hbefore, fun h => ?_⟩
  have hseparated := eq_iff_widths_of_feed_eq numeric_digitBehind numeric_digitBefore feed_digitBehind
  have hwidths := hseparated.1.mp h
  rw [hbehind, hbefore] at hwidths
  simp at hwidths

/-- Samples of integers and lists that feed the same bytes need not be equal: these two differ, and have the
same fingerprint. -/
theorem fingerprint_confuses_moved_digit :
    (¬ ∀ a b : Sample, Numeric depthLimit a → Numeric depthLimit b → a.feed 0 = b.feed 0 → a = b) ∧
      digitBehind.fingerprint = digitBefore.fingerprint := by
  refine ⟨fun hall => ?_, ?_⟩
  · have hsame : digitBehind = digitBefore :=
      hall _ _ numeric_digitBehind numeric_digitBefore feed_digitBehind
    simp [digitBehind, digitBefore, Sample.int] at hsame
  · rw [fingerprint, fingerprint, fingerprintAt, fingerprintAt, feed_digitBehind]

end LineScript.Sample
