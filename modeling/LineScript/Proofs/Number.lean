import LineScript.Number.Decimal
import Mathlib

/-!
# The text of an integer

The digits of an integer, behind a sign if it is negative, determine it.
-/

namespace LineScript.Number

theorem toList_decimalText (n : Int) :
    (decimalText n).toList = (if n < 0 then ['-'] else []) ++ Nat.toDigits 10 n.natAbs := by
  unfold decimalText
  split <;> simp

theorem isDigit_of_mem_digits {n : Nat} {c : Char} (h : c ∈ Nat.toDigits 10 n) : c.isDigit = true :=
  Nat.isDigit_of_mem_toDigits (by decide) (by decide) h

theorem sign_not_mem_digits (n : Nat) : '-' ∉ Nat.toDigits 10 n := by
  intro h
  have hdigit := isDigit_of_mem_digits h
  revert hdigit
  decide

/-- There are only digits and the sign in the text of an integer. -/
theorem not_mem_decimalText {c : Char} (hsign : c ≠ '-') (hdigit : c.isDigit = false) (n : Int) :
    c ∉ (decimalText n).toList := by
  intro hmem
  rw [toList_decimalText, List.mem_append] at hmem
  rcases hmem with hmem | hmem
  · split at hmem
    · exact hsign (List.mem_singleton.mp hmem)
    · cases hmem
  · rw [isDigit_of_mem_digits hmem] at hdigit
    cases hdigit

theorem digits_injective {m n : Nat} (h : Nat.toDigits 10 m = Nat.toDigits 10 n) : m = n := by
  calc
    m = Nat.ofDigitChars 10 (Nat.toDigits 10 m) 0 := Nat.ofDigitChars_ten_toDigits.symm
    _ = Nat.ofDigitChars 10 (Nat.toDigits 10 n) 0 := by rw [h]
    _ = n := Nat.ofDigitChars_ten_toDigits

theorem decimalText_injective {m n : Int}
    (h : (decimalText m).toList = (decimalText n).toList) : m = n := by
  rw [toList_decimalText, toList_decimalText] at h
  by_cases hm : m < 0
  · by_cases hn : n < 0
    · simp only [hm, hn, if_true, List.singleton_append, List.cons.injEq, true_and] at h
      have habs := digits_injective h
      omega
    · simp only [hm, hn, if_true, if_false, List.singleton_append, List.nil_append] at h
      exact absurd (h ▸ List.mem_cons_self) (sign_not_mem_digits n.natAbs)
  · by_cases hn : n < 0
    · simp only [hm, hn, if_true, if_false, List.singleton_append, List.nil_append] at h
      exact absurd (h ▸ List.mem_cons_self) (sign_not_mem_digits m.natAbs)
    · simp only [hm, hn, if_false, List.nil_append] at h
      have habs := digits_injective h
      omega

theorem hasText_iff (n : Int) : hasText n = true ↔ n.natAbs < 10 ^ digitLimit := by
  unfold hasText
  generalize digitLimit = d
  have hfew : n.natAbs.log2 < 3 * d → n.natAbs < 10 ^ d := by
    intro hlog
    calc
      n.natAbs < 2 ^ (n.natAbs.log2 + 1) := Nat.lt_log2_self
      _ ≤ 2 ^ (3 * d) := Nat.pow_le_pow_right (by decide) hlog
      _ = 8 ^ d := by rw [Nat.pow_mul]
      _ ≤ 10 ^ d := Nat.pow_le_pow_left (by decide) _
  simp only [Bool.or_eq_true, decide_eq_true_eq, Nat.pow_eq]
  exact or_iff_right_of_imp hfew

theorem length_digits_le {n : Int} (h : hasText n = true) :
    (Nat.toDigits 10 n.natAbs).length ≤ digitLimit := by
  rw [hasText_iff] at h
  exact (Nat.length_toDigits_le_iff (by decide) (by decide)).mpr h

/-- The digits of a number that is not zero do not begin with a zero. -/
theorem head?_digits_ne_zero {n : Nat} (hn : n ≠ 0) : (Nat.toDigits 10 n).head? ≠ some '0' := by
  induction n using Nat.strongRecOn with
  | ind n ih =>
    rw [Nat.toDigits_eq_if (by decide)]
    split
    · rename_i hlt
      have hdigit : ∀ m < 10, m ≠ 0 → [m.digitChar].head? ≠ some '0' := by decide
      exact hdigit n hlt hn
    · have hfront := ih (n / 10) (by omega) (by omega)
      rwa [List.head?_append_of_ne_nil _ Nat.toDigits_ne_nil]

/-! ## The digits of a double -/

theorem scale_pos {num den base : Nat} {power : Int} (hnum : 0 < num) (hden : 0 < den) (hbase : 0 < base) :
    0 < (scale num den base power).1 ∧ 0 < (scale num den base power).2 := by
  unfold scale
  split
  · exact ⟨Nat.mul_pos hnum (Nat.pow_pos hbase), hden⟩
  · exact ⟨hnum, Nat.mul_pos hden (Nat.pow_pos hbase)⟩

theorem le_roundDiv (num den : Nat) : num / den ≤ roundDiv num den := by
  unfold roundDiv
  dsimp only
  split <;> omega

structure Interval.Positive (i : Interval) : Prop where
  low : 0 < i.low
  high : 0 < i.high
  den : 0 < i.den

theorem Dyadic.interval_positive {x : Dyadic} (hx : x.mantissa ≠ 0) : x.interval.Positive := by
  obtain ⟨hunit, hden⟩ := @scale_pos 1 1 2 (x.exponent - 2) (by decide) (by decide) (by decide)
  refine ⟨Nat.mul_pos ?_ hunit, Nat.mul_pos (by omega) hunit, hden⟩
  split <;> omega

theorem Interval.Positive.holds_zero {i : Interval} (hi : i.Positive) {factor : Nat} (hfactor : 0 < factor) :
    i.holds 0 (i.den * factor) = false := by
  have hquotient : i.den * factor / i.den = factor := Nat.mul_div_cancel_left factor hi.den
  have hlow : 0 < i.low * factor := Nat.mul_pos hi.low hfactor
  have hhigh : 0 < i.high * factor := Nat.mul_pos hi.high hfactor
  simp [holds, hquotient, hlow.ne, hhigh.ne]

/-- Zero is no point of the grid in an interval above it. -/
theorem Interval.Positive.gridPoint?_ne_zero {i : Interval} (hi : i.Positive) {e : Int} {n : Nat}
    (h : i.gridPoint? e = some n) : n ≠ 0 := by
  obtain ⟨-, hfactor⟩ := @scale_pos 1 1 10 e (by decide) (by decide) (by decide)
  have hzero := hi.holds_zero hfactor
  rintro rfl
  unfold gridPoint? at h
  dsimp only at h
  generalize hunit : (scale 1 1 10 e).1 * i.den = step at h
  generalize hpoint : i.mid * (scale 1 1 10 e).2 = point at h
  have hbelow := le_roundDiv point step
  split at h
  · rename_i hhits
    have hnone : point / step = 0 := Nat.le_zero.mp (hbelow.trans_eq (Option.some.inj h))
    rw [hnone, Nat.zero_mul, hzero] at hhits
    simp at hhits
  · split at h
    · rename_i hhits
      rw [Option.some.inj h, Nat.zero_mul, hzero] at hhits
      cases hhits
    · split at h
      · cases h
      · cases h

theorem Interval.Positive.shortestFrom_ne_zero {i : Interval} (hi : i.Positive) (fuel : Nat) (e : Int) :
    (i.shortestFrom fuel e).digits ≠ 0 := by
  induction fuel generalizing e with
  | zero =>
    unfold shortestFrom
    dsimp only
    omega
  | succ fuel ih =>
    unfold shortestFrom
    split
    · rename_i n hn
      exact hi.gridPoint?_ne_zero hn
    · exact ih (e - 1)

theorem Decimal.reduce_ne_zero {d : Decimal} (hd : d.digits ≠ 0) (fuel : Nat) : (d.reduce fuel).digits ≠ 0 := by
  induction fuel generalizing d with
  | zero => exact hd
  | succ fuel ih =>
    unfold reduce
    split
    · rename_i hlast
      simp only [Bool.and_eq_true, beq_iff_eq] at hlast
      refine ih ?_
      dsimp only
      omega
    · exact hd

/-- The digits of a double that is not zero are not zero. -/
theorem Dyadic.shortest_ne_zero {x : Dyadic} (hx : x.mantissa ≠ 0) : x.shortest.digits ≠ 0 :=
  Decimal.reduce_ne_zero ((x.interval_positive hx).shortestFrom_ne_zero _ _) _

end LineScript.Number
