import LineScript.Number.Decimal
import Mathlib

/-!
# Visible texts

The texts of numbers and quoted texts have no character below the blank, where line ends and other controls
are.
-/

namespace LineScript

namespace Text

/-- No character stands below the blank, where the line ends and the other controls are. -/
def Visible (cs : List Char) : Prop :=
  ∀ c ∈ cs, 32 ≤ c.toNat

variable {cs cs' : List Char}

@[simp] theorem visible_nil : Visible [] := by
  simp [Visible]

@[simp] theorem visible_cons {c : Char} : Visible (c :: cs) ↔ 32 ≤ c.toNat ∧ Visible cs :=
  List.forall_mem_cons

@[simp] theorem visible_append : Visible (cs ++ cs') ↔ Visible cs ∧ Visible cs' :=
  List.forall_mem_append

theorem Visible.subset (h : Visible cs) (hsub : cs' ⊆ cs) : Visible cs' :=
  fun c hc => h c (hsub hc)

theorem visible_replicate {n : Nat} {c : Char} (h : 32 ≤ c.toNat) : Visible (List.replicate n c) := by
  intro d hd
  rw [List.eq_of_mem_replicate hd]
  exact h

theorem Visible.return_not_mem (h : Visible cs) : '\r' ∉ cs :=
  fun hmem => absurd (h _ hmem) (by decide)

theorem Visible.newline_not_mem (h : Visible cs) : '\n' ∉ cs :=
  fun hmem => absurd (h _ hmem) (by decide)

theorem visible_digitChar (n : Nat) : 32 ≤ n.digitChar.toNat := by
  have hdigit : ∀ k < 16, 32 ≤ (Nat.digitChar k).toNat := by decide
  by_cases h : n < 16
  · exact hdigit n h
  · have hstar : n.digitChar = '*' := by
      unfold Nat.digitChar
      repeat rw [if_neg (by omega)]
    rw [hstar]
    decide

theorem visible_toDigitsCore (base fuel n : Nat) (h : Visible cs) :
    Visible (Nat.toDigitsCore base fuel n cs) := by
  induction fuel generalizing n cs with
  | zero => exact h
  | succ fuel ih =>
    have hfront : Visible ((n % base).digitChar :: cs) := visible_cons.mpr ⟨visible_digitChar _, h⟩
    rw [Nat.toDigitsCore]
    split
    · exact hfront
    · exact ih _ hfront

theorem visible_toDigits (base n : Nat) : Visible (Nat.toDigits base n) :=
  visible_toDigitsCore base _ n visible_nil

theorem visible_digits (base width n : Nat) : Visible (digits base width n) :=
  visible_append.mpr ⟨visible_replicate (by decide), visible_toDigits base n⟩

theorem visible_numbered (n : Nat) : Visible (numbered n) := by
  unfold numbered
  split_ifs <;> simp [visible_digits]

/-- Quoting leaves nothing below the blank, if nothing below it stands for itself. -/
theorem visible_enquote {plain : Char → Bool} (h : ∀ c, plain c = true → 32 ≤ c.toNat) (cs : List Char) :
    Visible (enquote plain cs) := by
  have hquote : 32 ≤ (quoteFor cs).toNat := by
    unfold quoteFor
    split <;> decide
  have hescaped : ∀ c, Visible (escaped plain (quoteFor cs) c) := by
    intro c
    unfold escaped
    split_ifs with hself hnewline hreturn htab hplain
    · have hc : 32 ≤ c.toNat := by
        simp only [Bool.or_eq_true, beq_iff_eq] at hself
        rcases hself with rfl | rfl
        · exact hquote
        · decide
      simpa using hc
    · simp
    · simp
    · simp
    · simpa using h c hplain
    · exact visible_numbered _
  have hbody : Visible (cs.flatMap (escaped plain (quoteFor cs))) := by
    intro c hc
    obtain ⟨d, -, hd⟩ := List.mem_flatMap.mp hc
    exact hescaped d c hd
  simp [enquote, hquote, hbody]

end Text

namespace Number

open Text

theorem visible_decimalText (n : Int) : Visible (decimalText n).toList := by
  unfold decimalText
  split <;> simp [visible_toDigits]

theorem visible_pointed {ds : List Char} (h : Visible ds) (places : Nat) (keepPoint : Bool) :
    Visible (pointed ds places keepPoint) := by
  have hfilled : Visible (List.replicate (places + 1 - ds.length) '0' ++ ds) :=
    visible_append.mpr ⟨visible_replicate (by decide), h⟩
  unfold pointed
  dsimp only
  split
  · exact hfilled.subset (List.take_subset _ _)
  · refine visible_append.mpr ⟨hfilled.subset (List.take_subset _ _), visible_cons.mpr ⟨by decide, ?_⟩⟩
    exact hfilled.subset (List.drop_subset _ _)

theorem visible_exponentText (e : Int) : Visible (exponentText e) := by
  unfold exponentText
  split <;> simp [visible_digits]

theorem visible_text (d : Decimal) {pointZero : List Char} (h : Visible pointZero) :
    Visible (d.text pointZero) := by
  have hdigits := visible_toDigits 10 d.digits
  unfold Decimal.text
  dsimp only
  split_ifs
  · exact visible_append.mpr ⟨visible_append.mpr ⟨hdigits, visible_replicate (by decide)⟩, h⟩
  · exact visible_pointed hdigits _ _
  · exact visible_append.mpr ⟨visible_pointed hdigits _ _, visible_exponentText _⟩

theorem visible_signed {cs : List Char} (negative : Bool) (h : Visible cs) :
    Visible (signed negative cs) := by
  cases negative <;> simpa [signed] using h

theorem visible_shortestText {pointZero : List Char} (h : Visible pointZero) (x : Float) :
    Visible (shortestText pointZero x) := by
  unfold shortestText
  cases shape x with
  | notANumber => simp
  | infinite negative => exact visible_signed negative (by simp)
  | finite d =>
    dsimp only
    split
    · exact visible_signed _ (visible_cons.mpr ⟨by decide, h⟩)
    · exact visible_signed _ (visible_text _ h)

theorem visible_complexText (re im : Float) : Visible (complexText re im).toList := by
  have hre := visible_shortestText visible_nil re
  have him := visible_shortestText visible_nil im
  unfold complexText
  dsimp only
  split
  · simp [him]
  · split <;> simp [hre, him]

end Number

end LineScript
