import LineScript.Json
import LineScript.Proofs.Number
import Mathlib

/-!
# Reading numbers back

The text of an integer is read as this integer, and the text of a double as some double, as long as nothing
follows that would go on with the number.
-/

namespace LineScript.Json

/-- What follows does not go on with a number. -/
def Ended (cs : List Char) : Prop :=
  ∀ c ∈ cs.head?, c.isDigit = false ∧ c ≠ '.' ∧ c ≠ 'e' ∧ c ≠ 'E'

/-- Digits that do not begin with a zero. -/
def Leading (ds : List Char) : Prop :=
  ds ≠ [] ∧ ds.head? ≠ some '0' ∧ ∀ c ∈ ds, c.isDigit = true

/-- Whole digits: a zero alone, or digits that do not begin with one. -/
def Whole (ds : List Char) : Prop :=
  ds = ['0'] ∨ Leading ds

@[simp]
theorem ok_bind (a : α) (f : α → Except ε β) : (Except.ok a >>= f) = f a := rfl

@[simp]
theorem takeChar_self {c : Char} {rest : List Char} : (takeChar c).run (c :: rest) = .ok (true, rest) := by
  simp [takeChar]
  rfl

theorem takeChar_of_ne {c d : Char} {rest : List Char} (h : c ≠ d) :
    (takeChar c).run (d :: rest) = .ok (false, d :: rest) := by
  simp [takeChar, h]
  rfl

section Parts

variable {ds rest : List Char}

/-- The digits are taken as far as they go. -/
theorem takeDigits_run (hds : ∀ c ∈ ds, c.isDigit = true) (hrest : ∀ c ∈ rest.head?, c.isDigit = false) :
    takeDigits.run (ds ++ rest) = .ok (ds, rest) := by
  have hspan : (ds ++ rest).span Char.isDigit = (ds, rest) := by
    rw [List.span_eq_takeWhile_dropWhile, List.takeWhile_append_of_pos hds, List.dropWhile_append_of_pos hds]
    cases rest with
    | nil => simp
    | cons c rest =>
      have hc := hrest c rfl
      simp [hc]
  simp only [takeDigits, StateT.run_bind, StateT.run_get, pure_bind, hspan]
  rfl

theorem readWhole_run (hds : Whole ds) (hrest : ∀ c ∈ rest.head?, c.isDigit = false) :
    readWhole.run (ds ++ rest) = .ok (ds, rest) := by
  rcases hds with rfl | ⟨hne, hhead, hdigits⟩
  · rfl
  · obtain ⟨c, cs, rfl⟩ := List.exists_cons_of_ne_nil hne
    have hc : c ≠ '0' := by simpa using hhead
    rw [← takeDigits_run hdigits hrest]
    simp only [readWhole, StateT.run_bind, StateT.run_get, pure_bind]
    split
    · rename_i rest' heq
      exact absurd (List.cons.inj heq).1 hc
    · rfl

theorem readFraction_run {d : Char} (hd : d.isDigit = true) (hds : ∀ c ∈ ds, c.isDigit = true)
    (hrest : ∀ c ∈ rest.head?, c.isDigit = false) :
    readFraction.run ('.' :: d :: ds ++ rest) = .ok (some (d :: ds), rest) := by
  have hall : ∀ c ∈ d :: ds, c.isDigit = true := List.forall_mem_cons.mpr ⟨hd, hds⟩
  have hdigits := takeDigits_run hall hrest
  simp only [List.cons_append] at hdigits
  simp only [readFraction, StateT.run_bind, StateT.run_get, StateT.run_set, pure_bind, List.cons_append, hd,
    if_true, hdigits, ok_bind]
  rfl

theorem readFraction_of_ne (h : ∀ c ∈ rest.head?, c ≠ '.') : readFraction.run rest = .ok (none, rest) := by
  simp only [readFraction, StateT.run_bind, StateT.run_get, pure_bind]
  split
  · exact absurd rfl (h '.' rfl)
  · rfl

/-- The number that the digits of an exponent stand for. -/
def exponentValue (negative : Bool) (ds : List Char) : Int :=
  (if negative then -1 else 1) * decimalValue ds

theorem readExponent_run {negative : Bool} {d : Char} (hd : d.isDigit = true) (hds : ∀ c ∈ ds, c.isDigit = true)
    (hrest : ∀ c ∈ rest.head?, c.isDigit = false) :
    readExponent.run ('e' :: (if negative then '-' else '+') :: d :: ds ++ rest) =
      .ok (some (exponentValue negative (d :: ds)), rest) := by
  have hall : ∀ c ∈ d :: ds, c.isDigit = true := List.forall_mem_cons.mpr ⟨hd, hds⟩
  have hdigits := takeDigits_run hall hrest
  simp only [List.cons_append] at hdigits
  cases negative
  all_goals
    simp only [readExponent, StateT.run_bind, StateT.run_get, pure_bind, List.cons_append]
    simp [hd, hdigits, exponentValue]

theorem readExponent_of_ended (h : Ended rest) : readExponent.run rest = .ok (none, rest) := by
  cases rest with
  | nil => rfl
  | cons c rest =>
    obtain ⟨-, -, he, hE⟩ := h c rfl
    simp only [readExponent, StateT.run_bind, StateT.run_get, pure_bind]
    simp [he, hE]
    rfl

end Parts

theorem Whole.ne_nil {ds : List Char} (h : Whole ds) : ds ≠ [] := by
  rcases h with rfl | ⟨hne, -, -⟩
  · simp
  · exact hne

theorem Whole.isDigit {ds : List Char} (h : Whole ds) : ∀ c ∈ ds, c.isDigit = true := by
  rcases h with rfl | ⟨-, -, hdigits⟩
  · exact List.forall_mem_singleton.mpr rfl
  · exact hdigits

/-- A number is read part by part. -/
theorem readNumber_run {whole tail middle rest : List Char} {fraction : Option (List Char)}
    {exponent : Option Int} (negative : Bool) (hwhole : Whole whole)
    (htail : ∀ c ∈ tail.head?, c.isDigit = false) (hfraction : readFraction.run tail = .ok (fraction, middle))
    (hexponent : readExponent.run middle = .ok (exponent, rest)) :
    readNumber.run (Number.signed negative whole ++ tail) = (numberOf negative whole fraction exponent).run rest := by
  have hsign : (takeChar '-').run (Number.signed negative whole ++ tail) = .ok (negative, whole ++ tail) := by
    cases negative with
    | true => exact takeChar_self
    | false =>
      obtain ⟨c, cs, rfl⟩ := List.exists_cons_of_ne_nil hwhole.ne_nil
      refine takeChar_of_ne fun hc => ?_
      have hdigit := hwhole.isDigit c List.mem_cons_self
      rw [← hc] at hdigit
      revert hdigit
      decide
  have hsome : whole.isEmpty = false := List.isEmpty_eq_false_iff.mpr hwhole.ne_nil
  simp only [readNumber, StateT.run_bind, StateT.run_get, pure_bind, hsign, ok_bind, readWhole_run hwhole htail,
    hsome, Bool.false_eq_true, if_false, hfraction, hexponent]

/-! ## Integers -/

theorem leading_digits {n : Nat} (hn : n ≠ 0) : Leading (Nat.toDigits 10 n) :=
  ⟨Nat.toDigits_ne_nil, Number.head?_digits_ne_zero hn, fun _ => Number.isDigit_of_mem_digits⟩

theorem whole_digits (n : Nat) : Whole (Nat.toDigits 10 n) := by
  by_cases hn : n = 0
  · exact .inl (by rw [hn]; rfl)
  · exact .inr (leading_digits hn)

theorem decimalText_eq_signed (n : Int) :
    (Number.decimalText n).toList = Number.signed (decide (n < 0)) (Nat.toDigits 10 n.natAbs) := by
  rw [Number.toList_decimalText, Number.signed]
  by_cases hn : n < 0 <;> simp [hn]

/-- An integer is read back. -/
theorem readNumber_decimalText {n : Int} (hn : Number.hasText n = true) {rest : List Char} (hrest : Ended rest) :
    readNumber.run ((Number.decimalText n).toList ++ rest) = .ok (.int n, rest) := by
  have hvalue : decimalValue (Nat.toDigits 10 n.natAbs) = n.natAbs := Nat.ofDigitChars_ten_toDigits
  have hlength : ¬ Number.digitLimit < (Nat.toDigits 10 n.natAbs).length :=
    Nat.not_lt.mpr (Number.length_digits_le hn)
  rw [decimalText_eq_signed, readNumber_run _ (whole_digits _) (fun c hc => (hrest c hc).1)
    (readFraction_of_ne fun c hc => (hrest c hc).2.1) (readExponent_of_ended hrest)]
  have hsigned : (if decide (n < 0) = true then -(n.natAbs : Int) else n.natAbs) = n := by
    simp only [decide_eq_true_eq]
    omega
  simp only [numberOf, Option.isNone_none, Bool.and_self, if_true, hlength, if_false, hvalue, hsigned]
  rfl

/-! ## Doubles -/

/-- A text that begins with a digit and is read as a double, with or without a sign. -/
def ReadsAsDouble (body : List Char) : Prop :=
  (∃ c cs, body = c :: cs ∧ c.isDigit = true) ∧ ∃ y : Bool → Float, ∀ negative rest, Ended rest →
    readNumber.run (Number.signed negative body ++ rest) = .ok (.float (y negative), rest)

theorem signed_append (negative : Bool) (cs cs' : List Char) :
    Number.signed negative (cs ++ cs') = Number.signed negative cs ++ cs' := by
  cases negative <;> rfl

/-- Digits are a double if a fraction or an exponent is read behind them. -/
theorem readsAsDouble_of {whole tail : List Char} (fraction : Option (List Char)) (exponent : Option Int)
    (hwhole : Whole whole) (hsome : (fraction.isNone && exponent.isNone) = false)
    (htail : ∀ rest, Ended rest → ∀ c ∈ (tail ++ rest).head?, c.isDigit = false)
    (hread : ∀ rest, Ended rest → ∃ middle, readFraction.run (tail ++ rest) = .ok (fraction, middle) ∧
      readExponent.run middle = .ok (exponent, rest)) : ReadsAsDouble (whole ++ tail) := by
  refine ⟨?_, fun negative => Number.ofDecimal negative (decimalValue (whole ++ fraction.getD []))
    (exponent.getD 0 - (fraction.getD []).length), fun negative rest hrest => ?_⟩
  · obtain ⟨c, cs, rfl⟩ := List.exists_cons_of_ne_nil hwhole.ne_nil
    exact ⟨c, cs ++ tail, rfl, hwhole.isDigit c List.mem_cons_self⟩
  obtain ⟨middle, hfraction, hexponent⟩ := hread rest hrest
  rw [signed_append, List.append_assoc, readNumber_run negative hwhole (htail rest hrest) hfraction hexponent]
  simp only [numberOf, hsome, Bool.false_eq_true, if_false]
  rfl

section Doubles

variable {whole places : List Char}

theorem exists_exponentText (e : Int) :
    ∃ d ds, Number.exponentText e = 'e' :: (if decide (e < 0) then '-' else '+') :: d :: ds ∧
      d.isDigit = true ∧ ∀ c ∈ ds, c.isDigit = true := by
  have hall : ∀ c ∈ Text.digits 10 2 e.natAbs, c.isDigit = true := by
    intro c hc
    rcases List.mem_append.mp hc with hc | hc
    · rw [List.eq_of_mem_replicate hc]
      rfl
    · exact Number.isDigit_of_mem_digits hc
  have hne : Text.digits 10 2 e.natAbs ≠ [] := List.append_ne_nil_of_right_ne_nil _ Nat.toDigits_ne_nil
  obtain ⟨d, ds, hdigits⟩ := List.exists_cons_of_ne_nil hne
  rw [hdigits] at hall
  obtain ⟨hd, hds⟩ := List.forall_mem_cons.mp hall
  refine ⟨d, ds, ?_, hd, hds⟩
  rw [Number.exponentText, hdigits]
  simp

theorem exists_exponent (e : Int) :
    ∃ n, ∀ rest, Ended rest → readExponent.run (Number.exponentText e ++ rest) = .ok (some n, rest) := by
  obtain ⟨d, ds, htext, hd, hds⟩ := exists_exponentText e
  rw [htext]
  exact ⟨_, fun rest hrest => readExponent_run hd hds fun c hc => (hrest c hc).1⟩

/-- Digits with a fraction are a double. -/
theorem readsAsDouble_fraction (hwhole : Whole whole) (hne : places ≠ [])
    (hplaces : ∀ c ∈ places, c.isDigit = true) : ReadsAsDouble (whole ++ '.' :: places) := by
  obtain ⟨d, ds, rfl⟩ := List.exists_cons_of_ne_nil hne
  obtain ⟨hd, hds⟩ := List.forall_mem_cons.mp hplaces
  refine readsAsDouble_of (some (d :: ds)) none hwhole rfl (by simp) fun rest hrest => ?_
  exact ⟨rest, readFraction_run hd hds fun c hc => (hrest c hc).1, readExponent_of_ended hrest⟩

/-- Digits with an exponent are a double. -/
theorem readsAsDouble_exponent (hwhole : Whole whole) (e : Int) :
    ReadsAsDouble (whole ++ Number.exponentText e) := by
  obtain ⟨n, hexponent⟩ := exists_exponent e
  refine readsAsDouble_of none (some n) hwhole rfl ?_ fun rest hrest => ⟨_, ?_, hexponent rest hrest⟩
  · simp [Number.exponentText]
  · exact readFraction_of_ne (by simp [Number.exponentText])

/-- Digits with a fraction and an exponent are a double. -/
theorem readsAsDouble_fraction_exponent (hwhole : Whole whole) (hne : places ≠ [])
    (hplaces : ∀ c ∈ places, c.isDigit = true) (e : Int) :
    ReadsAsDouble (whole ++ '.' :: places ++ Number.exponentText e) := by
  obtain ⟨d, ds, rfl⟩ := List.exists_cons_of_ne_nil hne
  obtain ⟨hd, hds⟩ := List.forall_mem_cons.mp hplaces
  obtain ⟨n, hexponent⟩ := exists_exponent e
  rw [List.append_assoc]
  refine readsAsDouble_of (some (d :: ds)) (some n) hwhole rfl (by simp) fun rest hrest => ?_
  refine ⟨_, ?_, hexponent rest hrest⟩
  rw [List.append_assoc]
  exact readFraction_run hd hds (by simp [Number.exponentText])

theorem isDigit_of_mem_padded {ds : List Char} (hds : ∀ c ∈ ds, c.isDigit = true) {n : Nat} {c : Char}
    (hc : c ∈ List.replicate n '0' ++ ds) : c.isDigit = true := by
  rcases List.mem_append.mp hc with hc | hc
  · rw [List.eq_of_mem_replicate hc]
    rfl
  · exact hds c hc

/-- Digits with a point among them: either none stands behind it and it is left out, or some do. -/
theorem pointed_cases {ds : List Char} (hds : Leading ds) (count : Nat) :
    (count = 0 ∧ Number.pointed ds count false = ds) ∨
      ∃ whole places, Number.pointed ds count false = whole ++ '.' :: places ∧ Whole whole ∧ places ≠ [] ∧
        ∀ c ∈ places, c.isDigit = true := by
  obtain ⟨hne, hhead, hdigits⟩ := hds
  have hpos : 0 < ds.length := List.length_pos_iff.mpr hne
  by_cases hcount : count = 0
  · subst hcount
    have hpad : 0 + 1 - ds.length = 0 := by omega
    exact .inl ⟨rfl, by simp [Number.pointed, hpad]⟩
  · refine .inr ?_
    let padded := List.replicate (count + 1 - ds.length) '0' ++ ds
    have hlength : padded.length = count + 1 - ds.length + ds.length := by simp [padded]
    refine ⟨padded.take (padded.length - count), padded.drop (padded.length - count), ?_, ?_, ?_, ?_⟩
    · simp [Number.pointed, hcount, padded]
    · by_cases hlong : count < ds.length
      -- The digits are enough, and the first of them stands before the point.
      · have hpad : count + 1 - ds.length = 0 := by omega
        have hpadded : padded = ds := by simp [padded, hpad]
        rw [hpadded]
        refine .inr ⟨?_, ?_, fun c hc => hdigits c (List.mem_of_mem_take hc)⟩
        · rw [ne_eq, List.take_eq_nil_iff]
          rintro (h | h)
          · omega
          · exact hne h
        · rw [List.head?_take, if_neg (by omega)]
          exact hhead
      -- A zero is put before the point.
      · obtain ⟨k, hk⟩ : ∃ k, count + 1 - ds.length = k + 1 := ⟨count - ds.length, by omega⟩
        have hone : padded.length - count = 1 := by omega
        rw [hone]
        exact .inl (by simp [padded, hk, List.replicate_succ])
    · intro hnone
      have hdrop := congrArg List.length hnone
      rw [List.length_drop, List.length_nil] at hdrop
      omega
    · exact fun c hc => isDigit_of_mem_padded hdigits (List.mem_of_mem_drop hc)

theorem readsAsDouble_text {d : Number.Decimal} (hd : d.digits ≠ 0) : ReadsAsDouble (d.text ['.', '0']) := by
  have hlead := leading_digits hd
  have ⟨hne, hhead, hdigits⟩ := hlead
  unfold Number.Decimal.text
  dsimp only
  split
  · split
    -- Zeros are put behind the digits.
    · refine @readsAsDouble_fraction _ ['0'] (.inr ⟨?_, ?_, ?_⟩) (by simp) (by simp)
      · exact List.append_ne_nil_of_left_ne_nil hne _
      · rwa [List.head?_append_of_ne_nil _ hne]
      · intro c hc
        rcases List.mem_append.mp hc with hc | hc
        · exact hdigits c hc
        · rw [List.eq_of_mem_replicate hc]
          rfl
    · rename_i hexponent
      rcases pointed_cases hlead (-d.exponent).toNat with ⟨hcount, -⟩ | ⟨whole, places, heq, hwhole, hplaces, hall⟩
      · omega
      · rw [heq]
        exact readsAsDouble_fraction hwhole hplaces hall
  · rcases pointed_cases hlead ((Nat.toDigits 10 d.digits).length - 1) with
      ⟨-, heq⟩ | ⟨whole, places, heq, hwhole, hplaces, hall⟩
    · rw [heq]
      exact readsAsDouble_exponent (whole_digits _) _
    · rw [heq]
      exact readsAsDouble_fraction_exponent hwhole hplaces hall _

end Doubles

def NumberStart (cs : List Char) : Prop :=
  ∃ negative c cs', cs = Number.signed negative (c :: cs') ∧ c.isDigit = true

theorem NumberStart.append {cs : List Char} (h : NumberStart cs) (rest : List Char) : NumberStart (cs ++ rest) := by
  obtain ⟨negative, c, cs', rfl, hc⟩ := h
  exact ⟨negative, c, cs' ++ rest, (signed_append negative (c :: cs') rest).symm, hc⟩

theorem numberStart_decimalText (n : Int) : NumberStart (Number.decimalText n).toList := by
  obtain ⟨c, cs, hdigits⟩ := List.exists_cons_of_ne_nil (@Nat.toDigits_ne_nil n.natAbs 10)
  refine ⟨decide (n < 0), c, cs, by rw [decimalText_eq_signed, hdigits], ?_⟩
  exact Number.isDigit_of_mem_digits (hdigits ▸ List.mem_cons_self)

/-- The text of a finite double is read as a double. -/
theorem readNumber_floatText {x : Float} {value : Number.Dyadic} (hx : Number.shape x = .finite value) :
    NumberStart (Number.floatText x).toList ∧
      ∃ y, ∀ rest, Ended rest → readNumber.run ((Number.floatText x).toList ++ rest) = .ok (.float y, rest) := by
  have hbody : ∃ body, (Number.floatText x).toList = Number.signed value.negative body ∧ ReadsAsDouble body := by
    rw [Number.floatText, String.toList_ofList, Number.shortestText, hx]
    dsimp only
    split
    · exact ⟨_, rfl, @readsAsDouble_fraction ['0'] ['0'] (.inl rfl) (by simp) (by simp)⟩
    · rename_i hmantissa
      exact ⟨_, rfl, readsAsDouble_text (Number.Dyadic.shortest_ne_zero (by simpa using hmantissa))⟩
  obtain ⟨body, htext, ⟨c, cs, rfl, hc⟩, y, hy⟩ := hbody
  rw [htext]
  exact ⟨⟨_, c, cs, rfl, hc⟩, y value.negative, hy value.negative⟩

end LineScript.Json
