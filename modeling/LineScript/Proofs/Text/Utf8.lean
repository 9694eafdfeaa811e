import LineScript.Text.Utf8

/-!
# Decoding what was encoded

A text is read back from its bytes, at once or chunk by chunk. Where a chunk ends in the middle of a
character, the decoder stops before that character and keeps its bytes for the next chunk.
-/

namespace LineScript.Text.Utf8

/-! ## The bytes of a character -/

section Bytes

variable {a b : UInt8}

theorem isContinuation_iff : isContinuation b = true ↔ 0x80 ≤ b.toNat ∧ b.toNat < 0xC0 := by
  simp [isContinuation, UInt8.le_iff_toNat_le, UInt8.lt_iff_toNat_lt]

theorem isSecond_iff : isSecond a b = true ↔
    (0x80 ≤ b.toNat ∧ b.toNat < 0xC0) ∧ ¬ (a.toNat = 0xE0 ∧ b.toNat < 0xA0) ∧
      ¬ (a.toNat = 0xED ∧ 0xA0 ≤ b.toNat) ∧ ¬ (a.toNat = 0xF0 ∧ b.toNat < 0x90) ∧
      ¬ (a.toNat = 0xF4 ∧ 0x90 ≤ b.toNat) := by
  simp only [isSecond, Bool.and_eq_true, isContinuation_iff, UInt8.le_iff_toNat_le,
    UInt8.lt_iff_toNat_lt, ← UInt8.toNat_inj, Bool.not_eq_true', Bool.or_eq_false_iff,
    Bool.and_eq_false_iff, beq_eq_false_iff_ne, decide_eq_false_iff_not, ne_eq, UInt8.reduceToNat]
  omega

end Bytes

/-- Bytes that spell a character: a lead byte says how many continue it. -/
inductive Spells : Bytes → Char → Prop where
  | one {a : UInt8} (ha : a.toNat < 0x80) : Spells [a] (Char.ofNat a.toNat)
  | two {a b : UInt8} (ha : 0xC2 ≤ a.toNat ∧ a.toNat < 0xE0) (hb : isContinuation b = true) :
      Spells [a, b] (assemble (a.toNat % 32) [b])
  | three {a b c : UInt8} (ha : 0xE0 ≤ a.toNat ∧ a.toNat < 0xF0) (hb : isSecond a b = true)
      (hc : isContinuation c = true) : Spells [a, b, c] (assemble (a.toNat % 16) [b, c])
  | four {a b c d : UInt8} (ha : 0xF0 ≤ a.toNat ∧ a.toNat < 0xF5) (hb : isSecond a b = true)
      (hc : isContinuation c = true) (hd : isContinuation d = true) :
      Spells [a, b, c, d] (assemble (a.toNat % 8) [b, c, d])

theorem toNat_range (c : Char) : c.toNat < 0xD800 ∨ 0xDFFF < c.toNat ∧ c.toNat < 0x110000 :=
  c.valid

theorem assemble_eq {lead : Nat} {more : Bytes} {c : Char}
    (h : more.foldl (fun n b => 64 * n + b.toNat % 64) lead = c.toNat) : assemble lead more = c := by
  rw [assemble, h, Char.ofNat_toNat]

section Widths

variable {ch : Char} {a b c d : UInt8}

theorem spells_one (ha : a.toNat = ch.toNat) (h : ch.toNat < 0x80) : Spells [a] ch := by
  have hch : Char.ofNat a.toNat = ch := by rw [ha, Char.ofNat_toNat]
  exact hch ▸ .one (ha ▸ h)

theorem spells_two (ha : a.toNat = 0xC0 + ch.toNat / 64) (hb : b.toNat = 0x80 + ch.toNat % 64)
    (h : 0x80 ≤ ch.toNat ∧ ch.toNat < 0x800) : Spells [a, b] ch := by
  have hch : assemble (a.toNat % 32) [b] = ch := assemble_eq (by simp only [List.foldl]; omega)
  exact hch ▸ .two (by omega) (isContinuation_iff.mpr (by omega))

theorem spells_three (ha : a.toNat = 0xE0 + ch.toNat / 4096)
    (hb : b.toNat = 0x80 + ch.toNat / 64 % 64) (hc : c.toNat = 0x80 + ch.toNat % 64)
    (h : 0x800 ≤ ch.toNat ∧ ch.toNat < 0x10000) : Spells [a, b, c] ch := by
  have hrange := toNat_range ch
  have hch : assemble (a.toNat % 16) [b, c] = ch := assemble_eq (by simp only [List.foldl]; omega)
  exact hch ▸ .three (by omega) (isSecond_iff.mpr (by omega)) (isContinuation_iff.mpr (by omega))

theorem spells_four (ha : a.toNat = 0xF0 + ch.toNat / 262144)
    (hb : b.toNat = 0x80 + ch.toNat / 4096 % 64) (hc : c.toNat = 0x80 + ch.toNat / 64 % 64)
    (hd : d.toNat = 0x80 + ch.toNat % 64) (h : 0x10000 ≤ ch.toNat) : Spells [a, b, c, d] ch := by
  have hrange := toNat_range ch
  have hch : assemble (a.toNat % 8) [b, c, d] = ch := assemble_eq (by simp only [List.foldl]; omega)
  exact hch ▸ .four (by omega) (isSecond_iff.mpr (by omega)) (isContinuation_iff.mpr (by omega))
    (isContinuation_iff.mpr (by omega))

end Widths

/-- The bytes of a character spell it. -/
theorem spells_encodeChar (ch : Char) : Spells (encodeChar ch) ch := by
  have hrange := toNat_range ch
  have hbyte : ∀ {n : Nat}, n < 256 → n.toUInt8.toNat = n := fun h => by simp [Nat.mod_eq_of_lt h]
  unfold encodeChar
  dsimp only
  split
  · exact spells_one (hbyte (by omega)) (by omega)
  split
  · exact spells_two (hbyte (by omega)) (hbyte (by omega)) (by omega)
  split
  · exact spells_three (hbyte (by omega)) (hbyte (by omega)) (hbyte (by omega)) (by omega)
  · exact spells_four (hbyte (by omega)) (hbyte (by omega)) (hbyte (by omega)) (hbyte (by omega))
      (by omega)

/-! ## Steps -/

theorem Spells.ne_nil {bytes : Bytes} {ch : Char} (h : Spells bytes ch) : bytes ≠ [] := by
  cases h <;> simp

/-- Bytes that spell a character are read as that character, whatever follows them. -/
theorem Spells.step_append {a : UInt8} {more : Bytes} {ch : Char} (h : Spells (a :: more) ch)
    (rest : Bytes) : step a (more ++ rest) = .char ch (more.length + 1) rest := by
  cases h with
  | one ha => simp [step, UInt8.lt_iff_toNat_lt, ha]
  | two ha hb =>
    simp only [step, UInt8.lt_iff_toNat_lt, UInt8.le_iff_toNat_le]
    grind
  | three ha hb hc =>
    simp only [step, UInt8.lt_iff_toNat_lt, UInt8.le_iff_toNat_le]
    grind
  | four ha hb hc hd =>
    simp only [step, UInt8.lt_iff_toNat_lt, UInt8.le_iff_toNat_le]
    grind

/-- The beginning of a character is no character and no fault. -/
theorem Spells.step_unfinished {a : UInt8} {part more : Bytes} {ch : Char}
    (h : Spells (a :: (part ++ more)) ch) (hmore : more ≠ []) : step a part = .unfinished := by
  simp only [step, UInt8.lt_iff_toNat_lt, UInt8.le_iff_toNat_le]
  match part with
  | [] =>
    cases h with
    | one => exact absurd rfl hmore
    | two ha | three ha | four ha => grind
  | [b] =>
    cases h with
    | two => exact absurd rfl hmore
    | three ha hb | four ha hb => grind
  | [b, c] =>
    cases h with
    | three => exact absurd rfl hmore
    | four ha hb hc => grind
  | b :: c :: d :: part =>
    change Spells (a :: b :: c :: d :: (part ++ more)) ch at h
    generalize hrest : part ++ more = rest at h
    cases h
    exact absurd (List.append_eq_nil_iff.mp hrest).2 hmore

/-! ## Texts -/

/-- Bytes at the end of a chunk that are no whole character: none, or the beginning of one. -/
def Unfinished (part : Bytes) : Prop :=
  part = [] ∨ ∃ ch more, encodeChar ch = part ++ more ∧ part ≠ [] ∧ more ≠ []

/-- Characters are read one after the other. -/
theorem decodeFrom_append (cs : List Char) (fuel position : Nat) (chars : List Char) (rest : Bytes) :
    ∃ position', decodeFrom (cs.length + fuel) position chars (cs.flatMap encodeChar ++ rest) =
      decodeFrom fuel position' (cs.reverse ++ chars) rest := by
  induction cs generalizing position chars with
  | nil => exact ⟨position, by rw [List.length_nil, Nat.zero_add]; rfl⟩
  | cons ch cs ih =>
    have hspells := spells_encodeChar ch
    obtain ⟨a, more, hbytes⟩ := List.exists_cons_of_ne_nil hspells.ne_nil
    rw [hbytes] at hspells
    obtain ⟨position', ih⟩ := ih (position + (more.length + 1)) (ch :: chars)
    refine ⟨position', ?_⟩
    rw [List.length_cons, Nat.add_right_comm, List.flatMap_cons, hbytes, List.append_assoc,
      List.cons_append, decodeFrom, hspells.step_append, List.reverse_cons, List.append_assoc]
    exact ih

theorem length_le_length_encode (cs : List Char) : cs.length ≤ (cs.flatMap encodeChar).length := by
  induction cs with
  | nil => exact Nat.le_refl _
  | cons ch cs ih =>
    have hpos := List.length_pos_iff.mpr (spells_encodeChar ch).ne_nil
    rw [List.flatMap_cons, List.length_append, List.length_cons]
    omega

/-- A part of a text is decoded up to the character that it ends in. -/
theorem decodePart_append (cs : List Char) {part : Bytes} (h : Unfinished part) :
    decodePart (cs.flatMap encodeChar ++ part) = .ok (cs, part) := by
  have hlength := length_le_length_encode cs
  obtain ⟨fuel, hfuel⟩ : ∃ n, (cs.flatMap encodeChar).length = cs.length + n :=
    Nat.exists_eq_add_of_le hlength
  obtain ⟨position, hdecode⟩ := decodeFrom_append cs (fuel + part.length) 0 [] part
  -- Every character has a byte, so the fuel lasts beyond the whole characters.
  rw [decodePart, List.length_append, hfuel, Nat.add_assoc, hdecode, List.append_nil]
  rcases h with rfl | ⟨ch, more, hch, hpart, hmore⟩
  · cases fuel <;> simp [decodeFrom]
  · obtain ⟨a, part, rfl⟩ := List.exists_cons_of_ne_nil hpart
    have hstep : step a part = .unfinished := (hch ▸ spells_encodeChar ch).step_unfinished hmore
    rw [List.length_cons, ← Nat.add_assoc, decodeFrom, hstep]
    simp

theorem decode_flatMap_encodeChar (cs : List Char) : decode (cs.flatMap encodeChar) = .ok cs := by
  have h := decodePart_append cs (.inl rfl)
  rw [List.append_nil] at h
  simp [decode, h]

/-! ## Chunks -/

/-- The front of the bytes of a text is whole characters and the beginning of one more. -/
theorem exists_split_of_prefix {cs : List Char} {front : Bytes} (h : front <+: cs.flatMap encodeChar) :
    ∃ done next part, cs = done ++ next ∧ front = done.flatMap encodeChar ++ part ∧ Unfinished part := by
  induction cs generalizing front with
  | nil => exact ⟨[], [], [], rfl, List.prefix_nil.mp h, .inl rfl⟩
  | cons ch cs ih =>
    obtain ⟨rest, hrest⟩ := h
    rw [List.flatMap_cons] at hrest
    -- The front ends in the first character or after it.
    rcases List.append_eq_append_iff.mp hrest with ⟨more, hch, -⟩ | ⟨front', rfl, hfront⟩
    · by_cases hmore : more = []
      · refine ⟨[ch], cs, [], rfl, ?_, .inl rfl⟩
        simp [hch, hmore]
      · refine ⟨[], ch :: cs, front, rfl, rfl, ?_⟩
        by_cases hfront : front = []
        · exact .inl hfront
        · exact .inr ⟨ch, more, hch, hfront, hmore⟩
    · obtain ⟨done, next, part, rfl, rfl, hpart⟩ := ih ⟨rest, hfront.symm⟩
      exact ⟨ch :: done, next, part, rfl, by simp, hpart⟩

/-- Chunks are read one after the other. What is pending from the last one belongs to the text that is
still to be read. -/
theorem decodeChunksFrom_eq {cs : List Char} {fuel : Nat} {pending bytes : Bytes}
    (h : pending ++ bytes = cs.flatMap encodeChar) (hfuel : bytes.length ≤ fuel * chunkSize) :
    decodeChunksFrom fuel pending bytes = .ok cs := by
  induction fuel generalizing cs pending bytes with
  | zero =>
    have hnil : bytes = [] := List.length_eq_zero_iff.mp (by omega)
    rw [decodeChunksFrom, ← decode_flatMap_encodeChar cs, ← h, hnil, List.append_nil]
  | succ fuel ih =>
    rw [decodeChunksFrom]
    split
    · rename_i hempty
      have hnil : bytes = [] := List.isEmpty_iff.mp hempty
      rw [← decode_flatMap_encodeChar cs, ← h, hnil, List.append_nil]
    · have hcut : (pending ++ bytes.take chunkSize) ++ bytes.drop chunkSize = cs.flatMap encodeChar := by
        rw [List.append_assoc, List.take_append_drop, h]
      obtain ⟨done, next, part, rfl, hfront, hpart⟩ := exists_split_of_prefix ⟨_, hcut⟩
      -- The part of a character at the end of the chunk and the other bytes are the rest of the text.
      have hnext : part ++ bytes.drop chunkSize = next.flatMap encodeChar := by
        rw [hfront, List.flatMap_append, List.append_assoc] at hcut
        exact List.append_cancel_left hcut
      have hlength : (bytes.drop chunkSize).length ≤ fuel * chunkSize := by
        rw [List.length_drop]
        rw [Nat.succ_mul] at hfuel
        omega
      rw [hfront, decodePart_append done hpart]
      simp only [ih hnext hlength]
      rfl

/-- A text is read back from its bytes chunk by chunk. -/
theorem decodeChunks_encode (s : String) : decodeChunks (encode s) = .ok s.toList := by
  refine decodeChunksFrom_eq rfl ?_
  have hdiv := Nat.div_add_mod (encode s).length chunkSize
  have hmod := Nat.mod_lt (encode s).length (show 0 < chunkSize by decide)
  rw [Nat.add_mul, Nat.mul_comm]
  omega

end LineScript.Text.Utf8
