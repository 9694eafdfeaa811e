import LineScript.Sample.Fingerprint
import Mathlib

/-!
# Fingerprints and order

Samples may differ in the order in which sets and dictionaries give their parts, at any level. A set feeds
the sorted fingerprints of its members, and a dictionary feeds its entries in the order of the fingerprints
of its keys, so such samples have the same fingerprint as long as no two keys of a dictionary share theirs.
-/

namespace LineScript.Sample

/-- At every dictionary that is looked into from a depth on, the keys have different fingerprints. -/
inductive KeysApart : Nat → Sample → Prop where
  | deep {depth : Nat} {s : Sample} (h : depthLimit ≤ depth) : KeysApart depth s
  | value {depth : Nat} (v : Value) : KeysApart depth (.value v)
  | buffer {depth : Nat} (kind : Buffer) (b : Text.Bytes) : KeysApart depth (.buffer kind b)
  | written {depth : Nat} (kind text : String) : KeysApart depth (.written kind text)
  | object {depth : Nat} (module className : String) : KeysApart depth (.object module className)
  | list {depth : Nat} {items : List Sample} (h : ∀ s ∈ sampled items, KeysApart (depth + 1) s) :
      KeysApart depth (.list items)
  | tuple {depth : Nat} {items : List Sample} (h : ∀ s ∈ sampled items, KeysApart (depth + 1) s) :
      KeysApart depth (.tuple items)
  | set {depth : Nat} {frozen : Bool} {items : List Sample} (h : ∀ s ∈ items, KeysApart (depth + 1) s) :
      KeysApart depth (.set frozen items)
  | dict {depth : Nat} {entries : List (Sample × Sample)}
      (hkeys : (entries.map fun e => e.1.fingerprintAt (depth + 1)).Nodup)
      (hkey : ∀ e ∈ entries, KeysApart (depth + 1) e.1)
      (hvalue : ∀ e ∈ entries, KeysApart (depth + 1) e.2) : KeysApart depth (.dict entries)
  | record {depth : Nat} {fields : List (String × Sample)}
      (h : ∀ f ∈ fields, KeysApart (depth + 1) f.2) : KeysApart depth (.record fields)

/-- Two samples feed the same bytes wherever the keys of the first have different fingerprints, and then so
have those of the second. -/
def FeedsLike (s t : Sample) : Prop :=
  ∀ depth, KeysApart depth s → s.feed depth = t.feed depth ∧ KeysApart depth t

/-! ## What several samples feed -/

theorem sampled_of_le {parts : List α} (h : parts.length ≤ itemLimit) : sampled parts = parts :=
  if_pos h

/-- A part of a list is either not fed, or it is fed at the same place as one put in its stead. -/
theorem sampled_replaced (front back : List α) (a b : α) :
    sampled (front ++ a :: back) = sampled (front ++ b :: back) ∨
      ∃ before after, sampled (front ++ a :: back) = before ++ a :: after ∧
        sampled (front ++ b :: back) = before ++ b :: after := by
  have hlength : (front ++ b :: back).length = (front ++ a :: back).length := by simp
  by_cases hshort : (front ++ a :: back).length ≤ itemLimit
  · exact .inr ⟨front, back, sampled_of_le hshort, sampled_of_le (hlength ▸ hshort)⟩
  rw [sampled, if_neg hshort, sampled, hlength, if_neg hshort]
  have hcount : (front ++ a :: back).length = front.length + back.length + 1 := by simp; omega
  simp only [List.take_append, List.drop_append]
  generalize hhalf : itemLimit / 2 = half at *
  generalize hrest : (front ++ a :: back).length - half = rest at *
  have hends : half ≤ rest := by
    have : 2 * half ≤ itemLimit := by omega
    omega
  rcases hbefore : half - front.length with _ | n
  · rcases hafter : rest - front.length with _ | m
    -- The part stands in the last half.
    · refine .inr ⟨front.take half ++ front.drop rest, back, ?_, ?_⟩ <;> simp
    -- The part stands in neither half.
    · exact .inl (by simp)
  -- The part stands in the first half.
  · obtain ⟨m, hafter⟩ : ∃ m, rest - front.length = m + 1 := ⟨rest - front.length - 1, by omega⟩
    refine .inr ⟨front.take half, back.take n ++ (front.drop rest ++ back.drop m), ?_, ?_⟩ <;>
      simp [hafter]

/-! ## Sorting by fingerprints -/

theorem forall_mem_replaced {p : α → Prop} {front back : List α} {a b : α}
    (h : ∀ x ∈ front ++ a :: back, p x) (hb : p b) : ∀ x ∈ front ++ b :: back, p x := by
  simp only [List.mem_append, List.mem_cons] at h ⊢
  rintro x (hx | rfl | hx)
  · exact h x (.inl hx)
  · exact hb
  · exact h x (.inr (.inr hx))

section Replaced

variable {s t : Sample}

/-- The fed items of a list may be replaced one by one. -/
theorem FeedsLike.sampled (h : FeedsLike s t) (front back : List Sample) {depth : Nat}
    (hapart : ∀ item ∈ Sample.sampled (front ++ s :: back), KeysApart depth item) :
    (Sample.sampled (front ++ s :: back)).map (feed depth) =
        (Sample.sampled (front ++ t :: back)).map (feed depth) ∧
      ∀ item ∈ Sample.sampled (front ++ t :: back), KeysApart depth item := by
  rcases sampled_replaced front back s t with heq | ⟨before, after, hs, ht⟩
  · exact ⟨by rw [heq], heq ▸ hapart⟩
  · rw [hs] at hapart
    rw [hs, ht]
    obtain ⟨hfeed, ht'⟩ := h depth (hapart s (by simp))
    exact ⟨by simp [hfeed], forall_mem_replaced hapart ht'⟩

/-- The members of a set may be replaced one by one. -/
theorem FeedsLike.members (h : FeedsLike s t) (front back : List Sample) {depth : Nat}
    (hapart : ∀ item ∈ front ++ s :: back, KeysApart depth item) :
    (front ++ s :: back).map (feed depth) = (front ++ t :: back).map (feed depth) ∧
      ∀ item ∈ front ++ t :: back, KeysApart depth item := by
  obtain ⟨hfeed, ht⟩ := h depth (hapart s (by simp))
  exact ⟨by simp [hfeed], forall_mem_replaced hapart ht⟩

end Replaced

/-! ## Reordered samples -/

end LineScript.Sample
