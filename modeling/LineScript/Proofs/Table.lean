import LineScript.Session

/-!
# Tables

What holds of the entries of a table after a key is set, and the value of a key.
-/

namespace LineScript.Table

variable {α : Type}

theorem get?_cons (k : String) (b : α) (rest : Table α) (name : String) :
    Table.get? ((k, b) :: rest) name = if name = k then some b else Table.get? rest name := by
  unfold Table.get?
  by_cases h : name = k
  · simp [h]
  · have hne : (name == k) = false := by simpa using h
    simp [List.lookup_cons, h, hne]

theorem get?_set (t : Table α) (key : String) (a : α) (name : String) :
    (t.set key a).get? name = if name = key then some a else t.get? name := by
  induction t with
  | nil => simp [Table.set, get?_cons]
  | cons e rest ih =>
    obtain ⟨k, b⟩ := e
    by_cases hk : k = key
    · subst hk
      by_cases h : name = k <;> simp [Table.set, get?_cons, h]
    · by_cases h : name = k
      · subst h
        simp [Table.set, get?_cons, hk]
      · simp [Table.set, get?_cons, hk, h, ih]

/-- Setting a key leaves all other entries of a table alone. -/
theorem mem_set {t : Table α} {key : String} {a : α} {entry : String × α}
    (h : entry ∈ t.set key a) : entry = (key, a) ∨ entry ∈ t := by
  induction t with
  | nil => exact .inl (by simpa [Table.set] using h)
  | cons e rest ih =>
    obtain ⟨k, b⟩ := e
    rw [Table.set] at h
    split at h
    · rename_i hk
      have hk : k = key := by simpa using hk
      rcases List.mem_cons.mp h with h | h
      · exact .inl (hk ▸ h)
      · exact .inr (List.mem_cons_of_mem _ h)
    · rcases List.mem_cons.mp h with h | h
      · exact .inr (h ▸ List.mem_cons_self)
      · exact (ih h).imp id (List.mem_cons_of_mem _)

/-- Every entry of a table has a property. -/
def All (t : Table α) (ok : String → α → Prop) : Prop :=
  ∀ entry ∈ t, ok entry.1 entry.2

instance (t : Table α) (ok : String → α → Prop) [∀ key a, Decidable (ok key a)] :
    Decidable (t.All ok) :=
  inferInstanceAs (Decidable (∀ entry ∈ t, ok entry.1 entry.2))

theorem All.get? {t : Table α} {ok : String → α → Prop} {key : String} {a : α}
    (h : t.All ok) (ha : t.get? key = some a) : ok key a := by
  obtain ⟨l₁, l₂, hsplit, -⟩ := List.lookup_eq_some_iff.mp ha
  exact h (key, a) (by simp [hsplit])

theorem All.set {t : Table α} {ok : String → α → Prop} {key : String} {a : α}
    (h : t.All ok) (ha : ok key a) : (t.set key a).All ok := by
  intro entry hentry
  rcases mem_set hentry with rfl | hentry
  · exact ha
  · exact h entry hentry

end LineScript.Table
