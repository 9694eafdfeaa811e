import LineScript.Proofs.Files

/-!
# Removing and copying parts of a tree

What `get?` finds once a part of a tree was removed, or once entries were put below a location. A tree
that has no two entries at one location is known by `get?` alone.
-/

namespace LineScript.Files.FileTree

/-! ## Entries -/

/-- No two entries stand at one location. -/
def Distinct (t : FileTree) : Prop :=
  (t.entries.map (·.1)).Nodup

theorem isDir_iff {t : FileTree} {l : Location} : t.isDir l = true ↔ t.get? l = some .dir := by
  simp [isDir]

theorem get?_eq_none_iff {t : FileTree} {l : Location} :
    t.get? l = none ↔ ∀ e, (l, e) ∉ t.entries := by
  rw [get?, List.lookup_eq_none_iff]
  constructor
  · intro h e hmem
    simpa using h _ hmem
  · intro h p hp
    have hne : l ≠ p.1 := fun heq => h p.2 (heq ▸ hp)
    simpa using hne

/-- In a tree with distinct entries, `get?` finds every one. -/
theorem Distinct.mem_entries_iff {t : FileTree} (ht : t.Distinct) {l : Location} {e : Entry} :
    (l, e) ∈ t.entries ↔ t.get? l = some e := by
  obtain ⟨entries⟩ := t
  unfold Distinct at ht
  rw [get?]
  induction entries with
  | nil => simp
  | cons p entries ih =>
    obtain ⟨k, e'⟩ := p
    simp only [List.map_cons, List.nodup_cons] at ht
    rw [List.mem_cons, Prod.mk.injEq, List.lookup_cons]
    by_cases hk : l = k
    · subst hk
      have hnew : (l, e) ∉ entries := fun hmem => ht.1 (List.mem_map_of_mem hmem)
      simp [hnew, eq_comm]
    · have hne : (l == k) = false := by simpa using hk
      simp [hk, hne, ih ht.2]

theorem Distinct.put {t : FileTree} (ht : t.Distinct) (l : Location) (e : Entry) :
    (t.put l e).Distinct := by
  refine List.nodup_cons.mpr ⟨?_, ht.sublist (List.filter_sublist.map _)⟩
  simp

/-! ## Removing -/

theorem lookup_filter {entries : List (Location × Entry)} (keep : Location → Bool) (k : Location) :
    (entries.filter fun p => keep p.1).lookup k = if keep k then entries.lookup k else none := by
  induction entries with
  | nil => simp
  | cons p entries ih =>
    obtain ⟨k', e⟩ := p
    by_cases hk : k = k'
    · subst hk
      cases hkeep : keep k <;> simp [hkeep, ih]
    · have hne : (k == k') = false := by simpa using hk
      cases hkeep : keep k' <;> simp [hkeep, List.lookup_cons, hne, ih]

theorem get?_prune (t : FileTree) (l k : Location) :
    (t.prune l).get? k = if l <+: k then none else t.get? k := by
  refine (lookup_filter (fun k => !l.isPrefixOf k) k).trans ?_
  cases h : l.isPrefixOf k with
  | true => rw [if_neg (by simp), if_pos (List.isPrefixOf_iff_prefix.mp h)]
  | false =>
    have hk : ¬ l <+: k := fun hk => by simp [List.isPrefixOf_iff_prefix.mpr hk] at h
    rw [if_pos (by simp), if_neg hk, get?]

theorem get?_prune_of_not_prefix {t : FileTree} {l k : Location} (h : ¬ l <+: k) :
    (t.prune l).get? k = t.get? k := by
  rw [get?_prune, if_neg h]

theorem Distinct.prune {t : FileTree} (ht : t.Distinct) (l : Location) : (t.prune l).Distinct :=
  ht.sublist (List.filter_sublist.map _)

/-- Where nothing stands, nothing is removed. -/
theorem prune_eq_self {t : FileTree} {l : Location} (h : ∀ k, l <+: k → t.get? k = none) :
    t.prune l = t := by
  rw [prune, List.filter_eq_self.mpr]
  rintro ⟨k, e⟩ hmem
  have hk : l.isPrefixOf k = false := Bool.eq_false_iff.mpr fun hk =>
    get?_eq_none_iff.mp (h k (List.isPrefixOf_iff_prefix.mp hk)) e hmem
  simp [hk]

/-! ## Copying -/

/-- Whether an entry stands below a location, and the way to it from there. -/
theorem below_step {l k k' : Location} {e e' : Entry} :
    (if l.isPrefixOf k && k != l then some (k.drop l.length, e) else none) = some (k', e') ↔
      k' ≠ [] ∧ k = l ++ k' ∧ e = e' := by
  constructor
  · intro h
    split at h
    · rename_i hk
      rw [Bool.and_eq_true, List.isPrefixOf_iff_prefix] at hk
      obtain ⟨⟨k'', rfl⟩, hne⟩ := hk
      rw [List.drop_left, Option.some.injEq, Prod.mk.injEq] at h
      obtain ⟨rfl, rfl⟩ := h
      exact ⟨by simpa using hne, rfl, rfl⟩
    · cases h
  · rintro ⟨hne, rfl, rfl⟩
    simp [hne]

theorem mem_below {t : FileTree} {l k : Location} {e : Entry} :
    (k, e) ∈ t.below l ↔ k ≠ [] ∧ (l ++ k, e) ∈ t.entries := by
  rw [below, List.mem_filterMap]
  constructor
  · rintro ⟨p, hmem, h⟩
    obtain ⟨hne, hk, rfl⟩ := below_step.mp h
    exact ⟨hne, hk ▸ hmem⟩
  · rintro ⟨hne, hmem⟩
    exact ⟨(l ++ k, e), hmem, below_step.mpr ⟨hne, rfl, rfl⟩⟩

theorem Distinct.nodup_below {t : FileTree} (ht : t.Distinct) (l : Location) :
    ((t.below l).map (·.1)).Nodup := by
  rw [List.Nodup, List.pairwise_map, below, List.pairwise_filterMap]
  refine (List.pairwise_map.mp ht).imp ?_
  intro p p' hne q hq q' hq' heq
  obtain ⟨-, hp, -⟩ := below_step.mp hq
  obtain ⟨-, hp', -⟩ := below_step.mp hq'
  exact hne (by rw [hp, hp', heq])

section Graft

variable {t : FileTree} {l : Location} {entries : List (Location × Entry)}

theorem Distinct.graft (ht : t.Distinct) : (t.graft l entries).Distinct := by
  induction entries generalizing t with
  | nil => exact ht
  | cons p entries ih => exact ih (ht.put _ _)

theorem get?_graft_of_not_mem {k : Location} (h : ∀ p ∈ entries, k ≠ l ++ p.1) :
    (t.graft l entries).get? k = t.get? k := by
  induction entries generalizing t with
  | nil => rfl
  | cons p entries ih =>
    calc ((t.put (l ++ p.1) p.2).graft l entries).get? k = (t.put (l ++ p.1) p.2).get? k :=
          ih fun q hq => h q (.tail _ hq)
      _ = t.get? k := get?_put_of_ne _ (h p (.head _))

theorem get?_graft_of_mem (hkeys : (entries.map (·.1)).Nodup) {k : Location} {e : Entry}
    (h : (k, e) ∈ entries) : (t.graft l entries).get? (l ++ k) = some e := by
  induction entries generalizing t with
  | nil => cases h
  | cons p entries ih =>
    rw [List.map_cons, List.nodup_cons] at hkeys
    rcases List.mem_cons.mp h with rfl | hmem
    · have hnew : ∀ q ∈ entries, l ++ k ≠ l ++ q.1 := by
        intro q hq heq
        rw [List.append_right_inj] at heq
        exact hkeys.1 (List.mem_map.mpr ⟨q, hq, heq.symm⟩)
      exact (get?_graft_of_not_mem hnew).trans (get?_put _ _ _)
    · exact ih hkeys.2 hmem

theorem get?_graft_of_not_prefix {k : Location} (h : ¬ l <+: k) :
    (t.graft l entries).get? k = t.get? k := by
  refine get?_graft_of_not_mem ?_
  rintro p - rfl
  exact h (List.prefix_append _ _)

/-- A directory that holds nothing yet becomes a copy of another when the entries below that one are
put below it. -/
theorem get?_graft_below {t' : FileTree} (ht' : t'.Distinct) {origin : Location}
    (hroot : t.get? l = t'.get? origin) (hempty : ∀ k, k ≠ [] → t.get? (l ++ k) = none) (k : Location) :
    (t.graft l (t'.below origin)).get? (l ++ k) = t'.get? (origin ++ k) := by
  by_cases hk : k = []
  · subst hk
    simp only [List.append_nil]
    rw [← hroot]
    refine get?_graft_of_not_mem ?_
    rintro ⟨k, e⟩ hmem heq
    exact (mem_below.mp hmem).1 (by simpa using heq)
  · cases he : t'.get? (origin ++ k) with
    | some e =>
      exact get?_graft_of_mem (ht'.nodup_below origin)
        (mem_below.mpr ⟨hk, ht'.mem_entries_iff.mpr he⟩)
    | none =>
      rw [← hempty k hk]
      refine get?_graft_of_not_mem ?_
      rintro ⟨k', e⟩ hmem heq
      obtain rfl := (List.append_right_inj l).mp heq
      exact get?_eq_none_iff.mp he e (mem_below.mp hmem).2

end Graft

end LineScript.Files.FileTree
