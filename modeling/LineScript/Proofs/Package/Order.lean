import LineScript.Proofs.Package.Reachable
import LineScript.Proofs.Package.Undo

/-!
# Installing again and in another order

Installing a source a second time changes nothing. Two packages of different names are installed in either
order with the same result, up to the order of the register, as long as neither of the two paths appears or
vanishes when the other package is installed. This holds in every state that calls of the store lead to,
whatever their paths are.
-/

namespace LineScript.Package

open Files

theorem Apart.normalized_ne_nil {path : String} (h : Apart path) : normalized path ≠ [] :=
  fun hnil => h.beside (hnil ▸ List.nil_prefix)

/-! ## What is put in the place of a package -/

/-- What installing does before a package is entered, if it is. -/
def filling (limits : Limits) (t : FileTree) (path : String) : Effect :=
  (filled? limits t path).getD ⟨false, t⟩

theorem filling_dir {limits : Limits} {t : FileTree} {path : String} (hentry : t.entry? path = some .dir)
    (hapart : Apart path) : filling limits t path = replaced limits t path := by
  simp [filling, filled?, hentry, hapart.normalized_ne_nil]

theorem filling_script {limits : Limits} {t : FileTree} {path : String} {content : Text.Bytes}
    (hentry : t.entry? path = some (.file content))
    (hscript : Text.endsWith path scriptExtension = true) :
    filling limits t path = addedScript t path content := by
  simp [filling, filled?, hentry, hscript]

/-- What a copy of a directory holds: the entries that can be copied. -/
def copyContent (folders : Nat) (t : FileTree) (path : String) (k : Location) : Option Entry :=
  if k = [] then some .dir
  else if copies folders path ("lib/" ++ ownName path) k then t.get? (normalized path ++ k)
  else none

section Filling

variable {limits : Limits} {t t' : FileTree} {names names' : List String} {path : String}

/-- Removing a directory cuts off a path exactly if the path leads into it. -/
theorem pathIsDir_prune_iff {d : Location} (hdir : t.pathIsDir path = true)
    (hout : ¬ d <+: normalized path) : (t.prune d).pathIsDir path = true ↔ ¬ LeadsInto path d := by
  obtain ⟨hreach, hsource⟩ := FileTree.reaches_of_pathIsDir hdir
  constructor
  · rintro hpruned ⟨front, hfront, hin⟩
    have hresolve := (FileTree.reaches_of_pathIsDir hpruned).1.resolve
    by_cases hall : front = segments path
    · rw [hall, ← normalized_eq] at hin
      exact hout hin
    · have hget := FileTree.get?_follow_of_resolve hresolve hfront hall
      rw [FileTree.get?_prune, if_pos hin] at hget
      cases hget
  · intro hleads
    have hresolve : (t.prune d).resolve path = t.resolve path :=
      FileTree.resolve_congr fun front hfront =>
        FileTree.get?_prune_of_not_prefix fun hin => hleads ⟨front, hfront, hin⟩
    have hreach' : (t.prune d).Reaches path (normalized path) :=
      ⟨hreach.null, hresolve.trans hreach.resolve⟩
    rw [hreach'.pathIsDir_eq, FileTree.isDir_iff, FileTree.get?_prune_of_not_prefix hout]
    exact hsource

theorem nodup_copyable (ht : t.Distinct) (name : String) : ((copyable limits.folders t path name).map (·.1)).Nodup :=
  (ht.nodup_below (normalized path)).sublist (List.filter_sublist.map _)

theorem mem_copyable (ht : t.Distinct) {k : Location} {e : Entry} :
    (k, e) ∈ copyable limits.folders t path (ownName path) ↔
      k ≠ [] ∧ copies limits.folders path ("lib/" ++ ownName path) k = true ∧
        t.get? (normalized path ++ k) = some e := by
  rw [copyable, List.mem_filter, FileTree.mem_below, ht.mem_entries_iff]
  tauto

/-- A directory is copied entry by entry. -/
theorem get?_withCopy_copyable (ht : t.Distinct) (hempty : ∀ k, t.get? (place (ownName path) ++ k) = none)
    (k : Location) :
    (withCopy t (ownName path) (copyable limits.folders t path (ownName path))).get? (place (ownName path) ++ k) =
      copyContent limits.folders t path k := by
  unfold copyContent
  split
  · rename_i hk
    rw [hk, List.append_nil]
    exact get?_withCopy fun e he => (FileTree.mem_below.mp (List.mem_filter.mp he).1).1
  · rename_i hk
    -- An entry is copied if it is there and its path fits.
    have hnone : (∀ e, (k, e) ∉ copyable limits.folders t path (ownName path)) →
        (withCopy t (ownName path) (copyable limits.folders t path (ownName path))).get? (place (ownName path) ++ k) =
          none := by
      intro hnot
      rw [withCopy, FileTree.get?_graft_of_not_mem, FileTree.get?_put_of_ne _ (by simpa using hk), hempty]
      rintro ⟨k', e⟩ hmem heq
      obtain rfl := (List.append_right_inj _).mp heq
      exact hnot e hmem
    split
    · rename_i hfits
      cases hentry : t.get? (normalized path ++ k) with
      | some e =>
        have hmem := (mem_copyable ht).mpr ⟨hk, hfits, hentry⟩
        exact FileTree.get?_graft_of_mem (nodup_copyable ht _) hmem
      | none =>
        refine hnone fun e hmem => ?_
        rw [((mem_copyable ht).mp hmem).2.2] at hentry
        cases hentry
    · rename_i hfits
      exact hnone fun e hmem => hfits ((mem_copyable ht).mp hmem).2.1

theorem length_copyable_iff (ht : t.Distinct) :
    (copyable limits.folders t path (ownName path)).length = (t.below (normalized path)).length ↔
      ∀ k, k ≠ [] → t.get? (normalized path ++ k) ≠ none →
        copies limits.folders path ("lib/" ++ ownName path) k = true := by
  rw [copyable, List.length_filter_eq_length_iff]
  constructor
  · intro h k hk hsome
    obtain ⟨e, he⟩ := Option.ne_none_iff_exists'.mp hsome
    exact h (k, e) (FileTree.mem_below.mpr ⟨hk, ht.mem_entries_iff.mpr he⟩)
  · rintro h ⟨k, e⟩ hmem
    obtain ⟨hk, hentry⟩ := FileTree.mem_below.mp hmem
    refine h k hk ?_
    rw [ht.mem_entries_iff.mp hentry]
    simp

/-- What is at the place of a directory that was installed, and whether it was copied in full. -/
theorem Holds.replaced_spec (h : Holds t names) (hapart : Apart path) (hdir : t.pathIsDir path = true)
    (hfile : t.isFile (place (ownName path)) = false) :
    ((replaced limits t path).done = true ↔ ¬ LeadsInto path (place (ownName path)) ∧
      ∀ k, k ≠ [] → t.get? (normalized path ++ k) ≠ none →
        copies limits.folders path ("lib/" ++ ownName path) k = true) ∧
    ∀ k, (replaced limits t path).files.get? (place (ownName path) ++ k) =
      if LeadsInto path (place (ownName path)) then none else copyContent limits.folders t path k := by
  have hout : ∀ k, (t.prune (place (ownName path))).get? (normalized path ++ k) =
      t.get? (normalized path ++ k) := fun k =>
    FileTree.get?_prune_of_not_prefix (hapart.not_prefix (storePlace_prefix_place _))
  have hempty : ∀ k, (t.prune (place (ownName path))).get? (place (ownName path) ++ k) = none := fun k => by
    rw [FileTree.get?_prune, if_pos (List.prefix_append _ _)]
  -- The source is looked up again once the old version is gone.
  have hleads := pathIsDir_prune_iff hdir (d := place (ownName path)) fun hin =>
    hapart.outside ((storePlace_prefix_place _).trans hin)
  have hreplaced : replaced limits t path = copied limits (t.prune (place (ownName path))) path := by
    rw [replaced, hfile, h.vacated_eq hfile]
    rfl
  rw [hreplaced, copied]
  by_cases hcut : LeadsInto path (place (ownName path))
  · have hlost : (t.prune (place (ownName path))).pathIsDir path = false :=
      Bool.eq_false_iff.mpr fun htrue => hleads.mp htrue hcut
    simp [hlost, hcut, hempty]
  · have hfound : (t.prune (place (ownName path))).pathIsDir path = true := hleads.mpr hcut
    have hdistinct := h.distinct.prune (place (ownName path))
    simp only [hfound, hapart.not_intoItself, hcut, Bool.not_true, Bool.false_eq_true, if_false,
      not_false_eq_true, true_and, beq_iff_eq, length_copyable_iff hdistinct, hout]
    intro k
    rw [get?_withCopy_copyable hdistinct hempty, copyContent, copyContent, hout]

/-- Putting a directory in the place of its package depends on the source alone. -/
theorem Holds.replaced_congr (h : Holds t names) (h' : Holds t' names') (hapart : Apart path)
    (hdir : t.pathIsDir path = true) (hdir' : t'.pathIsDir path = true)
    (hfile : t.isFile (place (ownName path)) = false) (hfile' : t'.isFile (place (ownName path)) = false)
    (hsource : ∀ k, t'.get? (normalized path ++ k) = t.get? (normalized path ++ k)) :
    (replaced limits t' path).done = (replaced limits t path).done ∧
      ∀ k, (replaced limits t' path).files.get? (place (ownName path) ++ k) =
        (replaced limits t path).files.get? (place (ownName path) ++ k) := by
  obtain ⟨hdone, hget⟩ := h.replaced_spec hapart hdir hfile
  obtain ⟨hdone', hget'⟩ := h'.replaced_spec hapart hdir' hfile'
  constructor
  · rw [Bool.eq_iff_iff, hdone, hdone']
    simp only [hsource]
  · intro k
    rw [hget, hget', copyContent, copyContent, hsource]

theorem get?_withPlace_append (t : FileTree) (name : String) (k : Location) :
    (withPlace t name).get? (place name ++ k) = if k = [] then some .dir else t.get? (place name ++ k) := by
  split
  · rename_i hk
    rw [hk, List.append_nil, get?_withPlace]
  · rename_i hk
    exact get?_withPlace_of_ne (by simpa using hk)

/-- Putting a script into the place of its package depends on what is there alone. -/
theorem addedScript_congr (content : Text.Bytes)
    (hplace : ∀ k, t'.get? (place (ownName path) ++ k) = t.get? (place (ownName path) ++ k)) :
    (addedScript t' path content).done = (addedScript t path content).done ∧
      ∀ k, (addedScript t' path content).files.get? (place (ownName path) ++ k) =
        (addedScript t path content).files.get? (place (ownName path) ++ k) := by
  have hroot := hplace []
  rw [List.append_nil] at hroot
  have hmade : ∀ k, (withPlace t' (ownName path)).get? (place (ownName path) ++ k) =
      (withPlace t (ownName path)).get? (place (ownName path) ++ k) := fun k => by
    rw [get?_withPlace_append, get?_withPlace_append, hplace]
  have hisDir : ∀ k, (withPlace t' (ownName path)).isDir (place (ownName path) ++ k) =
      (withPlace t (ownName path)).isDir (place (ownName path) ++ k) := fun k => by
    rw [FileTree.isDir, FileTree.isDir, hmade]
  have hisFile : t'.isFile (place (ownName path)) = t.isFile (place (ownName path)) := by
    rw [FileTree.isFile, FileTree.isFile, hroot]
  have htarget : scriptTarget (withPlace t' (ownName path)) (ownName path) =
      scriptTarget (withPlace t (ownName path)) (ownName path) := by
    rw [scriptTarget, scriptTarget, hisDir]
  obtain ⟨m, -, hm⟩ := scriptTarget_eq (withPlace t (ownName path)) (ownName path)
  rw [addedScript, addedScript, hisFile]
  cases t.isFile (place (ownName path)) with
  | true => exact ⟨rfl, hplace⟩
  | false =>
    simp only [Bool.false_eq_true, if_false, added, htarget, hm, hisDir]
    cases normalized path == place (ownName path) ++ m ||
        (withPlace t (ownName path)).isDir (place (ownName path) ++ m) with
    | true => exact ⟨rfl, hmade⟩
    | false =>
      refine ⟨rfl, fun k => ?_⟩
      by_cases hk : k = m
      · subst hk
        exact (FileTree.get?_put _ _ _).trans (FileTree.get?_put _ _ _).symm
      · have hne : place (ownName path) ++ k ≠ place (ownName path) ++ m := by simpa using hk
        exact (FileTree.get?_put_of_ne _ hne).trans ((hmade k).trans (FileTree.get?_put_of_ne _ hne).symm)

/-- What installing does before a package is entered depends on the source and on the place alone. -/
theorem Holds.filling_congr (h : Holds t names) (h' : Holds t' names') (hapart : Apart path)
    (hentry : t'.entry? path = t.entry? path)
    (hsource : ∀ k, t'.get? (normalized path ++ k) = t.get? (normalized path ++ k))
    (hplace : ∀ k, t'.get? (place (ownName path) ++ k) = t.get? (place (ownName path) ++ k)) :
    (filling limits t' path).done = (filling limits t path).done ∧
      ∀ k, (filling limits t' path).files.get? (place (ownName path) ++ k) =
        (filling limits t path).files.get? (place (ownName path) ++ k) := by
  unfold filling filled?
  rw [hentry]
  rcases hkind : t.entry? path with _ | content | _
  · exact ⟨rfl, hplace⟩
  · cases hscript : Text.endsWith path scriptExtension with
    | false => simpa using hplace
    | true => exact addedScript_congr content hplace
  · simp only [hapart.normalized_ne_nil, if_false, Option.getD_some]
    have hdir : t.pathIsDir path = true := by simp [FileTree.pathIsDir, hkind]
    have hdir' : t'.pathIsDir path = true := by simp [FileTree.pathIsDir, hentry, hkind]
    have hisFile : t'.isFile (place (ownName path)) = t.isFile (place (ownName path)) := by
      have hsame := hplace []
      rw [List.append_nil] at hsame
      rw [FileTree.isFile, FileTree.isFile, hsame]
    cases hfile : t.isFile (place (ownName path)) with
    | true =>
      rw [replaced, replaced, hisFile, hfile]
      exact ⟨rfl, hplace⟩
    | false => exact h.replaced_congr h' hapart hdir hdir' hfile (hisFile.trans hfile) hsource

/-- A path that is there stays there as long as the directories on its way do. -/
theorem entry?_of_dirs {e : Entry} (h : t.entry? path = some e)
    (hdirs : ∀ front, front <+: segments path → t.get? (follow (start path) front) = some .dir →
      t'.get? (follow (start path) front) = some .dir)
    (hend : t'.get? (normalized path) = some e) : t'.entry? path = some e := by
  obtain ⟨hreach, -⟩ := FileTree.reaches_of_entry? h
  have hreach' : t'.Reaches path (normalized path) :=
    ⟨hreach.null, FileTree.resolve_of_dirs hreach.resolve fun front hfront hne =>
      hdirs front hfront (FileTree.get?_follow_of_resolve hreach.resolve hfront hne)⟩
  rw [hreach'.entry?_eq, hend]

end Filling

/-! ## One more call -/

section Calls

variable {limits : Limits} {t : FileTree} {names : List String} {path other : String}

/-- The names that are registered once the source at a path is installed. -/
def namesAfter (limits : Limits) (t : FileTree) (names : List String) (path : String) : List String :=
  if (filling limits t path).done then enrolled names (ownName path) else names

variable (limits) in
theorem Holds.installedIn_eq (h : Holds t names) (hapart : Apart path) :
    Holds (filling limits t path).files names ∧ ((filling limits t path).done = true → IsPackage (ownName path)) ∧
    (installedIn limits path t).files = if (filling limits t path).done then
      (filling limits t path).files.put (place registerName) (registerFile (enrolled names (ownName path)))
      else (filling limits t path).files := by
  unfold installedIn filling
  cases hfilled : filled? limits t path with
  | none => exact ⟨h, fun hdone => absurd hdone Bool.false_ne_true, rfl⟩
  | some e =>
    obtain ⟨hholds, hname⟩ := h.holds_filled hapart.normalized_ne_nil hfilled
    refine ⟨hholds, hname, ?_⟩
    dsimp only [Effect.andThen, Option.getD_some]
    rw [hholds.entered_eq]
    split
    · rfl
    · rfl

variable (limits) in
theorem Holds.installedIn_spec (h : Holds t names) (hapart : Apart path) :
    Holds (installedIn limits path t).files (namesAfter limits t names path) ∧
    (∀ k, (installedIn limits path t).files.get? (place (ownName path) ++ k) =
      (filling limits t path).files.get? (place (ownName path) ++ k)) := by
  obtain ⟨hholds, hname, hfiles⟩ := h.installedIn_eq limits hapart
  rw [hfiles, namesAfter]
  cases hdone : (filling limits t path).done with
  | false => exact ⟨hholds, fun k => rfl⟩
  | true =>
    refine ⟨hholds.put_register (nodup_enrolled h.nodup) ?_, fun k => ?_⟩
    · exact isPackage_of_mem_enrolled h.packages (hname hdone)
    · exact FileTree.get?_put_of_ne _ (place_append_ne (hname hdone).ne_register k)

theorem Apart.destination_eq (h : Apart path) : destination path = place (ownName path) :=
  destination_of_ne h.normalized_ne_nil

theorem Apart.get?_installedIn (h : Apart path) {l : Location} (hl : ¬ place (ownName path) <+: l)
    (hregister : l ≠ place registerName) : (installedIn limits path t).files.get? l = t.get? l :=
  get?_installedIn_outside (by rwa [h.destination_eq]) hregister

variable (limits) in
/-- No source is at the register or in the place of a package. -/
theorem Apart.get?_source (h : Apart path) (hother : Apart other) (k : Location) :
    (installedIn limits other t).files.get? (normalized path ++ k) = t.get? (normalized path ++ k) := by
  refine hother.get?_installedIn (h.not_prefix (storePlace_prefix_place _)) fun heq => ?_
  apply h.not_prefix (k := k) (storePlace_prefix_place registerName)
  exact ⟨[], by rw [heq, List.append_nil]⟩

variable (limits) in
theorem Apart.get?_path (h : Apart path) (hother : Apart other) :
    (installedIn limits other t).files.get? (normalized path) = t.get? (normalized path) := by
  simpa using h.get?_source limits hother (t := t) []

/-- A package of the register's name is never installed. -/
theorem Holds.installedIn_register (h : Holds t names) (hapart : Apart path)
    (hname : ownName path = registerName) : (installedIn limits path t).files = t := by
  refine files_installedIn_of_file h.store ?_
  rw [hapart.destination_eq, hname]
  exact h.toPrepared.register

/-- A path that does not lead into the place of a package does not depend on whether the package is
installed. -/
theorem Holds.pathExists_installedIn (h : Holds t names) (hapart : Apart path) (hother : Apart other)
    (hleads : ¬ LeadsInto path (place (ownName other))) :
    (installedIn limits other t).files.pathExists path = t.pathExists path := by
  obtain ⟨hholds, -⟩ := h.installedIn_spec limits hother
  have hsource := hapart.get?_path limits hother (t := t)
  have hsame : ∀ front, front <+: segments path → follow (start path) front ≠ place registerName →
      (installedIn limits other t).files.get? (follow (start path) front) = t.get? (follow (start path) front) :=
    fun front hfront hne => hother.get?_installedIn (fun hin => hleads ⟨front, hfront, hin⟩) hne
  rw [Bool.eq_iff_iff, FileTree.pathExists, FileTree.pathExists, Option.isSome_iff_exists,
    Option.isSome_iff_exists]
  constructor
  · rintro ⟨e, he⟩
    refine ⟨e, entry?_of_dirs he (fun front hfront hdir => ?_) ?_⟩
    · rwa [hsame front hfront (hholds.ne_register_of_dir hdir)] at hdir
    · rw [← hsource]
      exact (FileTree.reaches_of_entry? he).2
  · rintro ⟨e, he⟩
    refine ⟨e, entry?_of_dirs he (fun front hfront hdir => ?_) ?_⟩
    · rwa [hsame front hfront (h.ne_register_of_dir hdir)]
    · rw [hsource]
      exact (FileTree.reaches_of_entry? he).2

/-! ## Two packages -/

/-- Installing another package does not change what installing a source does, as long as its path is
neither made nor cut off. -/
theorem Holds.filling_after (h : Holds t names) (hapart : Apart path) (hother : Apart other)
    (hne : ownName path ≠ ownName other) (hregister : ownName path ≠ registerName)
    (hexists : (installedIn limits other t).files.pathExists path = t.pathExists path) :
    (filling limits (installedIn limits other t).files path).done = (filling limits t path).done ∧
      ∀ k, (filling limits (installedIn limits other t).files path).files.get? (place (ownName path) ++ k) =
        (filling limits t path).files.get? (place (ownName path) ++ k) := by
  have hsource := hapart.get?_source limits hother (t := t)
  refine h.filling_congr (h.installedIn_spec limits hother).1 hapart ?_ hsource fun k => ?_
  · -- What is at the path is the same, if there is something.
    have hroot := hapart.get?_path limits hother (t := t)
    cases hentry : t.entry? path with
    | none =>
      rw [FileTree.pathExists, FileTree.pathExists, hentry] at hexists
      simpa using hexists
    | some e =>
      rw [FileTree.pathExists, FileTree.pathExists, hentry] at hexists
      obtain ⟨e', he'⟩ := Option.isSome_iff_exists.mp hexists
      rw [he', ← (FileTree.reaches_of_entry? he').2, ← (FileTree.reaches_of_entry? hentry).2, hroot]
  · exact hother.get?_installedIn (not_place_prefix_append (Ne.symm hne) k) (place_append_ne hregister k)

theorem perm_enrolled {a b : String} (h : names.Nodup) :
    (enrolled (enrolled names a) b).Perm (enrolled (enrolled names b) a) := by
  have hnodup : ∀ c d, (enrolled (enrolled names c) d).Nodup := fun _ _ => nodup_enrolled (nodup_enrolled h)
  refine (List.perm_ext_iff_of_nodup (hnodup a b) (hnodup b a)).mpr fun n => ?_
  simp only [mem_enrolled]
  tauto

/-- Two packages of different names are installed in either order with the same result. -/
theorem Holds.installedIn_comm (h : Holds t names) (hapart : Apart path) (hother : Apart other)
    (hne : ownName path ≠ ownName other)
    (hexists : (installedIn limits other t).files.pathExists path = t.pathExists path)
    (hexists' : (installedIn limits path t).files.pathExists other = t.pathExists other) :
    (∀ k, k ≠ place registerName → (installedIn limits other (installedIn limits path t).files).files.get? k =
      (installedIn limits path (installedIn limits other t).files).files.get? k) ∧
    ∃ names₁ names₂, Holds (installedIn limits other (installedIn limits path t).files).files names₁ ∧
      Holds (installedIn limits path (installedIn limits other t).files).files names₂ ∧ names₁.Perm names₂ := by
  obtain ⟨hholds, hget⟩ := h.installedIn_spec limits hapart
  obtain ⟨hholds', hget'⟩ := h.installedIn_spec limits hother
  by_cases hregister : ownName path = registerName
  · rw [h.installedIn_register hapart hregister, hholds'.installedIn_register hapart hregister]
    exact ⟨fun k _ => rfl, _, _, hholds', hholds', .refl _⟩
  by_cases hregister' : ownName other = registerName
  · rw [h.installedIn_register hother hregister', hholds.installedIn_register hother hregister']
    exact ⟨fun k _ => rfl, _, _, hholds, hholds, .refl _⟩
  obtain ⟨hdone, hfilling⟩ := h.filling_after hapart hother hne hregister hexists
  obtain ⟨hdone', hfilling'⟩ := h.filling_after hother hapart (Ne.symm hne) hregister' hexists'
  obtain ⟨hboth, hlast⟩ := hholds.installedIn_spec limits hother
  obtain ⟨hboth', hlast'⟩ := hholds'.installedIn_spec limits hapart
  refine ⟨fun k hk => ?_, _, _, hboth, hboth', ?_⟩
  · by_cases hin : place (ownName path) <+: k
    · obtain ⟨k, rfl⟩ := hin
      rw [hother.get?_installedIn (not_place_prefix_append (Ne.symm hne) k) hk, hget, hlast', hfilling]
    by_cases hin' : place (ownName other) <+: k
    · obtain ⟨k, rfl⟩ := hin'
      rw [hapart.get?_installedIn hin hk, hget', hlast, hfilling']
    · rw [hother.get?_installedIn hin' hk, hapart.get?_installedIn hin hk, hapart.get?_installedIn hin hk,
        hother.get?_installedIn hin' hk]
  · simp only [namesAfter, hdone, hdone']
    cases (filling limits t path).done with
    | false => exact .refl _
    | true =>
      cases (filling limits t other).done with
      | false => exact .refl _
      | true => exact perm_enrolled h.nodup

/-! ## The same package again -/

/-- Directories stay when a script is put into the place of its package. -/
theorem get?_addedScript_dir {content : Text.Bytes} {l : Location} (h : t.get? l = some .dir) :
    (addedScript t path content).files.get? l = some .dir := by
  have hput : ∀ {u : FileTree} {m : Location} {e : Entry}, u.get? l = some .dir → u.isDir m = false →
      (u.put m e).get? l = some .dir := by
    intro u m e hdir hm
    have hne : l ≠ m := by
      rintro rfl
      rw [FileTree.isDir_iff.mpr hdir] at hm
      cases hm
    rwa [FileTree.get?_put_of_ne _ hne]
  have hmade : (withPlace t (ownName path)).get? l = some .dir := by
    unfold withPlace
    split
    · exact h
    · rename_i hplace
      exact hput h (by simpa using hplace)
  unfold addedScript
  split
  · exact h
  unfold added
  split
  · exact hmade
  · rename_i hfree
    simp only [Bool.or_eq_true, not_or, Bool.not_eq_true] at hfree
    exact hput hmade hfree.2

/-- A script that was put into the place of its package is put there again. -/
theorem addedScript_again {u : FileTree} {content : Text.Bytes}
    (hdone : (addedScript t path content).done = true)
    (hplace : ∀ k, u.get? (place (ownName path) ++ k) =
      (addedScript t path content).files.get? (place (ownName path) ++ k)) (k : Location) :
    (addedScript u path content).files.get? (place (ownName path) ++ k) =
      u.get? (place (ownName path) ++ k) := by
  obtain ⟨j, hj, htarget⟩ := scriptTarget_eq (withPlace t (ownName path)) (ownName path)
  have hadded : (addedScript t path content).files =
      (withPlace t (ownName path)).put (place (ownName path) ++ j) (.file content) := by
    rw [files_addedScript_of_done hdone, htarget]
  have hcopy : u.get? (place (ownName path) ++ j) = some (.file content) := by
    rw [hplace, hadded, FileTree.get?_put]
  have hrest : ∀ k, k ≠ j → u.get? (place (ownName path) ++ k) =
      (withPlace t (ownName path)).get? (place (ownName path) ++ k) := by
    intro k hk
    rw [hplace, hadded, FileTree.get?_put_of_ne _ (by simpa using hk)]
  have hdir : u.get? (place (ownName path)) = some .dir := by
    have hroot := hrest [] (Ne.symm hj)
    rwa [List.append_nil, get?_withPlace] at hroot
  -- The copy is no directory, so the script goes to the same location again.
  have htarget' : scriptTarget u (ownName path) = place (ownName path) ++ j := by
    rw [← htarget]
    unfold scriptTarget at htarget ⊢
    cases hinner : (withPlace t (ownName path)).isDir (place (ownName path) ++ [ownName path]) with
    | true =>
      rw [hinner, if_pos rfl, List.append_right_inj] at htarget
      have hsame := hrest [ownName path] (by simp [← htarget])
      rw [FileTree.isDir, hsame, FileTree.isDir_iff.mp hinner]
      rfl
    | false =>
      rw [hinner, if_neg Bool.false_ne_true, List.append_right_inj] at htarget
      rw [FileTree.isDir, htarget, hcopy]
      rfl
  have hisFile : u.isFile (place (ownName path)) = false := by simp [FileTree.isFile, hdir]
  simp only [addedScript, hisFile, added, withPlace_of_dir hdir, htarget', Bool.false_eq_true, if_false]
  split
  · rfl
  · by_cases hk : k = j
    · rw [hk, FileTree.get?_put, hcopy]
    · rw [FileTree.get?_put_of_ne _ (by simpa using hk)]

/-- A directory that was put in the place of its package is put there again, unless the way to it led through
the old version. -/
theorem Holds.filling_again_dir (h : Holds t names) (hapart : Apart path) (hdir : t.pathIsDir path = true)
    (hfile : t.isFile (place (ownName path)) = false) :
    ((filling limits (installedIn limits path t).files path).done = true → (filling limits t path).done = true) ∧
      ∀ k, (filling limits (installedIn limits path t).files path).files.get? (place (ownName path) ++ k) =
        (installedIn limits path t).files.get? (place (ownName path) ++ k) := by
  obtain ⟨hholds, hget⟩ := h.installedIn_spec limits hapart
  have hsource := hapart.get?_source limits hapart (t := t)
  have hentry : t.entry? path = some .dir := by simpa [FileTree.pathIsDir] using hdir
  obtain ⟨hdone, hcontent⟩ := h.replaced_spec hapart hdir hfile
  by_cases hleads : LeadsInto path (place (ownName path))
  · -- Nothing is left at the place, so the path leads nowhere.
    have hempty : ∀ k, (installedIn limits path t).files.get? (place (ownName path) ++ k) = none := by
      intro k
      rw [hget, filling_dir hentry hapart, hcontent, if_pos hleads]
    have hlost : (installedIn limits path t).files.entry? path = none := by
      cases hentry' : (installedIn limits path t).files.entry? path with
      | none => rfl
      | some e =>
        obtain ⟨hreach, -⟩ := FileTree.reaches_of_entry? hentry'
        obtain ⟨front, hfront, k, hk⟩ := hleads
        have hne : front ≠ segments path := by
          intro heq
          rw [heq, ← normalized_eq] at hk
          exact hapart.outside ((storePlace_prefix_place _).trans ⟨k, hk⟩)
        have hon := FileTree.get?_follow_of_resolve hreach.resolve hfront hne
        rw [← hk, hempty] at hon
        cases hon
    have hrefused : filling limits (installedIn limits path t).files path = ⟨false, (installedIn limits path t).files⟩ := by
      simp [filling, filled?, hlost]
    rw [hrefused]
    exact ⟨fun hdone => absurd hdone Bool.false_ne_true, fun k => rfl⟩
  · have hend : (installedIn limits path t).files.get? (normalized path) = some .dir :=
      (hapart.get?_path limits hapart).trans (FileTree.reaches_of_pathIsDir hdir).2
    have hentry' : (installedIn limits path t).files.entry? path = some .dir := by
      refine entry?_of_dirs hentry (fun front hfront hon => ?_) hend
      rwa [hapart.get?_installedIn (fun hin => hleads ⟨front, hfront, hin⟩) (h.ne_register_of_dir hon)]
    have hfile' : (installedIn limits path t).files.isFile (place (ownName path)) = false := by
      have hplace := hget []
      rw [List.append_nil, filling_dir hentry hapart] at hplace
      have hmade := hcontent []
      rw [List.append_nil, if_neg hleads] at hmade
      simp [FileTree.isFile, hplace, hmade, copyContent]
    obtain ⟨hdone', hget'⟩ := h.replaced_congr hholds hapart hdir
      (by simp [FileTree.pathIsDir, hentry']) hfile hfile' hsource
    rw [filling_dir hentry' hapart, filling_dir hentry hapart]
    refine ⟨fun htrue => hdone' ▸ htrue, fun k => ?_⟩
    rw [hget', hget, filling_dir hentry hapart]

/-- Installing a source again fills the place of its package as before, and a package is not entered that was
not entered before. -/
theorem Holds.filling_again (h : Holds t names) (hapart : Apart path) :
    ((filling limits (installedIn limits path t).files path).done = true → (filling limits t path).done = true) ∧
      ∀ k, (filling limits (installedIn limits path t).files path).files.get? (place (ownName path) ++ k) =
        (installedIn limits path t).files.get? (place (ownName path) ++ k) := by
  obtain ⟨-, hget⟩ := h.installedIn_spec limits hapart
  obtain ⟨-, -, hfiles⟩ := h.installedIn_eq limits hapart
  -- Where nothing was changed, the same is done again.
  have hunchanged : (installedIn limits path t).files = t →
      ((filling limits (installedIn limits path t).files path).done = true → (filling limits t path).done = true) ∧
        ∀ k, (filling limits (installedIn limits path t).files path).files.get? (place (ownName path) ++ k) =
          (installedIn limits path t).files.get? (place (ownName path) ++ k) := by
    intro hsame
    refine ⟨by rw [hsame]; exact id, fun k => ?_⟩
    rw [hget, hsame]
  rcases hentry : t.entry? path with _ | content | _
  · exact hunchanged (by simp [installedIn, filled?, hentry])
  · cases hscript : Text.endsWith path scriptExtension with
    | false => exact hunchanged (by simp [installedIn, filled?, hentry, hscript])
    | true =>
      have hsource := (FileTree.reaches_of_entry? hentry).2
      cases hdone : (addedScript t path content).done with
      | false =>
        refine hunchanged (hfiles.trans ?_)
        rw [filling_script hentry hscript, hdone]
        exact files_addedScript_of_failed (fun hnone k => h.closed _ k hnone) hsource hdone
      | true =>
        have hentry' : (installedIn limits path t).files.entry? path = some (.file content) := by
          refine entry?_of_dirs hentry (fun front hfront hon => ?_) ?_
          · rw [hfiles, filling_script hentry hscript, hdone, if_pos rfl,
              FileTree.get?_put_of_ne _ (h.ne_register_of_dir hon)]
            exact get?_addedScript_dir hon
          · exact (hapart.get?_path limits hapart).trans hsource
        rw [filling_script hentry' hscript, filling_script hentry hscript]
        refine ⟨fun _ => hdone, addedScript_again hdone fun k => ?_⟩
        rw [hget, filling_script hentry hscript]
  · cases hfile : t.isFile (place (ownName path)) with
    | true =>
      refine hunchanged (files_installedIn_of_file h.store ?_)
      rwa [hapart.destination_eq]
    | false => exact h.filling_again_dir hapart (by simp [FileTree.pathIsDir, hentry]) hfile

/-- Installing a source twice is the same as installing it once. -/
theorem Holds.installedIn_again (h : Holds t names) (hapart : Apart path) (k : Location) :
    (installedIn limits path (installedIn limits path t).files).files.get? k = (installedIn limits path t).files.get? k := by
  obtain ⟨hholds, -⟩ := h.installedIn_spec limits hapart
  obtain ⟨hholds', hget'⟩ := hholds.installedIn_spec limits hapart
  obtain ⟨hdone, hsame⟩ := h.filling_again hapart
  by_cases hregister : k = place registerName
  · -- A package that is entered again was entered before.
    have hnames : namesAfter limits (installedIn limits path t).files (namesAfter limits t names path) path =
        namesAfter limits t names path := by
      rw [namesAfter]
      split
      · rename_i hagain
        have hmem : ownName path ∈ namesAfter limits t names path := by
          rw [namesAfter, if_pos (hdone hagain)]
          exact mem_enrolled.mpr (.inr rfl)
        rw [enrolled, if_pos hmem]
      · rfl
    rw [hregister, hholds'.register, hnames, hholds.register]
  by_cases hin : place (ownName path) <+: k
  · obtain ⟨k, rfl⟩ := hin
    rw [hget', hsame]
  · exact hapart.get?_installedIn hin hregister

end Calls

/-- Installing another package neither makes a path nor cuts it off. -/
def Undisturbed (limits : Limits) (s : Session) (path other : String) : Prop :=
  (install (.within limits) other s).2.files.pathExists path = ((Store.within limits).prepare s).2.files.pathExists path

section Sessions

variable {limits : Limits} {s : Session} {names : List String} {path other : String}

theorem Holds.files_install (h : Holds s.files names) (path : String) :
    (install (.within limits) path s).2.files = (installedIn limits path s.files).files := by
  rw [h.ready.files_install, h.prepared_eq]

theorem Ready.undisturbed_iff (h : Ready s.files names) :
    Undisturbed limits s path other ↔ (installedIn limits other (prepared s.files).files).files.pathExists path =
      (prepared s.files).files.pathExists path := by
  rw [Undisturbed, h.files_install, (ends_prepare s.files s rfl).2]

/-- Two calls one after the other. -/
theorem Ready.files_install_install (h : Ready s.files names) (hapart : Apart path) (other : String) :
    (install (.within limits) other (install (.within limits) path s).2).2.files =
      (installedIn limits other (installedIn limits path (prepared s.files).files).files).files := by
  have hholds := (h.holds.installedIn_spec limits hapart).1
  rw [← h.files_install path] at hholds ⊢
  exact hholds.files_install other

end Sessions

/-- Starting in a working directory without a store, in every state that calls lead to: installing a
source apart from the store a second time changes nothing. Two such sources of different names are
installed in either order with the same files, and with registers that have the same entries, as long as
installing either of them neither makes nor cuts off the path of the other; this is so if the path does
not lead into the other's place. -/
theorem installs_repeat_and_commute (limits : Limits) (s : Session) (hs : Bare s.files) (actions : List Action) (p : String)
    (hp : Apart p) :
    let base := after limits actions s
    (∀ k, (install (.within limits) p (install (.within limits) p base).2).2.files.get? k =
      (install (.within limits) p base).2.files.get? k) ∧
    ∀ q, Apart q → ownName p ≠ ownName q →
      (¬ LeadsInto p (place (ownName q)) → Undisturbed limits base p q) ∧
      (¬ LeadsInto q (place (ownName p)) → Undisturbed limits base q p) ∧
      (Undisturbed limits base p q → Undisturbed limits base q p →
        let pq := (install (.within limits) q (install (.within limits) p base).2).2.files
        let qp := (install (.within limits) p (install (.within limits) q base).2).2.files
        (∀ k, k ≠ place registerName → pq.get? k = qp.get? k) ∧
        ∃ entries entries', (pq.readText "lib/packages.json" >>= Json.parse) = .ok (.object entries) ∧
          (qp.readText "lib/packages.json" >>= Json.parse) = .ok (.object entries') ∧
          (entries.map (·.1)).Nodup ∧ entries.Perm entries') := by
  intro base
  obtain ⟨names, hready⟩ : ∃ names, Ready base.files names := hs.ready.after actions
  have hholds := hready.holds
  refine ⟨fun k => ?_, fun q hq hne => ⟨?_, ?_, ?_⟩⟩
  · rw [hready.files_install_install hp, hready.files_install]
    exact hholds.installedIn_again hp k
  · intro hleads
    exact hready.undisturbed_iff.mpr (hholds.pathExists_installedIn hp hq hleads)
  · intro hleads
    exact hready.undisturbed_iff.mpr (hholds.pathExists_installedIn hq hp hleads)
  · intro hpq hqp
    obtain ⟨hsame, names₁, names₂, hholds₁, hholds₂, hperm⟩ := hholds.installedIn_comm hp hq hne
      (hready.undisturbed_iff.mp hpq) (hready.undisturbed_iff.mp hqp)
    rw [← hready.files_install_install hp] at hsame hholds₁
    rw [← hready.files_install_install hq] at hsame hholds₂
    refine ⟨hsame, names₁.map entryOf, names₂.map entryOf, hholds₁.parse_readText, hholds₂.parse_readText,
      ?_, hperm.map _⟩
    rw [keys_registerOf]
    exact hholds₁.nodup

theorem toolbox_installs_commute :
    Bare toolbox.files ∧ Apart "pkg" ∧ Apart "tool.stryke" ∧
      ∀ k, k ≠ place registerName →
        (install (.within .usual) "tool.stryke" (install (.within .usual) "pkg" toolbox).2).2.files.get? k =
          (install (.within .usual) "pkg" (install (.within .usual) "tool.stryke" toolbox).2).2.files.get? k := by
  have hbare : Bare toolbox.files := by decide +kernel
  have hp : Apart "pkg" := by decide +kernel
  have hq : Apart "tool.stryke" := by decide +kernel
  obtain ⟨-, hcommute⟩ := installs_repeat_and_commute .usual toolbox hbare [] "pkg" hp
  obtain ⟨hpq, hqp, hsame⟩ := hcommute "tool.stryke" hq (by decide +kernel)
  exact ⟨hbare, hp, hq, (hsame (hpq (by decide +kernel)) (hqp (by decide +kernel))).1⟩

/-- A way to the script that is there only once the directory is installed. -/
def throughPackage : String := "lib/pkg/../../tool.stryke"

theorem toolbox_installs_differ :
    Bare toolbox.files ∧ Apart throughPackage ∧ Apart "pkg" ∧ ownName throughPackage ≠ ownName "pkg" ∧
      (install (.within .usual) "pkg" (install (.within .usual) throughPackage toolbox).2).2.files.get?
        (place "tool.stryke") = none ∧
      (install (.within .usual) throughPackage (install (.within .usual) "pkg" toolbox).2).2.files.get?
        (place "tool.stryke") = some .dir := by
  decide +kernel

end LineScript.Package
