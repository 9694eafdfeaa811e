import LineScript.Proofs.Package.Effect

/-!
# The states that calls of the store lead to

Whatever their paths are, calls of the store keep a store in order: beside the register there are only
directories, and the register has an entry for each of the packages that it names. There is one exception.
Where a path leads to the root, the whole store is taken away, and the next call makes a new one.
-/

namespace LineScript.Package

open Files

/-- The files hold a store with packages of the given names, once it is made where it is missing. -/
structure Ready (t : FileTree) (names : List String) : Prop where
  done : (prepared t).done = true
  holds : Holds (prepared t).files names

section Ready

variable {limits : Limits} {t : FileTree} {names : List String} {path : String} {e : Effect}

theorem Holds.prepared_eq (h : Holds t names) : prepared t = ⟨true, t⟩ := by
  simp [prepared, h.work, h.store, withRegister, h.register, registerFile]

theorem Holds.ready (h : Holds t names) : Ready t names := by
  constructor
  · rw [h.prepared_eq]
  · rwa [h.prepared_eq]

theorem Holds.toPrepared (h : Holds t names) : Prepared t := by
  have hprepared := prepared_of_done h.ready.done
  rwa [h.prepared_eq] at hprepared

/-- The register is a file, so no path leads through it. -/
theorem Holds.ne_register_of_dir (h : Holds t names) {l : Location} (hdir : t.get? l = some .dir) :
    l ≠ place registerName := by
  rintro rfl
  rw [h.register] at hdir
  cases hdir

theorem Bare.prepared_eq (h : Bare t) : prepared t = ⟨true, opened t⟩ := by
  have hstore := h.empty storePlace (List.prefix_refl _)
  have hregister : (t.put storePlace .dir).get? (place registerName) = none :=
    (FileTree.get?_put_of_ne _ (by decide)).trans (h.empty _ (storePlace_prefix_place _))
  simp [prepared, h.work, hstore, withRegister, hregister, opened]

theorem Bare.ready (h : Bare t) : Ready t [] := by
  constructor
  · rw [h.prepared_eq]
  · rw [h.prepared_eq]
    exact h.holds_opened

/-- Where the root was installed, a new store can be made. -/
theorem Holds.ready_emptied (h : Holds t names) (path : String) : Ready (emptied t path) [] := by
  have hbare : Bare (t.prune storePlace) := by
    refine ⟨h.distinct.prune _, ?_, fun k hk => ?_⟩
    · exact (FileTree.get?_prune_of_not_prefix (by simp [storePlace, work])).trans h.work
    · rw [FileTree.get?_prune, if_pos hk]
  unfold emptied
  split
  · have hwork : ((t.prune storePlace).put storePlace .dir).get? work = some .dir :=
      (FileTree.get?_put_of_ne _ (by decide)).trans hbare.work
    have hregister : ((t.prune storePlace).put storePlace .dir).get? (place registerName) = none :=
      (FileTree.get?_put_of_ne _ (by decide)).trans (hbare.empty _ (storePlace_prefix_place _))
    have hprepared : prepared ((t.prune storePlace).put storePlace .dir) =
        ⟨true, opened (t.prune storePlace)⟩ := by
      simp [prepared, hwork, FileTree.get?_put, withRegister, hregister, opened]
    constructor
    · rw [hprepared]
    · rw [hprepared]
      exact hbare.holds_opened
  · exact hbare.ready

/-- A package is entered in the register of a store. -/
theorem Holds.entered_eq (h : Holds t names) (name : String) :
    entered limits t name = ⟨true, t.put (place registerName) (registerFile (enrolled names name))⟩ := by
  have henter : (t.readText "lib/packages.json" >>= Json.parseWithin limits.levels >>=
      (enter · name ("lib/" ++ name))) = .ok (registerOf (enrolled names name)) := by
    rw [h.parseWithin_readText limits]
    exact enter_registerOf names name
  rw [entered, henter]
  rfl

theorem Holds.vacated_eq (h : Holds t names) {name : String} (hfile : t.isFile (place name) = false) :
    vacated t name = t.prune (place name) := by
  rcases hplace : t.get? (place name) with _ | content | _
  · simp [vacated, FileTree.isDir, hplace, h.prune_place hplace]
  · simp [FileTree.isFile, hplace] at hfile
  · simp [vacated, FileTree.isDir, hplace]

/-- However a directory is put in the place of its package, nothing else changes. -/
theorem Holds.refilled_replaced (h : Holds t names) (hname : IsName (ownName path))
    (hfile : t.isFile (place (ownName path)) = false) :
    Refilled t (replaced limits t path).files (ownName path) := by
  have hpackage : IsPackage (ownName path) := ⟨hname, h.toPrepared.ne_registerName hfile⟩
  rw [replaced, hfile, h.vacated_eq hfile]
  simp only [Bool.false_eq_true, if_false, copied]
  split
  · exact refilled_prune hpackage h.distinct
  split
  · have hempty : ∀ e ∈ ([] : List (Location × Entry)), e.1 ≠ [] := by simp
    exact refilled_withCopy hpackage h.distinct hempty
  · refine refilled_withCopy hpackage h.distinct fun e he => ?_
    exact (FileTree.mem_below.mp (List.mem_filter.mp he).1).1

/-- However a script is put into the place of its package, nothing else changes. -/
theorem Holds.refilled_addedScript (h : Holds t names) {content : Text.Bytes}
    (hname : IsPackage (ownName path)) (hsource : t.get? (normalized path) = some (.file content))
    (copy : Text.Bytes) :
    (addedScript t path copy).files = t ∨ Refilled t (addedScript t path copy).files (ownName path) := by
  cases hdone : (addedScript t path copy).done with
  | false => exact .inl (files_addedScript_of_failed (fun hnone k => h.closed _ k hnone) hsource hdone)
  | true =>
    refine .inr ?_
    obtain ⟨k, hk, htarget⟩ := scriptTarget_eq (withPlace t (ownName path)) (ownName path)
    rw [files_addedScript_of_done hdone, htarget]
    exact refilled_script hname h.distinct hk copy

/-- A store stays one when the place of a package is filled. -/
theorem Holds.holds_filled (h : Holds t names) (hroot : normalized path ≠ [])
    (hfilled : filled? limits t path = some e) :
    Holds e.files names ∧ (e.done = true → IsPackage (ownName path)) := by
  rcases hentry : t.entry? path with _ | content | _
  · simp [filled?, hentry] at hfilled
  · obtain ⟨hreach, hsource⟩ := FileTree.reaches_of_entry? hentry
    cases hscript : Text.endsWith path scriptExtension with
    | false => simp [filled?, hentry, hscript] at hfilled
    | true =>
      simp only [filled?, hentry, hscript, if_true, Option.some.injEq] at hfilled
      subst hfilled
      have hname := (ownName_script hreach hscript).2
      refine ⟨?_, fun _ => hname⟩
      rcases h.refilled_addedScript hname hsource content with hsame | hrefilled
      · rwa [hsame]
      · exact hrefilled.holds h
  · have hname := isName_ownName (FileTree.reaches_of_entry? hentry).1 hroot
    simp only [filled?, hentry, hroot, if_false, Option.some.injEq] at hfilled
    subst hfilled
    -- The only file of a store is its register, so a package of this name is never entered.
    cases hfile : t.isFile (place (ownName path)) with
    | true =>
      have hblocked : replaced limits t path = ⟨false, t⟩ := by simp [replaced, hfile]
      rw [hblocked]
      exact ⟨h, fun hdone => absurd hdone Bool.false_ne_true⟩
    | false =>
      have hrefilled : Refilled t (replaced limits t path).files (ownName path) :=
        h.refilled_replaced hname hfile
      exact ⟨hrefilled.holds h, fun _ => hrefilled.isPackage⟩

/-- Installing into a store leaves a store behind, or files of which one can be made. -/
theorem Holds.ready_installedIn (h : Holds t names) (path : String) :
    ∃ names', Ready (installedIn limits path t).files names' := by
  unfold installedIn
  cases hfilled : filled? limits t path with
  | none => exact ⟨names, h.ready⟩
  | some e =>
    by_cases hroot : normalized path = []
    · rw [filled_root hroot hfilled]
      exact ⟨[], h.ready_emptied path⟩
    · obtain ⟨hholds, hname⟩ := h.holds_filled hroot hfilled
      dsimp only [Effect.andThen]
      split
      · rename_i hdone
        rw [hholds.entered_eq]
        have hpackages := isPackage_of_mem_enrolled h.packages (hname hdone)
        exact ⟨_, (hholds.put_register (nodup_enrolled h.nodup) hpackages).ready⟩
      · exact ⟨names, hholds.ready⟩

theorem Ready.files_install {s : Session} (h : Ready s.files names) (path : String) :
    (install (.within limits) path s).2.files = (installedIn limits path (prepared s.files).files).files := by
  rw [Package.files_install, installed, Effect.andThen, if_pos h.done]

/-- Every call leads from one such state to another. -/
theorem Ready.run {s : Session} (h : Ready s.files names) (a : Action) :
    ∃ names', Ready (a.run limits s).2.files names' := by
  cases a with
  | install path =>
    have hfiles : (Action.run limits (.install path) s).2.files = _ := h.files_install path
    rw [hfiles]
    exact h.holds.ready_installedIn path
  | uninstall name =>
    obtain ⟨t', names', htakes, huninstalls⟩ :=
      uninstalls_uninstall limits ((ends_prepare s.files).takes h.done) h.holds name
    have hholds := (@Changes.uninstall limits _ _ _ _ _ huninstalls).holds h.holds
    have hfiles : (Action.run limits (.uninstall name) s).2.files = t' := (htakes s rfl).2
    rw [hfiles]
    exact ⟨names', hholds.ready⟩

theorem Ready.after {s : Session} (h : Ready s.files names) (actions : List Action) :
    ∃ names', Ready (after limits actions s).files names' := by
  induction actions generalizing s names with
  | nil => exact ⟨names, h⟩
  | cons a actions ih =>
    obtain ⟨names', hready⟩ := @Ready.run limits _ _ h a
    exact ih hready

end Ready

end LineScript.Package
