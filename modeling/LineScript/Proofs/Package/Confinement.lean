import LineScript.Proofs.Package.Effect

/-!
# What installing leaves alone

Installing changes the place of the package and the register, and makes a store where there is none. So a
source is kept that neither holds the store nor lies in the place of its package. A run that fails does not
reach the register, but it does not bring back what was at the place before either.
-/

namespace LineScript.Package

open Files

/-! ## The source -/

section Source

variable {limits : Limits} {t : FileTree} {path : String} {content : Text.Bytes}

/-- A script is never overwritten by its own copy. -/
theorem get?_addedScript_source (h : t.get? (normalized path) = some (.file content)) (copy : Text.Bytes) :
    (addedScript t path copy).files.get? (normalized path) = some (.file content) := by
  unfold addedScript
  split
  · exact h
  · rename_i hplace
    -- The source is a file, and at the place there is none.
    have hne : normalized path ≠ place (ownName path) := by
      intro heq
      rw [heq] at h
      simp [FileTree.isFile, h] at hplace
    unfold added
    split
    · exact (get?_withPlace_of_ne hne).trans h
    · rename_i htarget
      have hne' : normalized path ≠ scriptTarget (withPlace t (ownName path)) (ownName path) := by
        intro heq
        simp [heq] at htarget
      exact (FileTree.get?_put_of_ne _ hne').trans ((get?_withPlace_of_ne hne).trans h)

/-- A file at the path itself is kept. -/
theorem get?_installedIn_source (h : t.get? (normalized path) = some (.file content)) :
    (installedIn limits path t).files.get? (normalized path) = some (.file content) := by
  unfold installedIn
  rcases hentry : t.entry? path with _ | copy | _
  · simpa only [filled?, hentry] using h
  · have hreach := (FileTree.reaches_of_entry? hentry).1
    simp only [filled?, hentry]
    cases hscript : Text.endsWith path scriptExtension with
    | false => exact h
    | true =>
      -- A script does not have the name of the register.
      have hne : normalized path ≠ place registerName := by
        intro heq
        apply (ownName_script hreach hscript).2.ne_register
        rw [ownName, heq]
        rfl
      exact (get?_enter_of_ne hne).trans (get?_addedScript_source h copy)
  · rw [(FileTree.reaches_of_entry? hentry).2] at h
    cases h

/-- What is below a path and in the place of its package lies in both, unless one of them holds the other. -/
theorem prefix_of_destination_prefix {l : Location} (hl : normalized path <+: l)
    (h : destination path <+: l) :
    destination path <+: normalized path ∨ normalized path <+: storePlace := by
  rcases List.prefix_or_prefix_of_prefix h hl with hin | habove
  · exact .inl hin
  · unfold destination at habove ⊢
    split at habove
    · exact .inr habove
    · rcases List.prefix_concat_iff.mp habove with heq | hstore
      · refine .inl ?_
        rw [heq]
        exact List.prefix_refl _
      · exact .inr hstore

end Source

/-- Whatever the files are and however installing ends, every file at or below the path is kept, apart from
the register and what is at the place of the package; a file at the path itself is kept without exception.
So the source is kept in full if it neither holds the store nor lies in the place of its package. -/
theorem install_keeps_source (limits : Limits) (s : Session) (path : String) (l : Location) (content : Text.Bytes)
    (hl : normalized path <+: l) (hfile : s.files.get? l = some (.file content)) :
    (l = normalized path ∨ l ≠ place registerName ∧ ¬ destination path <+: l →
      (install (.within limits) path s).2.files.get? l = some (.file content)) ∧
    (¬ normalized path <+: storePlace → ¬ destination path <+: normalized path →
      (install (.within limits) path s).2.files.get? l = some (.file content)) := by
  have hprepared := get?_prepared hfile
  have hkept : l = normalized path ∨ l ≠ place registerName ∧ ¬ destination path <+: l →
      (install (.within limits) path s).2.files.get? l = some (.file content) := by
    intro h
    rw [files_install, installed, Effect.andThen]
    split
    · rcases h with rfl | ⟨hregister, hplace⟩
      · exact get?_installedIn_source hprepared
      · rw [get?_installedIn_outside hplace hregister]
        exact hprepared
    · exact hprepared
  refine ⟨hkept, fun hstore hplace => hkept ?_⟩
  by_cases heq : l = normalized path
  · exact .inl heq
  refine .inr ⟨?_, fun hin => ?_⟩
  · -- Only the register itself and what holds the store is above the register.
    rintro rfl
    rcases List.prefix_concat_iff.mp hl with hsame | habove
    · exact heq hsame.symm
    · exact hstore habove
  · rcases prefix_of_destination_prefix hl hin with hsource | habove
    · exact hplace hsource
    · exact hstore habove

theorem workshop_source_kept :
    (install (.within .usual) "pkg" workshop).2.files.get? ["work", "pkg", "a.stryke"] = some (.file [120]) :=
  (install_keeps_source .usual workshop "pkg" ["work", "pkg", "a.stryke"] [120] (by decide +kernel)
    (by decide +kernel)).2 (by decide +kernel) (by decide +kernel)

/-- The first call finds nothing and makes an empty store; then the store is installed into itself, twice. -/
def intoTheStore : List Action :=
  [.install "missing", .install "lib", .install "lib"]

/-- Installing the store into itself writes the register that it holds, and installing it once more replaces
the copy that it holds. -/
theorem store_changed_by_install :
    (normalized "lib" <+: place registerName ∧
      (after .usual (intoTheStore.take 1) workshop).files.isFile (place registerName) = true ∧
      (after .usual (intoTheStore.take 2) workshop).files.get? (place registerName) ≠
        (after .usual (intoTheStore.take 1) workshop).files.get? (place registerName)) ∧
    normalized "lib" <+: place "lib" ++ [registerName] ∧
      (after .usual (intoTheStore.take 2) workshop).files.isFile (place "lib" ++ [registerName]) = true ∧
      (after .usual (intoTheStore.take 3) workshop).files.get? (place "lib" ++ [registerName]) ≠
        (after .usual (intoTheStore.take 2) workshop).files.get? (place "lib" ++ [registerName]) := by
  decide +kernel

/-! ## Failures -/

def Standing (t : FileTree) : Prop :=
  ∀ l, l ≠ [] → t.get? l ≠ none → t.get? l.dropLast = some .dir

/-- Nothing is at the path, or a file that is no script. -/
def Refused (t : FileTree) (path : String) : Prop :=
  t.pathExists path = false ∨ t.pathIsDir path = false ∧ Text.endsWith path scriptExtension = false

/-- The register reads as an object that can be followed to its end. -/
def HoldsObject (limits : Limits) (t : FileTree) : Prop :=
  ∃ entries, (t.readText "lib/packages.json" >>= Json.parseWithin limits.levels) = .ok (.object entries)

theorem standing_iff {t : FileTree} :
    Standing t ↔ ∀ e ∈ t.entries, e.1 ≠ [] → t.get? e.1.dropLast = some .dir := by
  constructor
  · intro h e he hne
    exact h e.1 hne fun hnone => FileTree.get?_eq_none_iff.mp hnone e.2 he
  · intro h l hne hl
    by_contra hparent
    refine hl (FileTree.get?_eq_none_iff.mpr fun e he => ?_)
    exact hparent (h (l, e) he hne)

instance (t : FileTree) : Decidable (Standing t) :=
  decidable_of_iff _ standing_iff.symm

section Failure

variable {limits : Limits} {t : FileTree} {path : String}

theorem Standing.get?_parent (h : Standing t) {l : Location} {name : String}
    (hentry : t.get? (l ++ [name]) ≠ none) : t.get? l = some .dir := by
  have hparent := h (l ++ [name]) (by simp) hentry
  rwa [List.dropLast_concat] at hparent

/-- What has something below it is a directory. -/
theorem Standing.get?_eq_dir (h : Standing t) {l : Location} {name : String} {k : Location}
    (hbelow : t.get? (l ++ name :: k) ≠ none) : t.get? l = some .dir := by
  induction k generalizing l name with
  | nil => exact h.get?_parent hbelow
  | cons name' k ih =>
    have hchild : t.get? (l ++ [name]) = some .dir := ih (by simpa using hbelow)
    have hsome : t.get? (l ++ [name]) ≠ none := by simp [hchild]
    exact h.get?_parent hsome

/-- Below what is not there, there is nothing. -/
theorem Standing.get?_eq_none (h : Standing t) {l k : Location} (hnone : t.get? l = none) :
    t.get? (l ++ k) = none := by
  cases k with
  | nil => simpa using hnone
  | cons name k =>
    by_contra hbelow
    rw [h.get?_eq_dir hbelow] at hnone
    cases hnone

/-- Where there is a register, there is a store, and nothing has to be made. -/
theorem Standing.prepared_eq (h : Standing t) (hregister : t.pathExists "lib/packages.json" = true) :
    prepared t = ⟨t.isFile (place registerName), t⟩ := by
  have hplace : normalized "lib/packages.json" = place registerName := by decide +kernel
  obtain ⟨e, hentry⟩ := Option.isSome_iff_exists.mp hregister
  have hsome := (FileTree.reaches_of_entry? hentry).2
  rw [hplace] at hsome
  have hin : t.get? (storePlace ++ [registerName]) ≠ none := fun hnone => by
    rw [← place, hsome] at hnone
    cases hnone
  have hstore : t.get? storePlace = some .dir := h.get?_parent hin
  have hlib : t.get? (work ++ ["lib"]) ≠ none := fun hnone => by
    rw [← storePlace, hstore] at hnone
    cases hnone
  have hwork : t.get? work = some .dir := h.get?_parent hlib
  rw [prepared, if_pos hwork, hstore]
  cases e with
  | file content => simp [withRegister, FileTree.isFile, hsome]
  | dir => simp [withRegister, FileTree.isFile, hsome]

theorem Refused.filled_eq (h : Refused t path) : filled? limits t path = none := by
  unfold filled?
  rcases hentry : t.entry? path with _ | content | _
  · rfl
  · rcases h with habsent | ⟨-, hscript⟩
    · simp [FileTree.pathExists, hentry] at habsent
    · simp [hscript]
  · rcases h with habsent | ⟨hdir, -⟩
    · simp [FileTree.pathExists, hentry] at habsent
    · simp [FileTree.pathIsDir, hentry] at hdir

/-- The register is read from its place. -/
theorem Prepared.readText_congr {t' : FileTree} (h : Prepared t) (h' : Prepared t')
    (hsame : t'.get? (place registerName) = t.get? (place registerName)) :
    t'.readText "lib/packages.json" = t.readText "lib/packages.json" := by
  have hreach := h.reaches isName_registerName
  have hreach' := h'.reaches isName_registerName
  rw [show "lib/" ++ registerName = "lib/packages.json" from rfl] at hreach hreach'
  have hread : t'.read "lib/packages.json" = t.read "lib/packages.json" := by
    simp only [FileTree.read, hreach.resolve, hreach'.resolve, hsame]
  rw [FileTree.readText, FileTree.readText, hread]

/-- A register that reads as an object can hold every package. -/
theorem HoldsObject.entered_done (h : HoldsObject limits t) (name : String) : (entered limits t name).done = true := by
  obtain ⟨entries, hentries⟩ := h
  rw [entered, hentries]
  rfl

/-- Where a script is not installed although the register can hold it, nothing is changed. -/
theorem Standing.files_installedIn_of_script (h : Standing t) (hprepared : Prepared t)
    (hdir : t.pathIsDir path = false) (hobject : HoldsObject limits t)
    (hfailed : (installedIn limits path t).done = false) :
    (installedIn limits path t).files = t := by
  unfold installedIn at hfailed ⊢
  rcases hentry : t.entry? path with _ | content | _
  · simp [filled?, hentry]
  · obtain ⟨hreach, hsource⟩ := FileTree.reaches_of_entry? hentry
    cases hscript : Text.endsWith path scriptExtension with
    | false => simp [filled?, hentry, hscript]
    | true =>
      simp only [filled?, hentry, hscript, if_true] at hfailed ⊢
      cases hadded : (addedScript t path content).done with
      | false =>
        simp only [Effect.andThen, hadded]
        exact files_addedScript_of_failed (fun hnone _ => h.get?_eq_none hnone) hsource hadded
      | true =>
        -- The script is there, and entering it does not fail.
        have hplace := hprepared.ne_registerName (addedScript_done hadded)
        have hkept : ∀ l, ¬ place (ownName path) <+: l →
            (addedScript t path content).files.get? l = t.get? l :=
          fun l hl => get?_addedScript_of_not_prefix hl
        have hread := hprepared.readText_congr (hprepared.of_get?_eq hplace hkept)
          (hkept _ (not_place_prefix_place hplace))
        have hobject' : HoldsObject limits (addedScript t path content).files := by
          unfold HoldsObject
          rwa [hread]
        simp [Effect.andThen, hadded, hobject'.entered_done] at hfailed
  · simp [FileTree.pathIsDir, hentry] at hdir

end Failure

/-- In every tree of files in which each entry stands in a directory and there is a register: if nothing that
can be installed is at the path, nothing is changed. If installing fails, nothing is changed but the place of
the package. Nothing at all is changed by a failure if the register is no file, if a file is at the place of
the package, or if the source is a script and the register reads as an object that is not nested too
deeply. -/
theorem failed_install_changes_place_only (limits : Limits) (s : Session) (hstanding : Standing s.files)
    (hregister : s.files.pathExists "lib/packages.json" = true) (path : String) :
    (Refused s.files path → (install (.within limits) path s).2.files = s.files) ∧
    ∀ f, (install (.within limits) path s).1 = .failed f →
      (∀ l, ¬ destination path <+: l → (install (.within limits) path s).2.files.get? l = s.files.get? l) ∧
      (s.files.isFile (place registerName) = false ∨ s.files.isFile (destination path) = true ∨
          s.files.pathIsDir path = false ∧ HoldsObject limits s.files →
        (install (.within limits) path s).2.files = s.files) := by
  have hprepared := hstanding.prepared_eq hregister
  cases hfile : s.files.isFile (place registerName) with
  | false =>
    have hsame : (install (.within limits) path s).2.files = s.files := by
      rw [files_install, installed, hprepared, hfile]
      rfl
    refine ⟨fun _ => hsame, fun f hf => ⟨fun l _ => by rw [hsame], fun _ => hsame⟩⟩
  | true =>
    have hstore : Prepared s.files := by
      have hdone : (prepared s.files).done = true := by rw [hprepared, hfile]
      have hstore := prepared_of_done hdone
      rwa [hprepared] at hstore
    have hinstalled : installed limits s.files path = installedIn limits path s.files := by
      rw [installed, hprepared, hfile]
      rfl
    rw [files_install, hinstalled]
    refine ⟨fun hrefused => ?_, fun f hf => ?_⟩
    · rw [installedIn, hrefused.filled_eq]
    · have hfailed : (installedIn limits path s.files).done = false :=
        hinstalled ▸ (failed_iff limits s path).mp ⟨f, hf⟩
      refine ⟨fun l hl => get?_installedIn_of_failed hfailed hl, ?_⟩
      rintro (hno | hblocked | ⟨hdir, hobject⟩)
      · cases hno
      · exact files_installedIn_of_file hstore.store hblocked
      · exact hstanding.files_installedIn_of_script hstore hdir hobject hfailed

/-- A working directory with a package and a store whose register holds the given text. Where the package
should be installed there is a file or nothing. -/
def shop (register : String) (blocked : Bool) : Session :=
  { Session.fresh with
    files := ⟨(if blocked then [(place "pkg", .file [])] else []) ++
      [(place registerName, .file (Text.Utf8.encode register)), (storePlace, .dir),
        (["work", "pkg", "a.stryke"], .file [120]), (["work", "pkg"], .dir), (["work"], .dir), ([], .dir)]⟩ }

theorem blocked_install_changes_nothing :
    (∃ f, (install (.within .usual) "pkg" (shop "not json" true)).1 = .failed f) ∧
      (install (.within .usual) "pkg" (shop "not json" true)).2.files = (shop "not json" true).files := by
  have hfailed := (failed_iff .usual (shop "not json" true) "pkg").mpr (by decide +kernel)
  obtain ⟨f, hf⟩ := hfailed
  refine ⟨⟨f, hf⟩, ?_⟩
  exact ((failed_install_changes_place_only .usual (shop "not json" true) (by decide +kernel) (by decide +kernel)
    "pkg").2 f hf).2 (.inr (.inl (by decide +kernel)))

/-- A package that cannot be entered stays at its place. -/
theorem unreadable_register_leaves_copy :
    Standing (shop "not json" false).files ∧
      (shop "not json" false).files.pathExists "lib/packages.json" = true ∧
      (∃ f, (install (.within .usual) "pkg" (shop "not json" false)).1 = .failed f) ∧
      (shop "not json" false).files.get? (place "pkg") = none ∧
      (install (.within .usual) "pkg" (shop "not json" false)).2.files.get? (place "pkg") = some .dir :=
  ⟨by decide +kernel, by decide +kernel, (failed_iff .usual _ _).mpr (by decide +kernel), by decide +kernel,
    by decide +kernel⟩

end LineScript.Package
