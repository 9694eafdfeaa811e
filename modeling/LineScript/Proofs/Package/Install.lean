import LineScript.Proofs.Package.Register

/-!
# What installing and uninstalling can do

Every run of the store on a source that is apart from it ends in one of a few ways. `Installs` and
`Uninstalls` list them, each with the files that it leaves behind; what the store keeps is read off
these lists.
-/

namespace LineScript.Package

open Files

/-! ## Stores -/

/-- The files hold a store: beside the register there are only directories, and what is not there has
nothing below it. -/
structure Holds (t : FileTree) (names : List String) : Prop extends Registers t names where
  distinct : t.Distinct
  entries : ∀ n, n ≠ registerName → t.get? (place n) = none ∨ t.get? (place n) = some .dir
  closed : ∀ n k, t.get? (place n) = none → t.get? (place n ++ k) = none

/-- A working directory without a store. -/
structure Bare (t : FileTree) : Prop where
  distinct : t.Distinct
  work : t.get? work = some .dir
  empty : ∀ k, storePlace <+: k → t.get? k = none

/-- The files with a store in which nothing is installed. -/
def opened (t : FileTree) : FileTree :=
  (t.put storePlace .dir).put (place registerName) (registerFile [])

section Prepare

variable {limits : Limits} {t : FileTree} {names : List String}

theorem Registers.prepare (h : Registers t names) :
    (Store.within limits).prepare.Takes t (.done ()) t := by
  have hdir : t.isDir storePlace = true := FileTree.isDir_iff.mpr h.store
  have hfile : t.isFile (place registerName) = true := by
    simp [FileTree.isFile, h.register, registerFile]
  have hstore : t.pathIsDir (Store.within limits).dir = true :=
    (reaches_store h.work).pathIsDir_eq.trans hdir
  refine .get_bind fun s hs => ?_
  rw [hs, hstore]
  refine .get_bind fun s hs => ?_
  rw [hs, h.reaches_register.pathIsFile_eq, hfile]
  exact .pure ()

theorem takes_changeFiles {f : FileTree → FileTree × Except Fault Unit} {t' : FileTree}
    (h : f t = (t', .ok ())) : (changeFiles f).Takes t (.done ()) t' := by
  refine .get_bind fun s hs => ?_
  rw [hs, h]
  exact .bind (.modify fun _ _ => rfl) (.pure ())

/-- In a bare working directory a store is opened. -/
theorem Bare.prepare (h : Bare t) : (Store.within limits).prepare.Takes t (.done ()) (opened t) := by
  have hnone := h.empty storePlace (List.prefix_refl _)
  have hstore : t.pathIsDir (Store.within limits).dir = false :=
    (reaches_store h.work).pathIsDir_eq.trans (by simp [FileTree.isDir, hnone])
  have hwork : (t.put storePlace .dir).get? Files.work = some .dir :=
    (FileTree.get?_put_of_ne _ (by decide)).trans h.work
  have hreach := reaches_place hwork (FileTree.get?_put _ _ _) isName_registerName
  have hregister : (t.put storePlace .dir).get? (place registerName) = none :=
    (FileTree.get?_put_of_ne _ (by decide)).trans (h.empty _ (List.prefix_append _ _))
  have hfile : (t.put storePlace .dir).pathIsFile (Store.within limits).register = false :=
    hreach.pathIsFile_eq.trans (by simp [FileTree.isFile, hregister])
  refine .get_bind fun s hs => ?_
  rw [hs, hstore]
  refine .bind (takes_changeFiles (makeDirs_store h.work hnone)) ?_
  refine .get_bind fun s hs => ?_
  rw [hs, hfile]
  exact takes_writeContent hreach (by simp [FileTree.isDir, hregister])
    (show baseName "lib/packages.json" ≠ "" by decide)

theorem get?_opened_of_ne {k : Location} (hstore : k ≠ storePlace) (hregister : k ≠ place registerName) :
    (opened t).get? k = t.get? k := by
  rw [opened, FileTree.get?_put_of_ne _ hregister, FileTree.get?_put_of_ne _ hstore]

theorem place_append_ne {n n' : String} (h : n ≠ n') (k : Location) : place n ++ k ≠ place n' := by
  intro heq
  exact not_place_prefix_place h (heq ▸ List.prefix_append _ _)

theorem place_append_ne_storePlace (n : String) (k : Location) : place n ++ k ≠ storePlace := by
  simp [place]

/-- A store that was just opened holds nothing. -/
theorem Bare.holds_opened (h : Bare t) : Holds (opened t) [] where
  work := (get?_opened_of_ne (by decide) (by decide)).trans h.work
  store := by rw [opened, FileTree.get?_put_of_ne _ (by decide), FileTree.get?_put]
  register := FileTree.get?_put _ _ _
  nodup := List.nodup_nil
  packages := by simp
  distinct := (h.distinct.put _ _).put _ _
  entries n hn := by
    left
    rw [get?_opened_of_ne (by simpa using place_append_ne_storePlace n []) (place_ne hn)]
    exact h.empty _ (List.prefix_append _ _)
  closed n k hnone := by
    have hn : n ≠ registerName := by
      rintro rfl
      rw [opened, FileTree.get?_put] at hnone
      cases hnone
    rw [get?_opened_of_ne (place_append_ne_storePlace n k) (place_append_ne hn k)]
    refine h.empty _ ?_
    rw [place, List.append_assoc]
    exact List.prefix_append _ _

end Prepare

/-- A store stays one when its register is written anew. -/
theorem Holds.put_register {t : FileTree} {names names' : List String} (h : Holds t names)
    (hnodup : names'.Nodup) (hpackages : ∀ n ∈ names', IsPackage n) :
    Holds (t.put (place registerName) (registerFile names')) names' where
  work := (FileTree.get?_put_of_ne _ (by decide)).trans h.work
  store := (FileTree.get?_put_of_ne _ (by decide)).trans h.store
  register := FileTree.get?_put _ _ _
  nodup := hnodup
  packages := hpackages
  distinct := h.distinct.put _ _
  entries n hn := by
    rw [FileTree.get?_put_of_ne _ (place_ne hn)]
    exact h.entries n hn
  closed n k hnone := by
    by_cases hn : n = registerName
    · subst hn
      rw [FileTree.get?_put] at hnone
      cases hnone
    · rw [FileTree.get?_put_of_ne _ (place_ne hn)] at hnone
      rw [FileTree.get?_put_of_ne _ (place_append_ne hn k)]
      exact h.closed n k hnone

/-! ## Sources -/

/-- A path whose location is neither in the store's directory nor above it. -/
structure Apart (path : String) : Prop where
  outside : ¬ storePlace <+: normalized path
  beside : ¬ normalized path <+: storePlace

/-- On its way, a path comes to a location or below it. -/
def LeadsInto (path : String) (l : Location) : Prop :=
  ∃ front, front <+: segments path ∧ l <+: follow (start path) front

theorem Apart.not_prefix {path : String} (h : Apart path) {l k : Location} (hl : storePlace <+: l) :
    ¬ l <+: normalized path ++ k := by
  intro hprefix
  rcases List.prefix_or_prefix_of_prefix (hl.trans hprefix) (List.prefix_append _ k) with hin | habove
  · exact h.outside hin
  · exact h.beside habove

theorem storePlace_prefix_place (name : String) : storePlace <+: place name :=
  List.prefix_append _ _

/-- The own name of a source that is there is a name. -/
theorem Apart.isName {path : String} (h : Apart path) {t : FileTree}
    (hreach : t.Reaches path (normalized path)) : IsName (ownName path) := by
  have hne : normalized path ≠ [] := fun hnil => h.beside (hnil ▸ List.nil_prefix)
  rw [ownName, List.getLast?_eq_some_getLast hne]
  exact hreach.isName _ (List.getLast_mem hne)

/-! ## Copying directories -/

section Copy

variable {folders : Nat} {t : FileTree} {path name : String} {l : Location}

theorem takes_removeTree (h : t.Reaches path l) (hdir : t.get? l = some .dir) :
    (removeTree path).Takes t (.done ()) (t.prune l) := by
  refine .get_bind fun s hs => ?_
  have hisDir : t.isDir l = true := FileTree.isDir_iff.mpr hdir
  simp only [hs, h.resolve, hisDir, if_true]
  exact .modify fun s hs => by rw [hs]

theorem takes_removeTree_file (h : t.Reaches path l) (hfile : t.isDir l = false) :
    (removeTree path).Takes t (.failed (refuse path .notADirectory)) t := by
  refine .get_bind fun s hs => ?_
  simp only [hs, h.resolve, hfile, Bool.false_eq_true, if_false]
  exact .fail _

theorem takes_copyTree_lost {destination : String} {c : FileCause} (h : t.resolve path = .error c) :
    (copyTree folders path destination).Takes t (.failed (refuse path c)) t := by
  refine .get_bind fun s hs => ?_
  rw [hs, h]
  exact .fail _

/-- What of a directory can be copied to the place of a package. -/
def copyable (folders : Nat) (t : FileTree) (path name : String) : List (Location × Entry) :=
  (t.below (normalized path)).filter fun e => copies folders path ("lib/" ++ name) e.1

/-- The fault of a copy in which something is left out. -/
def copyFault (folders : Nat) (t : FileTree) (path : String) : Fault :=
  if (t.below (normalized path)).any fun e => folders < e.1.length then .nesting else .copy

/-- How copying a directory to the place of a package ends. -/
def copyOutcome (folders : Nat) (t : FileTree) (path name : String) : Outcome Unit :=
  if (copyable folders t path name).length != (t.below (normalized path)).length then
    .failed (copyFault folders t path)
  else .done ()

/-- The files with the entries of a package put in its place. -/
def withCopy (t : FileTree) (name : String) (entries : List (Location × Entry)) : FileTree :=
  (t.put (place name) .dir).graft (place name) entries

/-- A directory cannot be copied into a directory below one of its own. -/
def intoItself (origin : Location) (name : String) : Bool :=
  origin.isPrefixOf (place name) && origin != storePlace

variable (folders) in
theorem takes_copyTree_of_resolve (hwork : t.get? work = some .dir)
    (hstore : t.get? storePlace = some .dir) (hname : IsName name) (hnone : t.get? (place name) = none)
    (hresolve : t.resolve path = .ok (normalized path)) (hdir : t.get? (normalized path) = some .dir) :
    (copyTree folders path ("lib/" ++ name)).Takes t
      (if intoItself (normalized path) name then .failed .copy else copyOutcome folders t path name)
      (if intoItself (normalized path) name then t.put (place name) .dir
        else withCopy t name (copyable folders t path name)) := by
  have hisDir : t.isDir (normalized path) = true := FileTree.isDir_iff.mpr hdir
  have hne : ∀ {k}, k ≠ place name → (t.put (place name) .dir).get? k = t.get? k :=
    FileTree.get?_put_of_ne _
  have hreach : (t.put (place name) .dir).Reaches ("lib/" ++ name) (place name) :=
    reaches_place ((hne (by simp [place, storePlace])).trans hwork) ((hne (by simp [place])).trans hstore)
      hname
  have hparent : (place name).dropLast = storePlace := by simp [place]
  refine .get_bind fun s hs => ?_
  rw [hs, hresolve]
  refine .get_bind fun s hs => ?_
  rw [hs, hisDir]
  refine .get_bind fun s hs => ?_
  rw [hs]
  refine .bind (takes_changeFiles (makeDirs_place hwork hstore hname hnone)) ?_
  refine .get_bind fun s hs => ?_
  rw [hs, hreach.resolve]
  dsimp only
  rw [hparent]
  change (if intoItself (normalized path) name then _ else _ : Run Unit).Takes _ _ _
  cases intoItself (normalized path) name with
  | true => exact .fail _
  | false =>
    have hgraft : ∀ s : Session, s.files = t.put (place name) .dir →
        s.files.graft (place name) (copyable folders t path name) =
          withCopy t name (copyable folders t path name) :=
      fun s hs => by rw [hs, withCopy]
    refine .bind (.modify hgraft) ?_
    change (if (copyable folders t path name).length != (t.below (normalized path)).length then _ else _ :
      Run Unit).Takes _ (copyOutcome folders t path name) _
    unfold copyOutcome
    split
    · exact .fail _
    · exact .pure ()

theorem Apart.not_intoItself (h : Apart path) (name : String) :
    intoItself (normalized path) name = false := by
  have hinto : (normalized path).isPrefixOf (place name) = false := by
    refine Bool.eq_false_iff.mpr fun hprefix => ?_
    rcases List.prefix_concat_iff.mp (List.isPrefixOf_iff_prefix.mp hprefix) with heq | habove
    · exact h.outside (heq ▸ storePlace_prefix_place name)
    · exact h.beside habove
  simp [intoItself, hinto]

variable (folders) in
theorem takes_copyTree (hwork : t.get? work = some .dir) (hstore : t.get? storePlace = some .dir)
    (hname : IsName name) (hnone : t.get? (place name) = none) (hapart : Apart path)
    (hresolve : t.resolve path = .ok (normalized path)) (hdir : t.get? (normalized path) = some .dir) :
    (copyTree folders path ("lib/" ++ name)).Takes t (copyOutcome folders t path name)
      (withCopy t name (copyable folders t path name)) := by
  have htakes := takes_copyTree_of_resolve folders hwork hstore hname hnone hresolve hdir
  simpa only [hapart.not_intoItself, Bool.false_eq_true, if_false] using htakes

end Copy

/-! ## Filling the place of a package -/

/-- The files with a directory at the place of a package. -/
def withPlace (t : FileTree) (name : String) : FileTree :=
  if t.isDir (place name) then t else t.put (place name) .dir

/-- How installing a source can fill the place of its package, before the package is entered. -/
inductive Fills (folders : Nat) (t : FileTree) (path : String) : Outcome Unit → FileTree → Prop where
  /-- What is at the place cannot be replaced. -/
  | blocked (f : Fault) : Fills folders t path (.failed f) t
  /-- The old version is removed, and with it the way to the source. -/
  | lost (f : Fault) (hdir : t.pathIsDir path = true) (hplace : t.get? (place (ownName path)) = some .dir)
      (h : LeadsInto path (place (ownName path))) :
      Fills folders t path (.failed f) (t.prune (place (ownName path)))
  /-- Some entry of the source cannot be copied. -/
  | cut (f : Fault) (hdir : t.pathIsDir path = true) (hname : IsPackage (ownName path))
      (h : ∃ k, t.get? (normalized path ++ k) ≠ none ∧
        copies folders path ("lib/" ++ ownName path) k = false) :
      Fills folders t path (.failed f) (withCopy (t.prune (place (ownName path))) (ownName path)
        (copyable folders (t.prune (place (ownName path))) path (ownName path)))
  /-- A directory takes the place of the old version. -/
  | tree (hdir : t.pathIsDir path = true) (hname : IsPackage (ownName path)) :
      Fills folders t path (.done ()) (withCopy (t.prune (place (ownName path))) (ownName path)
        ((t.prune (place (ownName path))).below (normalized path)))
  /-- A script is put into the directory at the place. -/
  | script (hfile : t.pathIsDir path = false) (hname : IsPackage (ownName path)) {k : Location}
      (hk : k ≠ []) (content : Text.Bytes) :
      Fills folders t path (.done ())
        ((withPlace t (ownName path)).put (place (ownName path) ++ k) (.file content))

section Fill

variable {folders : Nat} {t : FileTree} {names : List String} {path : String}

theorem Holds.place_eq (h : Holds t names) (name : String) :
    t.get? (place name) = none ∨ t.get? (place name) = some .dir ∨
      name = registerName ∧ t.isDir (place name) = false ∧ (t.get? (place name)).isSome := by
  by_cases hname : name = registerName
  · subst hname
    exact .inr (.inr ⟨rfl, by simp [FileTree.isDir, h.register, registerFile], by simp [h.register]⟩)
  · rcases h.entries name hname with hnone | hdir
    · exact .inl hnone
    · exact .inr (.inl hdir)

theorem Holds.ne_registerName (h : Holds t names) {name : String}
    (hplace : t.get? (place name) = none ∨ t.get? (place name) = some .dir) : name ≠ registerName := by
  rintro rfl
  simp [h.register, registerFile] at hplace

/-- Where nothing is, nothing is removed. -/
theorem Holds.prune_place (h : Holds t names) {name : String} (hnone : t.get? (place name) = none) :
    t.prune (place name) = t := by
  refine FileTree.prune_eq_self ?_
  rintro k ⟨k', rfl⟩
  exact h.closed name k' hnone

/-- If something is left out of a copy, some entry of the source cannot be copied. -/
theorem exists_of_length_copyable_ne {name : String}
    (h : (copyable folders t path name).length ≠ (t.below (normalized path)).length) :
    ∃ k, t.get? (normalized path ++ k) ≠ none ∧ copies folders path ("lib/" ++ name) k = false := by
  rw [copyable, ne_eq, List.length_filter_eq_length_iff] at h
  simp only [not_forall] at h
  obtain ⟨⟨k, e⟩, hmem, hfits⟩ := h
  refine ⟨k, fun hnone => ?_, by simpa using hfits⟩
  exact FileTree.get?_eq_none_iff.mp hnone e (FileTree.mem_below.mp hmem).2

variable (folders) in
/-- Copying a directory to its place, once the old version is removed. -/
theorem fills_copyTree (h : Holds t names) (hapart : Apart path) (hdir : t.pathIsDir path = true)
    (hplace : t.get? (place (ownName path)) = none ∨ t.get? (place (ownName path)) = some .dir) :
    ∃ o t', (copyTree folders path ("lib/" ++ ownName path)).Takes (t.prune (place (ownName path))) o t' ∧
      Fills folders t path o t' := by
  obtain ⟨hreach, hsource⟩ := FileTree.reaches_of_pathIsDir hdir
  have hname := hapart.isName hreach
  have hne := h.ne_registerName hplace
  have hout : ∀ k, ¬ place (ownName path) <+: normalized path ++ k :=
    fun k => hapart.not_prefix (storePlace_prefix_place _)
  cases hresolve : (t.prune (place (ownName path))).resolve path with
  | error c =>
    -- Only what was removed can make the difference.
    have hleads : LeadsInto path (place (ownName path)) := by
      refine Classical.byContradiction fun hnot => ?_
      have hsame : (t.prune (place (ownName path))).resolve path = t.resolve path :=
        FileTree.resolve_congr fun front hfront =>
          FileTree.get?_prune_of_not_prefix fun hprefix => hnot ⟨front, hfront, hprefix⟩
      rw [hsame, hreach.resolve] at hresolve
      cases hresolve
    have hold : t.get? (place (ownName path)) = some .dir := by
      refine hplace.resolve_left fun hnone => ?_
      rw [h.prune_place hnone, hreach.resolve] at hresolve
      cases hresolve
    exact ⟨_, _, takes_copyTree_lost hresolve, .lost _ hdir hold hleads⟩
  | ok l =>
    have hreach' : (t.prune (place (ownName path))).Reaches path l := ⟨hreach.null, hresolve⟩
    obtain rfl := hreach'.eq_normalized
    have hget : ∀ k, (t.prune (place (ownName path))).get? (normalized path ++ k) =
        t.get? (normalized path ++ k) := fun k => FileTree.get?_prune_of_not_prefix (hout k)
    have htakes := takes_copyTree folders
      ((FileTree.get?_prune_of_not_prefix (by simp [place, storePlace, work])).trans h.work)
      ((FileTree.get?_prune_of_not_prefix (by simp [place, storePlace, work])).trans h.store)
      hname (by rw [FileTree.get?_prune, if_pos (List.prefix_refl _)]) hapart hresolve
      (by simpa using (hget []).trans (by simpa using hsource))
    by_cases hlength : (copyable folders (t.prune (place (ownName path))) path (ownName path)).length =
        ((t.prune (place (ownName path))).below (normalized path)).length
    · have hall : copyable folders (t.prune (place (ownName path))) path (ownName path) =
          (t.prune (place (ownName path))).below (normalized path) :=
        List.filter_eq_self.mpr (List.length_filter_eq_length_iff.mp hlength)
      rw [copyOutcome, hall] at htakes
      exact ⟨_, _, by simpa using htakes, .tree hdir ⟨hname, hne⟩⟩
    · obtain ⟨k, hk, hcopies⟩ := exists_of_length_copyable_ne hlength
      rw [copyOutcome] at htakes
      refine ⟨_, _, by simpa [hlength] using htakes, .cut _ hdir ⟨hname, hne⟩ ⟨k, ?_, hcopies⟩⟩
      rwa [← hget k]

variable (folders) in
/-- Putting a directory in the place of its package. -/
theorem fills_replaceTree (h : Holds t names) (hapart : Apart path) (hdir : t.pathIsDir path = true) :
    ∃ o t', (replaceTree folders path ("lib/" ++ ownName path)).Takes t o t' ∧ Fills folders t path o t' := by
  have hreach := h.reaches (hapart.isName (FileTree.reaches_of_pathIsDir hdir).1)
  rcases h.place_eq (ownName path) with hnone | hold | ⟨-, hfile, hsome⟩
  · obtain ⟨o, t', htakes, hfills⟩ := fills_copyTree folders h hapart hdir (.inl hnone)
    refine ⟨o, t', .get_bind fun s hs => ?_, hfills⟩
    rw [hs, hreach.pathExists_eq, hnone]
    rwa [h.prune_place hnone] at htakes
  · obtain ⟨o, t', htakes, hfills⟩ := fills_copyTree folders h hapart hdir (.inr hold)
    refine ⟨o, t', .get_bind fun s hs => ?_, hfills⟩
    rw [hs, hreach.pathExists_eq, hold]
    exact .bind (takes_removeTree hreach hold) htakes
  · refine ⟨_, t, .get_bind fun s hs => ?_, .blocked (refuse ("lib/" ++ ownName path) .notADirectory)⟩
    rw [hs, hreach.pathExists_eq, hsome]
    exact .bind_failed (takes_removeTree_file hreach hfile)

/-! ## Adding scripts -/

/-- The last name of a script is no name of dots and not the register's. -/
theorem baseName_of_endsWith (h : Text.endsWith path scriptExtension = true) :
    baseName path ≠ "" ∧ baseName path ≠ "." ∧ baseName path ≠ ".." ∧ baseName path ≠ registerName := by
  obtain ⟨front, hfront⟩ := Text.endsWith_iff.mp h
  have hlast : path.toList.getLast? = some 'e' := by simp [hfront, scriptExtension]
  suffices hmem : baseName path ∉ ["", ".", "..", registerName] by simpa using hmem
  intro hmem
  simp only [List.mem_cons, List.not_mem_nil, or_false] at hmem
  obtain ⟨-, hpath | ⟨front', hpath⟩⟩ := toList_eq_append_baseName path
  · rw [← hpath] at hmem
    rcases hmem with rfl | rfl | rfl | rfl <;> simp [registerName] at hlast
  · rw [hpath] at hlast
    rcases hmem with hbase | hbase | hbase | hbase <;> simp [hbase, registerName] at hlast

theorem takes_copyFile {source destination target : String} {content : Text.Bytes} {l m : Location}
    (htarget : (if t.pathIsDir destination then join destination (baseName source) else destination) =
      target) (hsource : t.Reaches source l) (hcontent : t.get? l = some (.file content))
    (hreach : t.Reaches target m) (hne : l ≠ m) (hlast : baseName target ≠ "") :
    (copyFile source destination).Takes t
      (if t.isDir m then .failed (refuse target .isADirectory) else .done ())
      (if t.isDir m then t else t.put m (.file content)) := by
  have hread : t.read source = .ok content :=
    FileTree.read_eq_ok_iff.mpr (hsource.entry?_eq.trans hcontent)
  have hsame : (l == m) = false := by simpa using hne
  refine .get_bind fun s hs => ?_
  simp only [hs, htarget, hsource.resolve, hreach.resolve, hsame, Bool.false_eq_true, if_false]
  refine .bind (.ofResult_ok hread) ?_
  split
  · rename_i hdir
    exact .bind_failed (.ofResult_error (hreach.write_eq_error hdir hlast content))
  · rename_i hdir
    exact .bind (.ofResult_ok (hreach.write_eq (by simpa using hdir) hlast content))
      (.modify fun _ _ => rfl)

theorem withPlace_of_none {name : String} (h : t.get? (place name) = none) :
    withPlace t name = t.put (place name) .dir := by
  simp [withPlace, FileTree.isDir, h]

theorem withPlace_of_dir {name : String} (h : t.get? (place name) = some .dir) :
    withPlace t name = t := by
  simp [withPlace, FileTree.isDir, h]

theorem get?_withPlace_of_ne {name : String} {k : Location} (h : k ≠ place name) :
    (withPlace t name).get? k = t.get? k := by
  unfold withPlace
  split
  · rfl
  · exact FileTree.get?_put_of_ne _ h

theorem get?_withPlace (t : FileTree) (name : String) :
    (withPlace t name).get? (place name) = some .dir := by
  unfold withPlace
  split
  · exact FileTree.isDir_iff.mp ‹_›
  · exact FileTree.get?_put _ _ _

/-- Making the place of a package where it is missing. -/
theorem takes_makePlace (h : Holds t names) {name : String} (hname : IsName name)
    (hplace : t.get? (place name) = none ∨ t.get? (place name) = some .dir) {k : Unit → Run Unit}
    {o : Outcome Unit} {t' : FileTree} (hk : (k ()).Takes (withPlace t name) o t') :
    (do
      if !(← Run.get).files.pathExists ("lib/" ++ name) then
        changeFiles (·.makeDirs false ("lib/" ++ name))
      k ()).Takes t o t' := by
  refine .get_bind fun s hs => ?_
  rcases hplace with hnone | hdir
  · rw [hs, (h.reaches hname).pathExists_eq, hnone]
    rw [withPlace_of_none hnone] at hk
    exact .bind (takes_changeFiles (makeDirs_place h.work h.store hname hnone)) hk
  · rw [hs, (h.reaches hname).pathExists_eq, hdir]
    rwa [withPlace_of_dir hdir] at hk

/-- Where in the place of a package a script is put: under its own name, or in a directory of that
name. -/
def scriptTarget (t : FileTree) (name : String) : Location :=
  if t.isDir (place name ++ [name]) then place name ++ [name, name] else place name ++ [name]

theorem reaches_scriptTarget {t : FileTree} {name : String} (hwork : t.get? work = some .dir)
    (hstore : t.get? storePlace = some .dir) (hplace : t.get? (place name) = some .dir)
    (hname : IsName name) :
    ∃ target, baseName target ≠ "" ∧ t.Reaches target (scriptTarget t name) ∧
      (if t.pathIsDir (join ("lib/" ++ name) name) then join (join ("lib/" ++ name) name) name
        else join ("lib/" ++ name) name) = target := by
  have hne : "lib/" ++ name ≠ "" := by simp
  have hslash : ("lib/" ++ name).endsWith '/' = false := hname.endsWith_append "lib/"
  have hjoin : join ("lib/" ++ name) name = "lib/" ++ name ++ "/" ++ name := join_eq hne hslash
  have hne' : join ("lib/" ++ name) name ≠ "" := by simp [hjoin]
  have hslash' : (join ("lib/" ++ name) name).endsWith '/' = false := by
    rw [hjoin]
    exact hname.endsWith_append _
  -- Even three names make no long path.
  have hlength : (join ("lib/" ++ name) name ++ "/" ++ name).utf8ByteSize < pathLimit ∧
      ("lib/" ++ name ++ "/" ++ name).utf8ByteSize < pathLimit := by
    have hshort := hname.short
    have hmarks : ("lib/" : String).utf8ByteSize = 4 ∧ ("/" : String).utf8ByteSize = 1 := by decide
    rw [hjoin]
    simp only [String.utf8ByteSize_append, hmarks]
    unfold nameLimit at hshort
    unfold pathLimit
    omega
  have hinner := (reaches_place hwork hstore hname).join hplace hslash hname hlength.2
  by_cases hdir : t.isDir (place name ++ [name])
  · have houter := hinner.join (FileTree.isDir_iff.mp hdir) hslash' hname hlength.1
    rw [List.append_assoc] at houter
    rw [scriptTarget, if_pos hdir]
    refine ⟨_, ?_, houter, if_pos (hinner.pathIsDir_eq.trans hdir)⟩
    rw [baseName_join hne' hslash' hname.slash]
    exact hname.ne_empty
  · rw [scriptTarget, if_neg hdir]
    refine ⟨_, ?_, hinner, if_neg (by rwa [hinner.pathIsDir_eq])⟩
    rw [baseName_join hne hslash hname.slash]
    exact hname.ne_empty

theorem scriptTarget_eq (t : FileTree) (name : String) :
    ∃ k, k ≠ [] ∧ scriptTarget t name = place name ++ k := by
  unfold scriptTarget
  split
  · exact ⟨_, by simp, rfl⟩
  · exact ⟨_, by simp, rfl⟩

theorem exists_target {t : FileTree} {name : String} (hwork : t.get? work = some .dir)
    (hstore : t.get? storePlace = some .dir) (hplace : t.get? (place name) = some .dir)
    (hname : IsName name) :
    ∃ target k, k ≠ [] ∧ baseName target ≠ "" ∧ t.Reaches target (place name ++ k) ∧
      (if t.pathIsDir (join ("lib/" ++ name) name) then join (join ("lib/" ++ name) name) name
        else join ("lib/" ++ name) name) = target := by
  obtain ⟨target, hlast, hreach, htarget⟩ := reaches_scriptTarget hwork hstore hplace hname
  obtain ⟨k, hk, heq⟩ := scriptTarget_eq t name
  exact ⟨target, k, hk, hlast, heq ▸ hreach, htarget⟩

variable (folders) in
/-- Putting a script into the place of its package. -/
theorem fills_addScript (h : Holds t names) (hapart : Apart path) {content : Text.Bytes}
    (hentry : t.entry? path = some (.file content))
    (hscript : Text.endsWith path scriptExtension = true) :
    ∃ o t', (addScript path ("lib/" ++ ownName path)).Takes t o t' ∧ Fills folders t path o t' := by
  obtain ⟨hreach, hcontent⟩ := FileTree.reaches_of_entry? hentry
  have hname := hapart.isName hreach
  obtain ⟨hempty, hdot, hdots, hregister⟩ := baseName_of_endsWith hscript
  have hown : ownName path = baseName path := ownName_eq_baseName hempty hdot hdots
  have hplace := h.entries (ownName path) (hown ▸ hregister)
  have hfile : t.pathIsDir path = false := by simp [FileTree.pathIsDir, hentry]
  have hout : ∀ k, normalized path ≠ place (ownName path) ++ k := fun k heq =>
    hapart.not_prefix (k := []) (storePlace_prefix_place (ownName path)) (by
      rw [List.append_nil, heq]
      exact List.prefix_append _ _)
  have hreach' : (withPlace t (ownName path)).Reaches path (normalized path) := by
    unfold withPlace
    split
    · exact hreach
    · rename_i hnone
      exact hreach.put (by simpa using hnone) _
  have hcontent' : (withPlace t (ownName path)).get? (normalized path) = some (.file content) :=
    (get?_withPlace_of_ne (by simpa using hout [])).trans hcontent
  obtain ⟨target, k, hk, hlast, htarget, heq⟩ := exists_target
    ((get?_withPlace_of_ne (by simp [place, storePlace])).trans h.work)
    ((get?_withPlace_of_ne (by simp [place])).trans h.store) (get?_withPlace t (ownName path)) hname
  have htakes := takes_copyFile (by rwa [← hown]) hreach' hcontent' htarget (hout k) hlast
  refine ⟨_, _, takes_makePlace h hname hplace (k := fun _ => _) (by rw [← hown]; exact htakes), ?_⟩
  split
  · -- A directory stands where the file should be, so the place was there before.
    rename_i hdir
    have hsame : withPlace t (ownName path) = t := by
      refine withPlace_of_dir (hplace.resolve_left fun hnone => ?_)
      rw [FileTree.isDir_iff, get?_withPlace_of_ne (by simpa using hk), h.closed _ k hnone] at hdir
      cases hdir
    rw [hsame]
    exact .blocked _
  · exact .script hfile ⟨hname, hown ▸ hregister⟩ hk content

end Fill

/-! ## Installing -/

/-- How installing a source can end, with the files and the registered names that it leaves. -/
inductive Installs (folders : Nat) (t : FileTree) (names : List String) (path : String) :
    Outcome Unit → FileTree → List String → Prop where
  /-- Nothing is there, or no script. -/
  | refused (hdir : t.pathIsDir path = false) : Installs folders t names path (.done ()) t names
  /-- The place of the package cannot be filled, and the package is not entered. -/
  | failed {f : Fault} {t' : FileTree} (h : Fills folders t path (.failed f) t') :
      Installs folders t names path (.failed f) t' names
  /-- The package is entered once its place is filled. -/
  | entered {t' : FileTree} (h : Fills folders t path (.done ()) t') :
      Installs folders t names path (.done ())
        (t'.put (place registerName) (registerFile (enrolled names (ownName path))))
        (enrolled names (ownName path))

section Install

variable {folders : Nat} {limits : Limits} {t t' : FileTree} {names : List String} {path : String} {o : Outcome Unit}

/-- The files differ at the place of a package at most, where a directory is or nothing at all. -/
structure Refilled (t t' : FileTree) (name : String) : Prop where
  isPackage : IsPackage name
  distinct : t'.Distinct
  beside : ∀ k, ¬ place name <+: k → t'.get? k = t.get? k
  entry : t'.get? (place name) = none ∨ t'.get? (place name) = some .dir
  closed : t'.get? (place name) = none → ∀ k, t'.get? (place name ++ k) = none

/-- A store stays one when the place of a package is filled or emptied. -/
theorem Refilled.holds {name : String} (h : Refilled t t' name) (ht : Holds t names) :
    Holds t' names where
  work := (h.beside _ (by simp [place, storePlace, Files.work])).trans ht.work
  store := (h.beside _ (by simp [place, storePlace, Files.work])).trans ht.store
  register :=
    (h.beside _ (not_place_prefix_place h.isPackage.ne_register)).trans ht.register
  nodup := ht.nodup
  packages := ht.packages
  distinct := h.distinct
  entries n hn := by
    by_cases heq : name = n
    · exact heq ▸ h.entry
    · have hbeside := h.beside (place n) (not_place_prefix_place heq)
      rw [hbeside]
      exact ht.entries n hn
  closed n k hnone := by
    by_cases heq : name = n
    · subst heq
      exact h.closed hnone k
    · rw [h.beside _ (not_place_prefix_place heq)] at hnone
      rw [h.beside _ (not_place_prefix_append heq k)]
      exact ht.closed n k hnone

theorem refilled_prune {name : String} (hname : IsPackage name) (ht : t.Distinct) :
    Refilled t (t.prune (place name)) name where
  isPackage := hname
  distinct := ht.prune _
  beside _ hk := FileTree.get?_prune_of_not_prefix hk
  entry := .inl (by rw [FileTree.get?_prune, if_pos (List.prefix_refl _)])
  closed _ k := by rw [FileTree.get?_prune, if_pos (List.prefix_append _ _)]

theorem get?_withCopy {name : String} {entries : List (Location × Entry)}
    (h : ∀ e ∈ entries, e.1 ≠ []) : (withCopy t name entries).get? (place name) = some .dir := by
  rw [withCopy, FileTree.get?_graft_of_not_mem fun e he heq => h e he (by simpa using heq),
    FileTree.get?_put]

theorem refilled_withCopy {name : String} (hname : IsPackage name) (ht : t.Distinct)
    {entries : List (Location × Entry)} (hentries : ∀ e ∈ entries, e.1 ≠ []) :
    Refilled t (withCopy (t.prune (place name)) name entries) name where
  isPackage := hname
  distinct := ((ht.prune _).put _ _).graft
  beside k hk := by
    have hne : k ≠ place name := fun heq => hk (heq ▸ List.prefix_refl _)
    rw [withCopy, FileTree.get?_graft_of_not_prefix hk, FileTree.get?_put_of_ne _ hne,
      FileTree.get?_prune_of_not_prefix hk]
  entry := .inr (get?_withCopy hentries)
  closed hnone := absurd ((get?_withCopy hentries).symm.trans hnone) (by simp)

theorem get?_place_of_script (t : FileTree) (name : String) {k : Location} (hk : k ≠ [])
    (content : Text.Bytes) :
    ((withPlace t name).put (place name ++ k) (.file content)).get? (place name) = some .dir := by
  rw [FileTree.get?_put_of_ne _ (by simpa using hk), get?_withPlace]

theorem refilled_script {name : String} (hname : IsPackage name) (ht : t.Distinct) {k : Location}
    (hk : k ≠ []) (content : Text.Bytes) :
    Refilled t ((withPlace t name).put (place name ++ k) (.file content)) name := by
  have hdir := get?_place_of_script t name hk content
  refine ⟨hname, ?_, ?_, .inr hdir, fun hnone => absurd (hdir.symm.trans hnone) (by simp)⟩
  · unfold withPlace
    split
    · exact ht.put _ _
    · exact (ht.put _ _).put _ _
  · intro k' hk'
    have hne : k' ≠ place name := fun heq => hk' (heq ▸ List.prefix_refl _)
    have hne' : k' ≠ place name ++ k := fun heq => hk' (heq ▸ List.prefix_append _ _)
    rw [FileTree.get?_put_of_ne _ hne', get?_withPlace_of_ne hne]

/-- A place that was filled is a directory. -/
theorem Fills.refilled_of_done (h : Fills folders t path (.done ()) t') (ht : t.Distinct) :
    Refilled t t' (ownName path) ∧ t'.get? (place (ownName path)) = some .dir := by
  cases h with
  | tree hdir hname =>
    have hentries : ∀ e ∈ (t.prune (place (ownName path))).below (normalized path), e.1 ≠ [] :=
      fun e he => (FileTree.mem_below.mp he).1
    exact ⟨refilled_withCopy hname ht hentries, get?_withCopy hentries⟩
  | script hfile hname hk content =>
    exact ⟨refilled_script hname ht hk content, get?_place_of_script t _ hk content⟩

/-- However the place of a package is filled, nothing else changes. -/
theorem Fills.refilled (h : Fills folders t path o t') (ht : Holds t names) (hapart : Apart path) :
    t' = t ∨ Refilled t t' (ownName path) := by
  cases h with
  | blocked f => exact .inl rfl
  | lost f hdir hplace h =>
    have hname := hapart.isName (FileTree.reaches_of_pathIsDir hdir).1
    exact .inr (refilled_prune ⟨hname, ht.ne_registerName (.inr hplace)⟩ ht.distinct)
  | cut f hdir hname h =>
    exact .inr (refilled_withCopy hname ht.distinct fun e he =>
      (FileTree.mem_below.mp (List.mem_filter.mp he).1).1)
  | tree hdir hname => exact .inr (Fills.refilled_of_done (@tree folders _ _ hdir hname) ht.distinct).1
  | script hfile hname hk content =>
    exact .inr (Fills.refilled_of_done (@script folders _ _ hfile hname _ hk content) ht.distinct).1

theorem Fills.holds (h : Fills folders t path o t') (ht : Holds t names) (hapart : Apart path) :
    Holds t' names := by
  rcases h.refilled ht hapart with rfl | hrefilled
  · exact ht
  · exact hrefilled.holds ht

/-- A directory whose place was filled is copied as it is. -/
theorem Fills.get?_copy (h : Fills folders t path (.done ()) t') (hdir : t.pathIsDir path = true)
    (ht : Holds t names) (hapart : Apart path) (k : Location) :
    t'.get? (place (ownName path) ++ k) = t.get? (normalized path ++ k) := by
  have hsource := (FileTree.reaches_of_pathIsDir hdir).2
  have hpruned : ∀ k, (t.prune (place (ownName path))).get? (normalized path ++ k) =
      t.get? (normalized path ++ k) := fun k =>
    FileTree.get?_prune_of_not_prefix (hapart.not_prefix (storePlace_prefix_place _))
  cases h with
  | tree _ hname =>
    rw [withCopy, FileTree.get?_graft_below (ht.distinct.prune _), hpruned]
    · have hroot := hpruned []
      rw [List.append_nil] at hroot
      rw [FileTree.get?_put, hroot, hsource]
    · intro k hk
      rw [FileTree.get?_put_of_ne _ (by simpa using hk), FileTree.get?_prune,
        if_pos (List.prefix_append _ _)]
  | script hfile hname hk content => rw [hdir] at hfile; cases hfile

/-- Once the place of a package is filled, the package is entered. -/
theorem installs_of_fills (limits : Limits) {m : Run Unit} (h : Holds t names) (hapart : Apart path)
    (hm : m.Takes t o t') (hfills : Fills limits.folders t path o t') :
    ∃ o t' names', (do
      m
      (Store.within limits).enroll (ownName path) ("lib/" ++ ownName path)
      printLine ("[stinstall] installed " ++ ownName path)).Takes t o t' ∧
        Installs limits.folders t names path o t' names' := by
  cases o with
  | done =>
    have henroll := @Registers.enroll limits _ _ (hfills.holds h hapart).toRegisters (ownName path)
    exact ⟨_, _, _, .bind hm (.bind henroll (.printLine _)), .entered hfills⟩
  | failed f => exact ⟨_, _, _, .bind_failed hm, .failed hfills⟩
  | unfinished => cases hfills

variable (limits) in
/-- Everything that installing a source can do to a store, once there is one. -/
theorem installs_install {t₀ : FileTree} (hprepare : (Store.within limits).prepare.Takes t₀ (.done ()) t)
    (h : Holds t names) (hapart : Apart path) :
    ∃ o t' names', (install (.within limits) path).Takes t₀ o t' ∧
      Installs limits.folders t names path o t' names' := by
  have hjoin : join (Store.within limits).dir (ownName path) = "lib/" ++ ownName path := join_lib _
  cases hentry : t.entry? path with
  | none =>
    have hexists : t.pathExists path = false := by simp [FileTree.pathExists, hentry]
    have hdir : t.pathIsDir path = false := by simp [FileTree.pathIsDir, hentry]
    refine ⟨_, _, _, .bind hprepare (.get_bind fun s hs => ?_), .refused hdir⟩
    rw [hs, hexists]
    exact .bind (.printLine _) (.pure ())
  | some e =>
    have hexists : t.pathExists path = true := by simp [FileTree.pathExists, hentry]
    cases e with
    | dir =>
      have hdir : t.pathIsDir path = true := by simp [FileTree.pathIsDir, hentry]
      obtain ⟨o, t', htakes, hfills⟩ := fills_replaceTree limits.folders h hapart hdir
      obtain ⟨o, t', names', htakes, hinstalls⟩ := installs_of_fills limits h hapart htakes hfills
      refine ⟨o, t', names', .bind hprepare (.get_bind fun s hs => ?_), hinstalls⟩
      rw [hs, hexists]
      refine .get_bind fun s hs => ?_
      rw [hs, hdir, hjoin]
      exact htakes
    | file content =>
      have hdir : t.pathIsDir path = false := by simp [FileTree.pathIsDir, hentry]
      cases hscript : Text.endsWith path scriptExtension with
      | true =>
        obtain ⟨o, t', htakes, hfills⟩ := fills_addScript limits.folders h hapart hentry hscript
        obtain ⟨o, t', names', htakes, hinstalls⟩ := installs_of_fills limits h hapart htakes hfills
        refine ⟨o, t', names', .bind hprepare (.get_bind fun s hs => ?_), hinstalls⟩
        rw [hs, hexists]
        refine .get_bind fun s hs => ?_
        rw [hs, hdir, hjoin, hscript]
        exact htakes
      | false =>
        refine ⟨_, _, _, .bind hprepare (.get_bind fun s hs => ?_), .refused hdir⟩
        rw [hs, hexists]
        refine .get_bind fun s hs => ?_
        rw [hs, hdir, hscript]
        exact .bind (.printLine _) (.pure ())

end Install

/-! ## Uninstalling -/

/-- How uninstalling can end, with the files and the registered names that it leaves. -/
inductive Uninstalls (t : FileTree) (names : List String) (name : String) :
    FileTree → List String → Prop where
  /-- The package is not registered. -/
  | absent (h : name ∉ names) : Uninstalls t names name t names
  /-- The package is removed, with all that is at its place. -/
  | removed (h : name ∈ names) :
      Uninstalls t names name
        ((t.prune (place name)).put (place registerName) (registerFile (names.filter (· != name))))
        (names.filter (· != name))

theorem takes_removePlace {t : FileTree} {names : List String} (h : Holds t names) {name : String}
    (hname : name ∈ names) :
    (removePlace (.str ("lib/" ++ name))).Takes t (.done ()) (t.prune (place name)) := by
  have hreach := h.reaches (h.packages name hname).isName
  have hne := (h.packages name hname).ne_register
  refine .get_bind fun s hs => ?_
  rcases h.entries name hne with hnone | hdir
  · rw [hs, hreach.pathExists_eq, hnone, h.prune_place hnone]
    exact .pure ()
  · rw [hs, hreach.pathExists_eq, hdir]
    exact takes_removeTree hreach hdir

/-- Everything that uninstalling can do to a store, once there is one. It never fails. -/
theorem uninstalls_uninstall (limits : Limits) {t₀ t : FileTree} {names : List String}
    (hprepare : (Store.within limits).prepare.Takes t₀ (.done ()) t) (h : Holds t names) (name : String) :
    ∃ t' names', (uninstall (.within limits) name).Takes t₀ (.done ()) t' ∧
      Uninstalls t names name t' names' := by
  by_cases hname : name ∈ names
  · have hpruned := (refilled_prune (h.packages name hname) h.distinct).holds h
    have hnamed : isNamed (registerOf names) name = .ok true := by
      rw [isNamed_registerOf, decide_eq_true hname]
    refine ⟨_, _, .bind hprepare (.bind h.load (.bind (.ofResult_ok hnamed) ?_)), .removed hname⟩
    refine .bind (.ofResult_ok (index_registerOf hname)) (.bind (.ofResult_ok rfl) ?_)
    refine .bind (takes_removePlace h hname) ?_
    rw [withdraw_registerOf]
    exact .bind (hpruned.save _) (.printLine _)
  · have hnamed : isNamed (registerOf names) name = .ok false := by
      rw [isNamed_registerOf, decide_eq_false hname]
    exact ⟨_, _, .bind hprepare (.bind h.load (.bind (.ofResult_ok hnamed) (.printLine _))),
      .absent hname⟩

end LineScript.Package
