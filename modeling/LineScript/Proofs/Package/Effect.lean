import LineScript.Proofs.Package.Consistency

/-!
# What installing does to the files

Installing is a function of the files and the path: `installed` gives the files that are left behind and
whether the run succeeds, for every tree of files, with or without a store, and for every path. What
installing keeps and what it changes is read off this function.
-/

namespace LineScript.Package

open Files

/-! ## Effects -/

/-- What a run does to the files: whether it succeeds, and the files that it leaves behind. -/
structure Effect where
  done : Bool
  files : FileTree

namespace Effect

def andThen (e : Effect) (next : FileTree → Effect) : Effect :=
  if e.done then next e.files else e

end Effect

/-- From every session with the files `t`, a run has an effect. -/
def Ends (m : Run Unit) (t : FileTree) (e : Effect) : Prop :=
  ∀ s : Session, s.files = t →
    (if e.done then (m s).1 = .done () else ∃ f, (m s).1 = .failed f) ∧ (m s).2.files = e.files

section Rules

variable {m : Run Unit} {t t' : FileTree} {e : Effect} {f : Fault}

theorem ends_of_done (h : m.Takes t (.done ()) t') : Ends m t ⟨true, t'⟩ :=
  h

theorem ends_of_failed (h : m.Takes t (.failed f) t') : Ends m t ⟨false, t'⟩ :=
  fun s hs => ⟨⟨f, (h s hs).1⟩, (h s hs).2⟩

theorem Ends.takes {m : Run Unit} (h : Ends m t e) (hdone : e.done = true) :
    m.Takes t (.done ()) e.files := by
  intro s hs
  have hs' := h s hs
  rwa [if_pos hdone] at hs'

theorem Ends.get_bind {k : Session → Run Unit} (h : ∀ s, s.files = t → Ends (k s) t e) :
    Ends (Run.get >>= k) t e :=
  fun s hs => h s hs s hs

theorem Ends.bind_done {n : Run α} {k : α → Run Unit} {a : α} (h : n.Takes t (.done a) t')
    (hk : Ends (k a) t' e) : Ends (n >>= k) t e := by
  intro s hs
  obtain ⟨hdone, hfiles⟩ := h s hs
  rcases hn : n s with ⟨o, s'⟩
  rw [hn] at hdone hfiles
  subst hdone
  simpa only [Bind.bind, Run.bind, hn] using hk s' hfiles

/-- What follows a run is done only if the run succeeds. -/
theorem Ends.andThen {k : Unit → Run Unit} {next : FileTree → Effect} (h : Ends m t e)
    (hk : e.done = true → Ends (k ()) e.files (next e.files)) : Ends (m >>= k) t (e.andThen next) := by
  intro s hs
  obtain ⟨houtcome, hfiles⟩ := h s hs
  rcases hm : m s with ⟨o, s'⟩
  rw [hm] at houtcome hfiles
  cases hdone : e.done with
  | true =>
    simp only [hdone, if_true] at houtcome
    subst houtcome
    simpa only [Effect.andThen, hdone, if_true, Bind.bind, Run.bind, hm] using hk hdone s' hfiles
  | false =>
    simp only [hdone, Bool.false_eq_true, if_false] at houtcome
    obtain ⟨f, rfl⟩ := houtcome
    simp only [Effect.andThen, hdone, Bool.false_eq_true, if_false, Bind.bind, Run.bind, hm]
    exact ⟨⟨f, rfl⟩, hfiles⟩

end Rules

/-! ## Making a store -/

/-- Make an empty register in the store's directory where there is none. -/
def withRegister (t : FileTree) : Effect :=
  match t.get? (place registerName) with
  | some (.file _) => ⟨true, t⟩
  | some .dir => ⟨false, t⟩
  | none => ⟨true, t.put (place registerName) (registerFile [])⟩

def prepared (t : FileTree) : Effect :=
  if t.get? work = some .dir then
    match t.get? storePlace with
    | some (.file _) => ⟨false, t⟩
    | some .dir => withRegister t
    | none => withRegister (t.put storePlace .dir)
  else ⟨false, t⟩

/-- There is a store's directory with a register in it, whatever the register holds. -/
structure Prepared (t : FileTree) : Prop where
  work : t.get? work = some .dir
  store : t.get? storePlace = some .dir
  register : t.isFile (place registerName) = true

section Prepare

variable {limits : Limits} {t : FileTree}

theorem takes_changeFiles_error {f : FileTree → FileTree × Except Fault Unit} {t' : FileTree} {c : Fault}
    (h : f t = (t', .error c)) : (changeFiles f).Takes t (.failed c) t' := by
  refine .get_bind fun s hs => ?_
  rw [hs, h]
  exact .bind (.modify fun _ _ => rfl) (.fail c)

theorem takes_writeContent_dir {path content : String} {l : Location} (h : t.Reaches path l)
    (hdir : t.isDir l = true) (hlast : baseName path ≠ "") :
    (writeContent path content).Takes t (.failed (refuse path .isADirectory)) t := by
  refine .get_bind fun s hs => ?_
  rw [hs]
  exact .bind_failed (.ofResult_error (h.write_eq_error hdir hlast _))

/-- Where there is no working directory, no walk begins. -/
theorem walk_work_error (h : t.get? work ≠ some .dir) (name : String) (names : List String) :
    ∃ c, t.walk work (name :: names) = .error c := by
  cases hwalk : t.walk work (name :: names) with
  | error c => exact ⟨c, rfl⟩
  | ok l => exact absurd (FileTree.walk_cons_eq_ok hwalk).1 h

theorem start_lib : start "lib" = work := by decide

theorem segments_lib : segments "lib" = ["lib"] := by decide

theorem pathIsDir_lib_of_not_dir (h : t.get? work ≠ some .dir) : t.pathIsDir "lib" = false := by
  refine Bool.eq_false_iff.mpr fun hdir => ?_
  have hreach := (FileTree.reaches_of_pathIsDir hdir).1
  have hwalk := (FileTree.resolve_eq_ok hreach.resolve).2
  obtain ⟨c, hc⟩ := walk_work_error h "lib" []
  rw [start_lib, segments_lib, hc] at hwalk
  cases hwalk

/-- Making the store's directory fails where there is no working directory or something in its place. -/
theorem makeDirs_lib_error (h : t.get? work = some .dir → (t.get? storePlace).isSome) :
    ∃ c, t.makeDirs false "lib" = (t, .error c) := by
  suffices hmake : ∃ c, t.makeDir "lib" = .error c by
    obtain ⟨c, hc⟩ := hmake
    have hsplit : splitLast "lib" = ("", "lib") := by decide
    exact ⟨c, by simp [FileTree.makeDirs, FileTree.makeDirsFrom, hsplit, FileTree.makeLast, hc]⟩
  have hnames : bareSegments "lib" = ["lib"] := by decide
  unfold FileTree.makeDir
  rw [if_neg (by decide), FileTree.walkFrom, if_neg (by decide), if_neg (by decide), start_lib, hnames]
  by_cases hwork : t.get? work = some .dir
  · rw [FileTree.walk_name hwork isName_lib]
    exact ⟨_, if_pos (h hwork)⟩
  · obtain ⟨c, hc⟩ := walk_work_error hwork "lib" []
    rw [hc]
    exact ⟨_, rfl⟩

/-- The register is made where it is missing, once there is a directory for it. -/
theorem ends_withRegister (hwork : t.get? work = some .dir) (hstore : t.get? storePlace = some .dir) :
    Ends (do
      if !(← Run.get).files.pathIsFile (Store.within limits).register then
        writeContent (Store.within limits).register (Json.text (.object []))) t (withRegister t) := by
  have hreach : t.Reaches (Store.within limits).register (place registerName) :=
    reaches_place hwork hstore isName_registerName
  refine .get_bind fun s hs => ?_
  rw [hs, hreach.pathIsFile_eq]
  rcases hentry : t.get? (place registerName) with _ | content | _
  · simp only [FileTree.isFile, withRegister, hentry]
    exact ends_of_done (takes_writeContent hreach (by simp [FileTree.isDir, hentry])
      (show baseName "lib/packages.json" ≠ "" by decide))
  · simp only [FileTree.isFile, withRegister, hentry]
    exact ends_of_done (.pure ())
  · simp only [FileTree.isFile, withRegister, hentry]
    exact ends_of_failed (takes_writeContent_dir hreach (FileTree.isDir_iff.mpr hentry)
      (show baseName "lib/packages.json" ≠ "" by decide))

theorem ends_prepare (t : FileTree) : Ends (Store.within limits).prepare t (prepared t) := by
  refine .get_bind fun s hs => ?_
  rw [hs]
  by_cases hwork : t.get? work = some .dir
  · rw [prepared, if_pos hwork]
    have hreach := (reaches_store hwork).pathIsDir_eq
    rcases hstore : t.get? storePlace with _ | content | _
    · have hnone : t.isDir storePlace = false := by simp [FileTree.isDir, hstore]
      rw [show t.pathIsDir (Store.within limits).dir = false from hreach.trans hnone]
      refine .bind_done (takes_changeFiles (makeDirs_store hwork hstore)) ?_
      exact ends_withRegister ((FileTree.get?_put_of_ne _ (by decide)).trans hwork)
        (FileTree.get?_put _ _ _)
    · have hfile : t.isDir storePlace = false := by simp [FileTree.isDir, hstore]
      rw [show t.pathIsDir (Store.within limits).dir = false from hreach.trans hfile]
      obtain ⟨c, hc⟩ := makeDirs_lib_error (t := t) fun _ => by simp [hstore]
      exact ends_of_failed (.bind_failed (takes_changeFiles_error hc))
    · rw [show t.pathIsDir (Store.within limits).dir = true from hreach.trans (FileTree.isDir_iff.mpr hstore)]
      exact ends_withRegister hwork hstore
  · rw [prepared, if_neg hwork,
      show t.pathIsDir (Store.within limits).dir = false from pathIsDir_lib_of_not_dir hwork]
    obtain ⟨c, hc⟩ := makeDirs_lib_error (t := t) fun h => absurd h hwork
    exact ends_of_failed (.bind_failed (takes_changeFiles_error hc))

theorem prepared_withRegister (hwork : t.get? work = some .dir) (hstore : t.get? storePlace = some .dir)
    (h : (withRegister t).done = true) : Prepared (withRegister t).files := by
  rcases hentry : t.get? (place registerName) with _ | content | _
  · simp only [withRegister, hentry]
    refine ⟨?_, ?_, ?_⟩
    · rwa [FileTree.get?_put_of_ne _ (by decide)]
    · rwa [FileTree.get?_put_of_ne _ (by decide)]
    · simp [FileTree.isFile, FileTree.get?_put, registerFile]
  · simp only [withRegister, hentry]
    exact ⟨hwork, hstore, by simp [FileTree.isFile, hentry]⟩
  · simp [withRegister, hentry] at h

/-- Where a store could be made, there is one. -/
theorem prepared_of_done (h : (prepared t).done = true) : Prepared (prepared t).files := by
  by_cases hwork : t.get? work = some .dir
  · rw [prepared, if_pos hwork] at h ⊢
    rcases hstore : t.get? storePlace with _ | content | _
    · simp only [hstore] at h ⊢
      exact prepared_withRegister ((FileTree.get?_put_of_ne _ (by decide)).trans hwork)
        (FileTree.get?_put _ _ _) h
    · simp [hstore] at h
    · simp only [hstore] at h ⊢
      exact prepared_withRegister hwork hstore h
  · simp [prepared, hwork] at h

/-- Making a store changes nothing that is there. -/
theorem get?_withRegister {l : Location} {e : Entry} (h : t.get? l = some e) :
    (withRegister t).files.get? l = some e := by
  rcases hentry : t.get? (place registerName) with _ | content | _
  · simp only [withRegister, hentry]
    have hne : l ≠ place registerName := by
      rintro rfl
      rw [hentry] at h
      cases h
    rwa [FileTree.get?_put_of_ne _ hne]
  · simpa only [withRegister, hentry] using h
  · simpa only [withRegister, hentry] using h

theorem get?_prepared {l : Location} {e : Entry} (h : t.get? l = some e) :
    (prepared t).files.get? l = some e := by
  by_cases hwork : t.get? work = some .dir
  · rw [prepared, if_pos hwork]
    rcases hstore : t.get? storePlace with _ | content | _
    · have hne : l ≠ storePlace := by
        rintro rfl
        rw [hstore] at h
        cases h
      exact get?_withRegister ((FileTree.get?_put_of_ne _ hne).trans h)
    · exact h
    · exact get?_withRegister h
  · rwa [prepared, if_neg hwork]

end Prepare

/-! ## Filling a place -/

/-- The files without what is at the place of a package. -/
def vacated (t : FileTree) (name : String) : FileTree :=
  if t.isDir (place name) then t.prune (place name) else t

/-- Copy a directory to the place of its package, where nothing is. -/
def copied (limits : Limits) (t : FileTree) (path : String) : Effect :=
  if !t.pathIsDir path then ⟨false, t⟩
  else if intoItself (normalized path) (ownName path) then ⟨false, t.put (place (ownName path)) .dir⟩
  else ⟨(copyable limits.folders t path (ownName path)).length == (t.below (normalized path)).length,
    withCopy t (ownName path) (copyable limits.folders t path (ownName path))⟩

/-- Copy a directory to the place of its package instead of what is there. -/
def replaced (limits : Limits) (t : FileTree) (path : String) : Effect :=
  if t.isFile (place (ownName path)) then ⟨false, t⟩ else copied limits (vacated t (ownName path)) path

/-- Copy a script into the directory at the place of its package. -/
def added (t : FileTree) (path : String) (content : Text.Bytes) : Effect :=
  if normalized path == scriptTarget t (ownName path) || t.isDir (scriptTarget t (ownName path)) then
    ⟨false, t⟩
  else ⟨true, t.put (scriptTarget t (ownName path)) (.file content)⟩

/-- Copy a script to the place of its package. -/
def addedScript (t : FileTree) (path : String) (content : Text.Bytes) : Effect :=
  if t.isFile (place (ownName path)) then ⟨false, t⟩
  else added (withPlace t (ownName path)) path content

section Fill

variable {limits : Limits} {t : FileTree} {path : String}

theorem Prepared.reaches (h : Prepared t) {name : String} (hname : IsName name) :
    t.Reaches ("lib/" ++ name) (place name) :=
  reaches_place h.work h.store hname

theorem not_place_prefix_work (name : String) : ¬ place name <+: work := by
  simp [place, storePlace, work]

theorem not_place_prefix_storePlace (name : String) : ¬ place name <+: storePlace := by
  simp [place, storePlace, work]

theorem get?_vacated_outside {name : String} {l : Location} (h : ¬ place name <+: l) :
    (vacated t name).get? l = t.get? l := by
  unfold vacated
  split
  · exact FileTree.get?_prune_of_not_prefix h
  · rfl

/-- A path that leads to no directory is the path of no copy. -/
theorem takes_copyTree_absent (hnull : '\x00' ∉ path.toList) (hdir : t.pathIsDir path = false)
    (destination : String) : ∃ f, (copyTree limits.folders path destination).Takes t (.failed f) t := by
  cases hresolve : t.resolve path with
  | error c => exact ⟨_, takes_copyTree_lost hresolve⟩
  | ok l =>
    have hreach : t.Reaches path l := ⟨hnull, hresolve⟩
    rw [hreach.pathIsDir_eq] at hdir
    refine ⟨refuse path .notFound, .get_bind fun s hs => ?_⟩
    rw [hs, hresolve]
    refine .get_bind fun s hs => ?_
    rw [hs, hdir]
    exact .bind_failed (.fail _)

variable (limits) in
theorem ends_copyTree (hwork : t.get? work = some .dir) (hstore : t.get? storePlace = some .dir)
    (hname : IsName (ownName path)) (hnone : t.get? (place (ownName path)) = none)
    (hnull : '\x00' ∉ path.toList) :
    Ends (copyTree limits.folders path ("lib/" ++ ownName path)) t (copied limits t path) := by
  unfold copied
  cases hdir : t.pathIsDir path with
  | false =>
    obtain ⟨f, htakes⟩ := takes_copyTree_absent hnull hdir ("lib/" ++ ownName path)
    exact ends_of_failed htakes
  | true =>
    obtain ⟨hreach, hsource⟩ := FileTree.reaches_of_pathIsDir hdir
    have htakes := takes_copyTree_of_resolve limits.folders hwork hstore hname hnone hreach.resolve hsource
    cases hinto : intoItself (normalized path) (ownName path) with
    | true =>
      simp only [hinto, if_true] at htakes
      exact ends_of_failed htakes
    | false =>
      simp only [hinto, Bool.false_eq_true, if_false, copyOutcome] at htakes
      cases hlength : (copyable limits.folders t path (ownName path)).length ==
          (t.below (normalized path)).length with
      | true =>
        simp only [bne, hlength] at htakes
        exact ends_of_done htakes
      | false =>
        simp only [bne, hlength] at htakes
        exact ends_of_failed htakes

variable (limits) in
/-- Putting a directory in the place of its package. -/
theorem ends_replaceTree (h : Prepared t) (hname : IsName (ownName path)) (hnull : '\x00' ∉ path.toList) :
    Ends (replaceTree limits.folders path ("lib/" ++ ownName path)) t (replaced limits t path) := by
  have hreach := h.reaches hname
  have hvacated : ∀ l, ¬ place (ownName path) <+: l → (vacated t (ownName path)).get? l = t.get? l :=
    fun l hl => get?_vacated_outside hl
  have hcopy := fun hnone => ends_copyTree limits ((hvacated _ (not_place_prefix_work _)).trans h.work)
    ((hvacated _ (not_place_prefix_storePlace _)).trans h.store) hname hnone hnull
  refine .get_bind fun s hs => ?_
  rw [hs, hreach.pathExists_eq]
  rcases hplace : t.get? (place (ownName path)) with _ | content | _
  · have hsame : vacated t (ownName path) = t := by simp [vacated, FileTree.isDir, hplace]
    have hfile : t.isFile (place (ownName path)) = false := by simp [FileTree.isFile, hplace]
    rw [replaced, hfile]
    rw [hsame] at hcopy ⊢
    exact hcopy hplace
  · have hfile : t.isFile (place (ownName path)) = true := by simp [FileTree.isFile, hplace]
    have hdir : t.isDir (place (ownName path)) = false := by simp [FileTree.isDir, hplace]
    -- A file is not removed like a directory, so nothing is done.
    rw [replaced, hfile]
    exact ends_of_failed (.bind_failed (takes_removeTree_file hreach hdir))
  · -- The old version goes first, and with it every way that leads through it.
    have hpruned : vacated t (ownName path) = t.prune (place (ownName path)) := by
      simp [vacated, FileTree.isDir, hplace]
    have hfile : t.isFile (place (ownName path)) = false := by simp [FileTree.isFile, hplace]
    rw [replaced, hfile]
    rw [hpruned] at hcopy ⊢
    refine .bind_done (takes_removeTree hreach hplace) (hcopy ?_)
    rw [FileTree.get?_prune, if_pos (List.prefix_refl _)]

/-- Nothing can be looked up below a file. -/
theorem resolve_join_of_file {l : Location} {name : String} {content : Text.Bytes} (h : t.Reaches path l)
    (hfile : t.get? l = some (.file content)) (hslash : path.endsWith '/' = false)
    (hname : '/' ∉ name.toList) : ∃ c, t.resolve (join path name) = .error c := by
  obtain ⟨hne, hwalk⟩ := FileTree.resolve_eq_ok h.resolve
  cases hresolve : t.resolve (join path name) with
  | error c => exact ⟨c, rfl⟩
  | ok m =>
    have hfar := (FileTree.resolve_eq_ok hresolve).2
    rw [join_eq hne hslash, segments_append hname, start_append_slash hne, FileTree.walk_append hwalk] at hfar
    have hdir := (FileTree.walk_cons_eq_ok hfar).1
    rw [hfile] at hdir
    cases hdir

theorem write_of_resolve_error {content : Text.Bytes} {c : FileCause} (hnull : '\x00' ∉ path.toList)
    (hresolve : t.resolve path = .error c) (hlast : baseName path ≠ "") :
    t.write path content = .error (refuse path c) := by
  obtain ⟨front, hnames⟩ := segments_eq_append_baseName path
  have htarget : t.target path = .error (refuse path c) := by
    simp [FileTree.target, hnull, hnames, hlast, hresolve]
  rw [FileTree.write, htarget]
  rfl

theorem takes_copyFile_lost {source destination : String} {content : Text.Bytes} {l : Location}
    {c : FileCause} (hsource : t.Reaches source l) (hcontent : t.get? l = some (.file content))
    (hnull : '\x00' ∉ destination.toList) (hresolve : t.resolve destination = .error c)
    (hlast : baseName destination ≠ "") :
    (copyFile source destination).Takes t (.failed (refuse destination c)) t := by
  have hread : t.read source = .ok content :=
    FileTree.read_eq_ok_iff.mpr (hsource.entry?_eq.trans hcontent)
  have hdir : t.pathIsDir destination = false := by
    simp [FileTree.pathIsDir, FileTree.entry?, hresolve]
  refine .get_bind fun s hs => ?_
  simp only [hs, hdir, hsource.resolve, hresolve, Bool.false_eq_true, if_false]
  refine .bind (.ofResult_ok hread) ?_
  exact .bind_failed (.ofResult_error (write_of_resolve_error hnull hresolve hlast))

theorem takes_copyFile_same {source destination target : String} {l : Location}
    (htarget : (if t.pathIsDir destination then join destination (baseName source) else destination) =
      target) (hsource : t.resolve source = .ok l) (hreach : t.resolve target = .ok l) :
    ∃ f, (copyFile source destination).Takes t (.failed f) t := by
  refine ⟨.sameFile (Text.quoted source) (Text.quoted target), .get_bind fun s hs => ?_⟩
  simp only [hs, htarget, hsource, hreach, beq_self_eq_true, if_true]
  exact .bind_failed (.fail _)

/-- Putting a script into the directory at the place of its package. -/
theorem ends_copyFile {content : Text.Bytes} (hwork : t.get? work = some .dir)
    (hstore : t.get? storePlace = some .dir) (hplace : t.get? (place (ownName path)) = some .dir)
    (hname : IsName (ownName path)) (hown : ownName path = baseName path)
    (hreach : t.Reaches path (normalized path))
    (hcontent : t.get? (normalized path) = some (.file content)) :
    Ends (copyFile path (join ("lib/" ++ ownName path) (ownName path))) t (added t path content) := by
  obtain ⟨target, hlast, htarget, heq⟩ := reaches_scriptTarget hwork hstore hplace hname
  unfold added
  by_cases hsame : normalized path = scriptTarget t (ownName path)
  · simp only [hsame, beq_self_eq_true, Bool.true_or, if_true]
    obtain ⟨f, htakes⟩ := takes_copyFile_same (by rwa [← hown]) (hsame ▸ hreach.resolve) htarget.resolve
    exact ends_of_failed htakes
  · have htakes := takes_copyFile (by rwa [← hown]) hreach hcontent htarget hsame hlast
    have hne : (normalized path == scriptTarget t (ownName path)) = false := by simpa using hsame
    simp only [hne, Bool.false_or]
    cases hdir : t.isDir (scriptTarget t (ownName path)) with
    | true =>
      simp only [hdir, if_true] at htakes
      exact ends_of_failed htakes
    | false =>
      simp only [hdir, Bool.false_eq_true, if_false] at htakes
      exact ends_of_done htakes

/-- A path that is there and does not lead to the root has a name of its own. -/
theorem isName_ownName (h : t.Reaches path (normalized path)) (hne : normalized path ≠ []) :
    IsName (ownName path) := by
  rw [ownName, List.getLast?_eq_some_getLast hne]
  exact h.isName _ (List.getLast_mem hne)

/-- The own name of a script is its last name. -/
theorem ownName_script (h : t.Reaches path (normalized path))
    (hscript : Text.endsWith path scriptExtension = true) :
    ownName path = baseName path ∧ IsPackage (ownName path) := by
  obtain ⟨hempty, hdot, hdots, hregister⟩ := baseName_of_endsWith hscript
  have hown : ownName path = baseName path := ownName_eq_baseName hempty hdot hdots
  refine ⟨hown, isName_ownName h fun hroot => ?_, hown ▸ hregister⟩
  apply hempty
  rw [← hown, ownName, hroot]
  rfl

/-- Putting a script into the place of its package. -/
theorem ends_addScript {content : Text.Bytes} (h : Prepared t)
    (hentry : t.entry? path = some (.file content))
    (hscript : Text.endsWith path scriptExtension = true) :
    Ends (addScript path ("lib/" ++ ownName path)) t (addedScript t path content) := by
  obtain ⟨hreach, hcontent⟩ := FileTree.reaches_of_entry? hentry
  obtain ⟨hown, hname, -⟩ := ownName_script hreach hscript
  have hplace := h.reaches hname
  have hslash : ("lib/" ++ ownName path).endsWith '/' = false := hname.endsWith_append "lib/"
  refine .get_bind fun s hs => ?_
  rw [hs, hplace.pathExists_eq, ← hown]
  rcases hold : t.get? (place (ownName path)) with _ | content' | _
  · have hfile : t.isFile (place (ownName path)) = false := by simp [FileTree.isFile, hold]
    have hput : ∀ {k}, k ≠ place (ownName path) →
        (t.put (place (ownName path)) .dir).get? k = t.get? k := FileTree.get?_put_of_ne _
    have hne : normalized path ≠ place (ownName path) := by
      intro heq
      rw [heq, hold] at hcontent
      cases hcontent
    rw [addedScript, hfile, withPlace_of_none hold]
    refine .bind_done (takes_changeFiles (makeDirs_place h.work h.store hname hold)) ?_
    exact ends_copyFile ((hput (by simp [place, storePlace])).trans h.work)
      ((hput (by simp [place])).trans h.store) (FileTree.get?_put _ _ _) hname hown
      (hreach.put (by simp [FileTree.isDir, hold]) _) ((hput hne).trans hcontent)
  · have hfile : t.isFile (place (ownName path)) = true := by simp [FileTree.isFile, hold]
    have hjoin : join ("lib/" ++ ownName path) (ownName path) =
        "lib/" ++ ownName path ++ "/" ++ ownName path := join_eq (by simp) hslash
    obtain ⟨c, hresolve⟩ := resolve_join_of_file hplace hold hslash hname.slash
    rw [addedScript, hfile]
    refine ends_of_failed (takes_copyFile_lost hreach hcontent ?_ hresolve ?_)
    · simp [hjoin, hname.null]
    · rw [baseName_join (by simp) hslash hname.slash]
      exact hname.ne_empty
  · have hfile : t.isFile (place (ownName path)) = false := by simp [FileTree.isFile, hold]
    rw [addedScript, hfile, withPlace_of_dir hold]
    exact ends_copyFile h.work h.store hold hname hown hreach hcontent

end Fill

/-! ## A path that leads to the root -/

/-- What is left of a store when the root is installed: the root has no name, so the store itself is taken
for its place, and the root cannot be copied into it. -/
def emptied (t : FileTree) (path : String) : FileTree :=
  if (t.prune storePlace).pathIsDir path then (t.prune storePlace).put storePlace .dir
  else t.prune storePlace

section Root

variable {limits : Limits} {t : FileTree} {path : String}

theorem reaches_lib_slash (hwork : t.get? work = some .dir) (hstore : t.get? storePlace = some .dir) :
    t.Reaches "lib/" storePlace := by
  have hstart : start "lib/" = work := by decide
  have hsegments : segments "lib/" = ["lib"] ++ [""] := by decide
  refine ⟨by decide, FileTree.resolve_eq_ok_iff.mpr ⟨by decide, by decide, ?_⟩⟩
  rw [hstart, hsegments, FileTree.walk_append (FileTree.walk_name hwork isName_lib), FileTree.walk_cons]
  rw [show work ++ ["lib"] = storePlace from rfl, hstore]
  rfl

theorem makeDirs_lib_slash (hwork : t.get? work = some .dir) (hnone : t.get? storePlace = none) :
    t.makeDirs false "lib/" = (t.put storePlace .dir, .ok ()) := by
  have hstart : start "lib/" = work := by decide
  have hnames : bareSegments "lib/" = ["lib"] := by decide
  have hsplit : splitLast "lib/" = ("", "lib") := by decide
  have hmake : t.makeDir "lib/" = .ok (t.put storePlace .dir) := by
    unfold FileTree.makeDir
    rw [if_neg (by decide), FileTree.walkFrom, if_neg (by decide), if_neg (by decide), hstart, hnames,
      FileTree.walk_name hwork isName_lib]
    rw [show work ++ ["lib"] = storePlace from rfl]
    simp [hnone]
  simp [FileTree.makeDirs, FileTree.makeDirsFrom, hsplit, FileTree.makeLast, hmake]

variable (limits) in
theorem ends_replaceTree_root (h : Prepared t) (hroot : normalized path = [])
    (hnull : '\x00' ∉ path.toList) : Ends (replaceTree limits.folders path "lib/") t ⟨false, emptied t path⟩ := by
  have hwork : (t.prune storePlace).get? work = some .dir :=
    (FileTree.get?_prune_of_not_prefix (by simp [storePlace, work])).trans h.work
  have hnone : (t.prune storePlace).get? storePlace = none := by
    rw [FileTree.get?_prune, if_pos (List.prefix_refl _)]
  have hreach := reaches_lib_slash h.work h.store
  refine .get_bind fun s hs => ?_
  rw [hs, hreach.pathExists_eq, h.store]
  refine .bind_done (takes_removeTree hreach h.store) ?_
  unfold emptied
  cases hdir : (t.prune storePlace).pathIsDir path with
  | false =>
    obtain ⟨f, htakes⟩ := takes_copyTree_absent hnull hdir "lib/"
    exact ends_of_failed htakes
  | true =>
    obtain ⟨hsource, hentry⟩ := FileTree.reaches_of_pathIsDir hdir
    have hput := reaches_lib_slash ((FileTree.get?_put_of_ne _ (by decide)).trans hwork)
      (FileTree.get?_put (t.prune storePlace) storePlace .dir)
    refine ends_of_failed (f := .copy) (.get_bind fun s hs => ?_)
    rw [hs, hsource.resolve, hroot]
    refine .get_bind fun s hs => ?_
    rw [hs, FileTree.isDir_iff.mpr (hroot ▸ hentry)]
    refine .get_bind fun s hs => ?_
    rw [hs]
    refine .bind (takes_changeFiles (makeDirs_lib_slash hwork hnone)) ?_
    refine .get_bind fun s hs => ?_
    rw [hs, hput.resolve]
    exact .fail _

end Root

/-! ## Entering a package -/

/-- Enter a package in the register, if it can hold entries. -/
def entered (limits : Limits) (t : FileTree) (name : String) : Effect :=
  match t.readText "lib/packages.json" >>= Json.parseWithin limits.levels >>= (enter · name ("lib/" ++ name)) with
  | .ok v => ⟨true, t.put (place registerName) (.file (Text.Utf8.encode v.indentedText))⟩
  | .error _ => ⟨false, t⟩

theorem takes_load {limits : Limits} {t : FileTree} {v : Json}
    (h : (t.readText "lib/packages.json" >>= Json.parseWithin limits.levels) = .ok v) :
    (Store.within limits).load.Takes t (.done v) t := by
  refine .get_bind fun s hs => ?_
  rw [hs]
  cases hread : t.readText "lib/packages.json" with
  | error f => simp [hread, bind, Except.bind] at h
  | ok text =>
    rw [hread] at h
    exact .bind (.ofResult_ok hread) (.ofResult_ok h)

theorem takes_load_error {limits : Limits} {t : FileTree} {f : Fault}
    (h : (t.readText "lib/packages.json" >>= Json.parseWithin limits.levels) = .error f) :
    (Store.within limits).load.Takes t (.failed f) t := by
  refine .get_bind fun s hs => ?_
  rw [hs]
  cases hread : t.readText "lib/packages.json" with
  | error f' =>
    rw [hread] at h
    cases h
    exact .bind_failed (.ofResult_error hread)
  | ok text =>
    rw [hread] at h
    exact .bind (.ofResult_ok hread) (.ofResult_error h)

theorem takes_save {limits : Limits} {t : FileTree} (h : Prepared t) (v : Json) :
    ((Store.within limits).save v).Takes t (.done ())
      (t.put (place registerName) (.file (Text.Utf8.encode v.indentedText))) := by
  have hreach : t.Reaches (Store.within limits).register (place registerName) := h.reaches isName_registerName
  have hdir : t.isDir (place registerName) = false := by
    refine Bool.eq_false_iff.mpr fun hdir => ?_
    have hfile := h.register
    simp [FileTree.isFile, FileTree.isDir_iff.mp hdir] at hfile
  refine .get_bind fun s hs => ?_
  rw [hs, hreach.pathIsFile_eq, h.register]
  exact takes_writeContent hreach hdir (show baseName "lib/packages.json" ≠ "" by decide)

theorem ends_enroll {limits : Limits} {t : FileTree} (h : Prepared t) (name : String) :
    Ends ((Store.within limits).enroll name ("lib/" ++ name)) t (entered limits t name) := by
  unfold entered
  cases hload : t.readText "lib/packages.json" >>= Json.parseWithin limits.levels with
  | error f => exact ends_of_failed (.bind_failed (takes_load_error hload))
  | ok register =>
    refine .bind_done (takes_load hload) ?_
    cases henter : enter register name ("lib/" ++ name) with
    | error f =>
      simp only [bind, Except.bind, henter]
      exact ends_of_failed (.bind_failed (.ofResult_error rfl))
    | ok v =>
      simp only [bind, Except.bind, henter]
      exact .bind_done (.ofResult_ok rfl) (ends_of_done (takes_save h v))

/-! ## Installing -/

/-- Fill the place of a package with the source at a path. Nothing is done where nothing is at the path, or
a file that is no script. -/
def filled? (limits : Limits) (t : FileTree) (path : String) : Option Effect :=
  match t.entry? path with
  | none => none
  | some .dir => some (if normalized path = [] then ⟨false, emptied t path⟩ else replaced limits t path)
  | some (.file content) =>
    if Text.endsWith path scriptExtension then some (addedScript t path content) else none

/-- Install the source at a path into a store. -/
def installedIn (limits : Limits) (path : String) (t : FileTree) : Effect :=
  match filled? limits t path with
  | none => ⟨true, t⟩
  | some e => e.andThen (entered limits · (ownName path))

/-- Install the source at a path into the store, which is made if it is missing. -/
def installed (limits : Limits) (t : FileTree) (path : String) : Effect :=
  (prepared t).andThen (installedIn limits path)

section Install

variable {limits : Limits} {t : FileTree} {path : String}

theorem get?_copied_outside {l : Location} (h : ¬ place (ownName path) <+: l) :
    (copied limits t path).files.get? l = t.get? l := by
  have hne : l ≠ place (ownName path) := fun heq => h (heq ▸ List.prefix_refl _)
  unfold copied
  split
  · rfl
  split
  · exact FileTree.get?_put_of_ne _ hne
  · rw [withCopy, FileTree.get?_graft_of_not_prefix h, FileTree.get?_put_of_ne _ hne]

/-- Putting a directory in the place of its package changes nothing else. -/
theorem get?_replaced_of_not_prefix {l : Location} (h : ¬ place (ownName path) <+: l) :
    (replaced limits t path).files.get? l = t.get? l := by
  unfold replaced
  split
  · rfl
  · exact (get?_copied_outside h).trans (get?_vacated_outside h)

/-- Putting a script into the place of its package changes nothing else. -/
theorem get?_addedScript_of_not_prefix {content : Text.Bytes} {l : Location}
    (h : ¬ place (ownName path) <+: l) : (addedScript t path content).files.get? l = t.get? l := by
  have hne : l ≠ place (ownName path) := fun heq => h (heq ▸ List.prefix_refl _)
  unfold addedScript
  split
  · rfl
  unfold added
  split
  · exact get?_withPlace_of_ne hne
  · obtain ⟨k, -, htarget⟩ := scriptTarget_eq (withPlace t (ownName path)) (ownName path)
    have hne' : l ≠ place (ownName path) ++ k := fun heq => h (heq ▸ List.prefix_append _ _)
    rw [htarget, FileTree.get?_put_of_ne _ hne', get?_withPlace_of_ne hne]

/-- A store stays one when the place of a package is filled. -/
theorem Prepared.of_get?_eq {t' : FileTree} {name : String} (h : Prepared t) (hname : name ≠ registerName)
    (hsame : ∀ l, ¬ place name <+: l → t'.get? l = t.get? l) : Prepared t' := by
  refine ⟨?_, ?_, ?_⟩
  · rw [hsame _ (not_place_prefix_work name)]
    exact h.work
  · rw [hsame _ (not_place_prefix_storePlace name)]
    exact h.store
  · rw [FileTree.isFile, hsame _ (not_place_prefix_place hname)]
    exact h.register

/-- The place of the register holds a file, so it is not filled with a package. -/
theorem Prepared.ne_registerName (h : Prepared t) {name : String} (hfile : t.isFile (place name) = false) :
    name ≠ registerName := by
  rintro rfl
  rw [h.register] at hfile
  cases hfile

theorem replaced_done (h : (replaced limits t path).done = true) : t.isFile (place (ownName path)) = false := by
  refine Bool.eq_false_iff.mpr fun hfile => ?_
  simp [replaced, hfile] at h

theorem addedScript_done {content : Text.Bytes} (h : (addedScript t path content).done = true) :
    t.isFile (place (ownName path)) = false := by
  refine Bool.eq_false_iff.mpr fun hfile => ?_
  simp [addedScript, hfile] at h

/-- A script that was put into the place of its package is there. -/
theorem files_addedScript_of_done {content : Text.Bytes} (h : (addedScript t path content).done = true) :
    (addedScript t path content).files =
      (withPlace t (ownName path)).put (scriptTarget (withPlace t (ownName path)) (ownName path))
        (.file content) := by
  have hfile := addedScript_done h
  simp only [addedScript, hfile, Bool.false_eq_true, if_false, added] at h ⊢
  split
  · rename_i hblocked
    rw [if_pos hblocked] at h
    cases h
  · rfl

/-- What is printed in the end changes no files. -/
theorem Ends.printLine {m : Run Unit} {e : Effect} (h : Ends m t e) (text : String) :
    Ends (m >>= fun _ => LineScript.printLine text) t e := by
  have hprint := h.andThen (k := fun _ => LineScript.printLine text) fun _ => ends_of_done (.printLine text)
  have hsame : e.andThen (fun t => ⟨true, t⟩) = e := by
    obtain ⟨done, files⟩ := e
    cases done with
    | true => rfl
    | false => rfl
  rwa [hsame] at hprint

/-- Once the place of a package is filled, the package is entered. -/
theorem Ends.enter {m : Run Unit} {e : Effect} (h : Ends m t e) (name : String)
    (hprepared : e.done = true → Prepared e.files) :
    Ends (m >>= fun _ => (Store.within limits).enroll name ("lib/" ++ name) >>= fun _ =>
      LineScript.printLine ("[stinstall] installed " ++ name)) t (e.andThen (entered limits · name)) :=
  h.andThen fun hdone => (ends_enroll (hprepared hdone) name).printLine _

variable (limits) in
/-- From every tree of files on, installing has the effect that `installed` gives. -/
theorem ends_install (t : FileTree) (path : String) :
    Ends (install (.within limits) path) t (installed limits t path) := by
  refine (ends_prepare t).andThen fun hprepared => ?_
  have h := prepared_of_done hprepared
  -- From here on only the files with the store matter.
  generalize (prepared t).files = t at h
  have hjoin : join (Store.within limits).dir (ownName path) = "lib/" ++ ownName path := join_lib _
  refine .get_bind fun s hs => ?_
  rcases hentry : t.entry? path with _ | content | _
  · have hexists : t.pathExists path = false := by simp [FileTree.pathExists, hentry]
    simp only [installedIn, filled?, hentry]
    rw [hs, hexists]
    exact .bind_done (.printLine _) (ends_of_done (.pure ()))
  · have hexists : t.pathExists path = true := by simp [FileTree.pathExists, hentry]
    have hdir : t.pathIsDir path = false := by simp [FileTree.pathIsDir, hentry]
    rw [hs, hexists]
    refine .get_bind fun s hs => ?_
    rw [hs, hdir, hjoin]
    cases hscript : Text.endsWith path scriptExtension with
    | false =>
      simp only [installedIn, filled?, hentry, hscript]
      exact .bind_done (.printLine _) (ends_of_done (.pure ()))
    | true =>
      simp only [installedIn, filled?, hentry, hscript, if_true]
      refine (ends_addScript h hentry hscript).enter _ fun hdone => ?_
      exact h.of_get?_eq (h.ne_registerName (addedScript_done hdone)) fun l hl =>
        get?_addedScript_of_not_prefix hl
  · have hexists : t.pathExists path = true := by simp [FileTree.pathExists, hentry]
    have hdir : t.pathIsDir path = true := by simp [FileTree.pathIsDir, hentry]
    have hreach := (FileTree.reaches_of_pathIsDir hdir).1
    simp only [installedIn, filled?, hentry]
    rw [hs, hexists]
    refine .get_bind fun s hs => ?_
    rw [hs, hdir, hjoin]
    by_cases hroot : normalized path = []
    · -- The root has no name of its own, and the place of its package is the store.
      have hname : "lib/" ++ ownName path = "lib/" := by simp [ownName, hroot]
      have hemptied := ends_replaceTree_root limits h hroot hreach.null
      rw [← hname] at hemptied
      rw [if_pos hroot]
      exact hemptied.enter _ fun hdone => absurd hdone Bool.false_ne_true
    · have hreplaced := ends_replaceTree limits h (isName_ownName hreach hroot) hreach.null
      rw [if_neg hroot]
      refine hreplaced.enter _ fun hdone => ?_
      exact h.of_get?_eq (h.ne_registerName (replaced_done hdone)) fun l hl =>
        get?_replaced_of_not_prefix hl

variable (limits) in
theorem files_install (s : Session) (path : String) :
    (install (.within limits) path s).2.files = (installed limits s.files path).files :=
  (ends_install limits s.files path s rfl).2

variable (limits) in
theorem failed_iff (s : Session) (path : String) :
    (∃ f, (install (.within limits) path s).1 = .failed f) ↔ (installed limits s.files path).done = false := by
  have houtcome := (ends_install limits s.files path s rfl).1
  cases hdone : (installed limits s.files path).done with
  | true =>
    rw [hdone, if_pos rfl] at houtcome
    simp [houtcome]
  | false =>
    rw [hdone, if_neg Bool.false_ne_true] at houtcome
    simpa using houtcome

/-! ## What stays -/

/-- Where the package of a path is installed. -/
def destination (path : String) : Location :=
  if normalized path = [] then storePlace else place (ownName path)

theorem destination_of_ne (h : normalized path ≠ []) : destination path = place (ownName path) :=
  if_neg h

theorem destination_script (h : t.Reaches path (normalized path))
    (hscript : Text.endsWith path scriptExtension = true) : destination path = place (ownName path) := by
  refine destination_of_ne fun hroot => (ownName_script h hscript).2.isName.ne_empty ?_
  rw [ownName, hroot]
  rfl

theorem get?_entered_of_ne {name : String} {l : Location} (h : l ≠ place registerName) :
    (entered limits t name).files.get? l = t.get? l := by
  unfold entered
  split
  · exact FileTree.get?_put_of_ne _ h
  · rfl

/-- A package that cannot be entered leaves the files as they are. -/
theorem files_entered_of_failed {name : String} (h : (entered limits t name).done = false) :
    (entered limits t name).files = t := by
  unfold entered at h ⊢
  split at h
  · cases h
  · rfl

theorem get?_enter_of_ne {e : Effect} {name : String} {l : Location} (h : l ≠ place registerName) :
    (e.andThen (entered limits · name)).files.get? l = e.files.get? l := by
  unfold Effect.andThen
  split
  · exact get?_entered_of_ne h
  · rfl

theorem files_enter_of_failed {e : Effect} {name : String}
    (h : (e.andThen (entered limits · name)).done = false) : (e.andThen (entered limits · name)).files = e.files := by
  unfold Effect.andThen at h ⊢
  split
  · rename_i hdone
    rw [if_pos hdone] at h
    exact files_entered_of_failed h
  · rfl

theorem get?_emptied_of_not_prefix {l : Location} (h : ¬ storePlace <+: l) :
    (emptied t path).get? l = t.get? l := by
  have hne : l ≠ storePlace := fun heq => h (heq ▸ List.prefix_refl _)
  unfold emptied
  split
  · rw [FileTree.get?_put_of_ne _ hne, FileTree.get?_prune_of_not_prefix h]
  · exact FileTree.get?_prune_of_not_prefix h

/-- If a script cannot be put into the place of its package, the place was there before. -/
theorem files_addedScript_of_failed {content copy : Text.Bytes}
    (hclosed : t.get? (place (ownName path)) = none → ∀ k, t.get? (place (ownName path) ++ k) = none)
    (hsource : t.get? (normalized path) = some (.file content))
    (hfailed : (addedScript t path copy).done = false) : (addedScript t path copy).files = t := by
  unfold addedScript at hfailed ⊢
  split at hfailed
  · rename_i hfile
    rw [if_pos hfile]
  · rename_i hfile
    rw [if_neg hfile]
    unfold added at hfailed ⊢
    split at hfailed
    · rename_i hblocked
      rw [if_pos hblocked]
      by_contra hnew
      -- A place that was made holds nothing that could be in the way.
      have hnone : t.get? (place (ownName path)) = none := by
        rcases hplace : t.get? (place (ownName path)) with _ | c | _
        · rfl
        · simp [FileTree.isFile, hplace] at hfile
        · exact absurd (withPlace_of_dir hplace) hnew
      obtain ⟨k, hk, htarget⟩ := scriptTarget_eq (withPlace t (ownName path)) (ownName path)
      rw [htarget, Bool.or_eq_true] at hblocked
      rcases hblocked with hsame | hdir
      · rw [beq_iff_eq.mp hsame, hclosed hnone] at hsource
        cases hsource
      · rw [FileTree.isDir_iff, get?_withPlace_of_ne (by simpa using hk), hclosed hnone] at hdir
        cases hdir
    · cases hfailed

/-- Where a file is at the place of the package, nothing is done. -/
theorem files_installedIn_of_file (hstore : t.get? storePlace = some .dir)
    (hfile : t.isFile (destination path) = true) : (installedIn limits path t).files = t := by
  have hroot : normalized path ≠ [] := by
    intro hroot
    simp [destination, hroot, FileTree.isFile, hstore] at hfile
  rw [destination_of_ne hroot] at hfile
  unfold installedIn
  rcases hentry : t.entry? path with _ | content | _
  · simp [filled?, hentry]
  · cases hscript : Text.endsWith path scriptExtension with
    | false => simp [filled?, hentry, hscript]
    | true => simp [filled?, hentry, hscript, addedScript, hfile, Effect.andThen]
  · simp [filled?, hentry, hroot, replaced, hfile, Effect.andThen]

/-- The root is no script. -/
theorem filled_root (hroot : normalized path = []) {e : Effect} (hfilled : filled? limits t path = some e) :
    e = ⟨false, emptied t path⟩ := by
  rcases hentry : t.entry? path with _ | content | _
  · simp [filled?, hentry] at hfilled
  · cases hscript : Text.endsWith path scriptExtension with
    | false => simp [filled?, hentry, hscript] at hfilled
    | true =>
      have hname := (ownName_script (FileTree.reaches_of_entry? hentry).1 hscript).2
      simp [ownName, hroot] at hname
      exact absurd rfl hname.isName.ne_empty
  · simpa [filled?, hentry, hroot] using hfilled.symm

/-- Filling the place of a package changes nothing else. -/
theorem get?_filled_outside {e : Effect} {l : Location} (h : filled? limits t path = some e)
    (hl : ¬ destination path <+: l) : e.files.get? l = t.get? l := by
  rcases hentry : t.entry? path with _ | content | _
  · simp [filled?, hentry] at h
  · simp only [filled?, hentry] at h
    split at h
    · rename_i hscript
      cases h
      rw [destination_script (FileTree.reaches_of_entry? hentry).1 hscript] at hl
      exact get?_addedScript_of_not_prefix hl
    · cases h
  · simp only [filled?, hentry, Option.some.injEq] at h
    subst h
    split
    · rename_i hroot
      rw [destination, if_pos hroot] at hl
      exact get?_emptied_of_not_prefix hl
    · rename_i hroot
      rw [destination_of_ne hroot] at hl
      exact get?_replaced_of_not_prefix hl

/-- Installing into a store changes nothing but the place of the package and the register. -/
theorem get?_installedIn_outside {l : Location} (h : ¬ destination path <+: l)
    (hregister : l ≠ place registerName) : (installedIn limits path t).files.get? l = t.get? l := by
  unfold installedIn
  cases hfilled : filled? limits t path with
  | none => rfl
  | some e => exact (get?_enter_of_ne hregister).trans (get?_filled_outside hfilled h)

/-- Where installing into a store fails, the register stays too, unless it is at the place of the package. -/
theorem get?_installedIn_of_failed {l : Location} (hfailed : (installedIn limits path t).done = false)
    (h : ¬ destination path <+: l) : (installedIn limits path t).files.get? l = t.get? l := by
  unfold installedIn at hfailed ⊢
  cases hfilled : filled? limits t path with
  | none => rfl
  | some e =>
    rw [hfilled] at hfailed
    exact (congrArg (·.get? l) (files_enter_of_failed hfailed)).trans (get?_filled_outside hfilled h)

end Install

end LineScript.Package
