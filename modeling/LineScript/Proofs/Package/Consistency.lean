import LineScript.Proofs.Package.Install

/-!
# The store and its register agree

After any calls of the store, whether they succeed or not, the store holds directories and a register
of packages. The register names the directories as long as every directory could be copied in full.
-/

namespace LineScript.Package

open Files

/-! ## Calls -/

inductive Action where
  | install (path : String)
  | uninstall (name : String)

namespace Action

def run (limits : Limits) : Action → Run Unit
  | install path => Package.install (.within limits) path
  | uninstall name => Package.uninstall (.within limits) name

def name : Action → String
  | install path => ownName path
  | uninstall name => name

/-- Only sources that are apart from the store are installed. -/
def Apart : Action → Prop
  | install path => Package.Apart path
  | uninstall _ => True

/-- A directory that is installed can be copied in full: removing the old version does not cut off the
way to it, nothing in it is nested too deeply, and no path is too long, in the source or in the copy. -/
def Unhindered (limits : Limits) (t : FileTree) : Action → Prop
  | install path => t.get? (normalized path) = some .dir →
      (t.get? (place (ownName path)) = some .dir → ¬ LeadsInto path (place (ownName path))) ∧
      ∀ k, t.get? (normalized path ++ k) ≠ none →
        copies limits.folders path ("lib/" ++ ownName path) k = true
  | uninstall _ => True

end Action

/-- Calls one after the other, whether they succeed or not. -/
def after (limits : Limits) (actions : List Action) (s : Session) : Session :=
  actions.foldl (fun s a => (a.run limits s).2) s

/-- Every call is unhindered in the session that it is made in. -/
def AllUnhindered (limits : Limits) : List Action → Session → Prop
  | [], _ => True
  | a :: actions, s => a.Unhindered limits s.files ∧ AllUnhindered limits actions (a.run limits s).2

/-! ## Deciding the conditions -/

/-- What holds of all that is at or below a location is decided by the entries. -/
theorem forall_below_iff {t : FileTree} {l : Location} {p : Location → Prop} :
    (∀ k, t.get? (l ++ k) ≠ none → p k) ↔ ∀ e ∈ t.entries, l <+: e.1 → p (e.1.drop l.length) := by
  constructor
  · rintro h ⟨_, e⟩ hmem ⟨k, rfl⟩
    rw [List.drop_left]
    exact h k fun hnone => FileTree.get?_eq_none_iff.mp hnone e hmem
  · intro h k hk
    obtain ⟨e, he⟩ : ∃ e, (l ++ k, e) ∈ t.entries := by
      refine Classical.byContradiction fun hnot => hk (FileTree.get?_eq_none_iff.mpr fun e he => ?_)
      exact hnot ⟨e, he⟩
    simpa using h _ he (List.prefix_append _ _)

theorem leadsInto_iff {path : String} {l : Location} :
    LeadsInto path l ↔
      ∃ i, i < (segments path).length + 1 ∧ l <+: follow (start path) ((segments path).take i) := by
  constructor
  · rintro ⟨front, hfront, h⟩
    refine ⟨front.length, Nat.lt_succ_of_le hfront.length_le, ?_⟩
    rwa [← List.prefix_iff_eq_take.mp hfront]
  · rintro ⟨i, -, h⟩
    exact ⟨_, List.take_prefix _ _, h⟩

theorem bare_iff {t : FileTree} :
    Bare t ↔ (t.entries.map (·.1)).Nodup ∧ t.get? work = some .dir ∧
      ∀ e ∈ t.entries, ¬ storePlace <+: e.1 := by
  constructor
  · intro h
    exact ⟨h.distinct, h.work, fun e he hk => FileTree.get?_eq_none_iff.mp (h.empty _ hk) e.2 he⟩
  · rintro ⟨hdistinct, hwork, hempty⟩
    exact ⟨hdistinct, hwork, fun k hk => FileTree.get?_eq_none_iff.mpr fun e he => hempty _ he hk⟩

instance (path : String) (l : Location) : Decidable (LeadsInto path l) :=
  decidable_of_iff _ leadsInto_iff.symm

instance (t : FileTree) : Decidable (Bare t) :=
  decidable_of_iff _ bare_iff.symm

instance (path : String) : Decidable (Apart path) :=
  decidable_of_iff (¬ storePlace <+: normalized path ∧ ¬ normalized path <+: storePlace)
    ⟨fun h => ⟨h.1, h.2⟩, fun h => ⟨h.outside, h.beside⟩⟩

instance : DecidablePred Action.Apart
  | .install path => inferInstanceAs (Decidable (Package.Apart path))
  | .uninstall _ => .isTrue trivial

instance (limits : Limits) (t : FileTree) : DecidablePred (Action.Unhindered limits t)
  | .install path =>
    have : Decidable (∀ k, t.get? (normalized path ++ k) ≠ none →
        copies limits.folders path ("lib/" ++ ownName path) k = true) :=
      decidable_of_iff _ forall_below_iff.symm
    inferInstanceAs (Decidable (_ → _ ∧ _))
  | .uninstall _ => .isTrue trivial

instance decideAllUnhindered (limits : Limits) : (actions : List Action) → (s : Session) →
    Decidable (AllUnhindered limits actions s)
  | [], _ => .isTrue trivial
  | a :: actions, s =>
    have := decideAllUnhindered limits actions (a.run limits s).2
    inferInstanceAs (Decidable (_ ∧ _))

/-! ## One call -/

inductive Changes (limits : Limits) (t : FileTree) (names : List String) :
    Action → Outcome Unit → FileTree → List String → Prop where
  | install {path : String} {o : Outcome Unit} {t' : FileTree} {names' : List String}
      (hapart : Apart path) (h : Installs limits.folders t names path o t' names') :
      Changes limits t names (.install path) o t' names'
  | uninstall {name : String} {t' : FileTree} {names' : List String}
      (h : Uninstalls t names name t' names') : Changes limits t names (.uninstall name) (.done ()) t' names'

/-- The directories of the store are the packages of the given names. -/
def Full (t : FileTree) (names : List String) : Prop :=
  ∀ n, n ∈ names ↔ t.get? (place n) = some .dir

section Step

variable {limits : Limits} {t t' : FileTree} {names names' : List String} {name path : String} {a : Action}
  {o : Outcome Unit}

theorem isPackage_of_mem_enrolled (h : ∀ n ∈ names, IsPackage n) (hname : IsPackage name) :
    ∀ n ∈ enrolled names name, IsPackage n := by
  intro n hn
  rcases mem_enrolled.mp hn with hn | rfl
  · exact h n hn
  · exact hname

/-- A store stays one through every call. -/
theorem Changes.holds (h : Changes limits t names a o t' names') (ht : Holds t names) : Holds t' names' := by
  cases h with
  | install hapart h =>
    cases h with
    | refused hdir => exact ht
    | failed h => exact h.holds ht hapart
    | entered h =>
      exact (h.holds ht hapart).put_register (nodup_enrolled ht.nodup)
        (isPackage_of_mem_enrolled ht.packages (h.refilled_of_done ht.distinct).1.isPackage)
  | uninstall h =>
    cases h with
    | absent h => exact ht
    | removed h =>
      have hname := ht.packages _ h
      exact ((refilled_prune hname ht.distinct).holds ht).put_register (ht.nodup.filter _)
        fun n hn => ht.packages n (List.mem_filter.mp hn).1

/-- A call changes nothing but the place of its package and the register. -/
theorem Changes.get?_eq (h : Changes limits t names a o t' names') (ht : Holds t names) {k : Location}
    (hk : ¬ place a.name <+: k) (hregister : k ≠ place registerName) : t'.get? k = t.get? k := by
  cases h with
  | install hapart h =>
    cases h with
    | refused hdir => rfl
    | failed h =>
      rcases h.refilled ht hapart with rfl | hrefilled
      · rfl
      · exact hrefilled.beside k hk
    | entered h =>
      rw [FileTree.get?_put_of_ne _ hregister]
      exact (h.refilled_of_done ht.distinct).1.beside k hk
  | uninstall h =>
    cases h with
    | absent h => rfl
    | removed h =>
      rw [FileTree.get?_put_of_ne _ hregister]
      exact FileTree.get?_prune_of_not_prefix hk

theorem Full.put_register (h : Full t names) (hpackages : ∀ n ∈ names, IsPackage n) :
    Full (t.put (place registerName) (registerFile names')) names := by
  intro n
  by_cases hn : n = registerName
  · subst hn
    have hout : registerName ∉ names := fun hmem => (hpackages _ hmem).ne_register rfl
    simp [hout, FileTree.get?_put, registerFile]
  · rw [FileTree.get?_put_of_ne _ (place_ne hn)]
    exact h n

theorem Full.enroll (h : Full t names) (hrefilled : Refilled t t' name)
    (hdir : t'.get? (place name) = some .dir) : Full t' (enrolled names name) := by
  intro n
  rw [mem_enrolled]
  by_cases hn : n = name
  · subst hn
    simp [hdir]
  · have hbeside := hrefilled.beside (place n) (not_place_prefix_place (Ne.symm hn))
    rw [hbeside, ← h n]
    simp [hn]

theorem Full.remove (h : Full t names) (name : String) :
    Full (t.prune (place name)) (names.filter (· != name)) := by
  intro n
  rw [List.mem_filter, FileTree.get?_prune]
  by_cases hn : n = name
  · subst hn
    simp
  · rw [if_neg (not_place_prefix_place (Ne.symm hn)), ← h n]
    simp [hn]

/-- An unhindered call keeps the register and the directories in step. -/
theorem Changes.full (h : Changes limits t names a o t' names') (ht : Holds t names) (hfull : Full t names)
    (hfree : a.Unhindered limits t) : Full t' names' := by
  cases h with
  | @install path o t' names' hapart h =>
    have hsource : t.pathIsDir path = true → t.get? (normalized path) = some .dir := fun hdir =>
      (FileTree.reaches_of_pathIsDir hdir).2
    cases h with
    | refused hdir => exact hfull
    | failed h =>
      cases h with
      | blocked f => exact hfull
      | lost f hdir hplace h => exact absurd h ((hfree (hsource hdir)).1 hplace)
      | cut f hdir hname h =>
        obtain ⟨k, hk, hcopies⟩ := h
        simp [(hfree (hsource hdir)).2 k hk] at hcopies
    | entered h =>
      obtain ⟨hrefilled, hdir⟩ := h.refilled_of_done ht.distinct
      exact (hfull.enroll hrefilled hdir).put_register
        (isPackage_of_mem_enrolled ht.packages hrefilled.isPackage)
  | uninstall h =>
    cases h with
    | absent h => exact hfull
    | removed h =>
      exact (hfull.remove _).put_register fun n hn => ht.packages n (List.mem_filter.mp hn).1

end Step

/-! ## Any number of calls -/

def withStore (t : FileTree) : FileTree :=
  if t.isDir storePlace then t else opened t

/-- There is no store yet, or one with packages of the given names. -/
def Stored (t : FileTree) (names : List String) : Prop :=
  Bare t ∧ names = [] ∨ Holds t names

section Run

variable {limits : Limits} {t : FileTree} {names : List String}

theorem Bare.withStore_eq (h : Bare t) : withStore t = opened t := by
  simp [withStore, FileTree.isDir, h.empty storePlace (List.prefix_refl _)]

theorem Holds.withStore_eq (h : Holds t names) : withStore t = t := by
  simp [withStore, FileTree.isDir, h.store]

theorem Stored.prepare (h : Stored t names) :
    (Store.within limits).prepare.Takes t (.done ()) (withStore t) := by
  rcases h with ⟨hbare, rfl⟩ | hholds
  · rw [hbare.withStore_eq]
    exact hbare.prepare
  · rw [hholds.withStore_eq]
    exact hholds.toRegisters.prepare

theorem Stored.holds (h : Stored t names) : Holds (withStore t) names := by
  rcases h with ⟨hbare, rfl⟩ | hholds
  · rw [hbare.withStore_eq]
    exact hbare.holds_opened
  · rwa [hholds.withStore_eq]

theorem Stored.get?_withStore (h : Stored t names) {k : Location} (hstore : k ≠ storePlace)
    (hregister : k ≠ place registerName) : (withStore t).get? k = t.get? k := by
  rcases h with ⟨hbare, -⟩ | hholds
  · rw [hbare.withStore_eq]
    exact get?_opened_of_ne hstore hregister
  · rw [hholds.withStore_eq]

variable (limits) in
/-- Where a call is made, it changes the store that is there or is made for it. -/
theorem Stored.changes {s : Session} (h : Stored s.files names) {a : Action} (ha : a.Apart) :
    ∃ names', Changes limits (withStore s.files) names a (a.run limits s).1 (a.run limits s).2.files names' := by
  cases a with
  | install path =>
    obtain ⟨o, t', names', htakes, hinstalls⟩ := installs_install limits h.prepare h.holds ha
    obtain ⟨ho, ht'⟩ := htakes s rfl
    exact ⟨names', .install ha (by rw [← ho, ← ht'] at hinstalls; exact hinstalls)⟩
  | uninstall name =>
    obtain ⟨t', names', htakes, huninstalls⟩ := uninstalls_uninstall limits h.prepare h.holds name
    obtain ⟨ho, ht'⟩ := htakes s rfl
    refine ⟨names', ?_⟩
    change Changes _ _ _ _ (uninstall (.within limits) name s).1 (uninstall (.within limits) name s).2.files _
    rw [ho, ht']
    exact .uninstall huninstalls

theorem Stored.full_withStore (h : Stored t names) (hfull : Full t names) : Full (withStore t) names := by
  intro n
  by_cases hn : n = registerName
  · subst hn
    have hholds := h.holds
    have hout : registerName ∉ names := fun hmem => (hholds.packages _ hmem).ne_register rfl
    simp [hout, hholds.register, registerFile]
  · rw [h.get?_withStore (by simp [place]) (place_ne hn)]
    exact hfull n

/-- Making a store changes no source. -/
theorem Stored.get?_source (h : Stored t names) {path : String} (hapart : Apart path) (k : Location) :
    (withStore t).get? (normalized path ++ k) = t.get? (normalized path ++ k) := by
  have hne : ∀ l, storePlace <+: l → normalized path ++ k ≠ l := by
    rintro l hl rfl
    exact hapart.not_prefix hl (List.prefix_refl _)
  exact h.get?_withStore (hne _ (List.prefix_refl _)) (hne _ (storePlace_prefix_place _))

theorem Action.Unhindered.withStore (h : Stored t names) {a : Action} (ha : a.Apart)
    (hfree : a.Unhindered limits t) : a.Unhindered limits (withStore t) := by
  cases a with
  | uninstall name => trivial
  | install path =>
    intro hsource
    have hget := h.get?_source ha
    have hroot := hget []
    rw [List.append_nil] at hroot
    obtain ⟨hplace, hfits⟩ := hfree (hroot ▸ hsource)
    refine ⟨fun hdir => hplace ?_, fun k hk => hfits k (hget k ▸ hk)⟩
    have hname := h.holds.ne_registerName (.inr hdir)
    rwa [h.get?_withStore (by simp [place]) (place_ne hname)] at hdir

/-- A call leaves a store behind, and an unhindered one keeps register and directories in step. The
condition is a proposition of its own, so that one induction serves both statements. -/
theorem Stored.holds_run {P : Prop} {s : Session} {a : Action} (h : Stored s.files names)
    (hfull : P → Full s.files names) (ha : a.Apart) (hfree : P → a.Unhindered limits s.files) :
    ∃ names', Holds (a.run limits s).2.files names' ∧ (P → Full (a.run limits s).2.files names') := by
  obtain ⟨names', hchanges⟩ := h.changes limits ha
  refine ⟨names', hchanges.holds h.holds, fun hP => ?_⟩
  exact hchanges.full h.holds (h.full_withStore (hfull hP)) ((hfree hP).withStore h ha)

variable (limits) in
theorem Stored.holds_after {P : Prop} {s : Session} {a : Action} {actions : List Action}
    (h : Stored s.files names) (hfull : P → Full s.files names)
    (hactions : ∀ b ∈ a :: actions, b.Apart) (hfree : P → AllUnhindered limits (a :: actions) s) :
    ∃ names', Holds (after limits (a :: actions) s).files names' ∧
      (P → Full (after limits (a :: actions) s).files names') := by
  induction actions generalizing s a names with
  | nil => exact h.holds_run hfull (hactions a (.head _)) fun hP => (hfree hP).1
  | cons b actions ih =>
    obtain ⟨names', hholds, hfull'⟩ :=
      h.holds_run hfull (hactions a (.head _)) fun hP => (hfree hP).1
    exact ih (.inr hholds) hfull' (fun c hc => hactions c (.tail _ hc)) fun hP => (hfree hP).2

theorem Bare.full (h : Bare t) : Full t [] := by
  intro n
  simp [h.empty (place n) (storePlace_prefix_place n)]

/-- The register of a store is read as an object with one entry for each package. -/
theorem Registers.parse_readText (h : Registers t names) :
    (t.readText "lib/packages.json" >>= Json.parse) = .ok (registerOf names) := by
  rw [h.readText]
  exact Json.parse_render (Json.Layout.spaced_lines 2) (plain_registerOf h.nodup)

/-- What is at the place of another package is not changed. -/
theorem Stored.get?_place_run {s : Session} {a : Action} (h : Stored s.files names) (ha : a.Apart)
    {n : String} (hn : n ≠ a.name) (hregister : n ≠ registerName) (k : Location) :
    (a.run limits s).2.files.get? (place n ++ k) = s.files.get? (place n ++ k) := by
  obtain ⟨names', hchanges⟩ := h.changes limits ha
  have hne := place_append_ne hregister k
  rw [hchanges.get?_eq h.holds (not_place_prefix_append (Ne.symm hn) k) hne,
    h.get?_withStore (place_append_ne_storePlace n k) hne]

/-- An installed directory is a copy of its source. -/
theorem Stored.get?_copy {s : Session} {path : String} (h : Stored s.files names) (hapart : Apart path)
    (hdir : (withStore s.files).pathIsDir path = true)
    (hdone : (install (.within limits) path s).1 = .done ()) (k : Location) :
    (install (.within limits) path s).2.files.get? (place (ownName path) ++ k) =
      s.files.get? (normalized path ++ k) := by
  have hholds := h.holds
  obtain ⟨o, t', names', htakes, hinstalls⟩ := installs_install limits h.prepare hholds hapart
  obtain ⟨ho, ht'⟩ := htakes s rfl
  rw [hdone] at ho
  subst ho
  rw [ht', ← h.get?_source hapart]
  cases hinstalls with
  | refused hfile => rw [hdir] at hfile; cases hfile
  | entered hfills =>
    have hname := (hfills.refilled_of_done hholds.distinct).1.isPackage
    rw [FileTree.get?_put_of_ne _ (place_append_ne hname.ne_register k)]
    exact hfills.get?_copy hdir hholds hapart k

end Run

/-- Starting in a working directory without a store, any calls on sources apart from it leave a store
of directories and a register of packages, each with its entry. As long as no directory was kept from
being copied in full, the register has the names of the directories. A directory that was installed is
a copy of its source, and no call changes the place of another package. -/
theorem register_lists_directories (limits : Limits) (s : Session) (hs : Bare s.files) (actions : List Action)
    (hactions : ∀ a ∈ actions, a.Apart) :
    (actions = [] ∨ (after limits actions s).files.get? storePlace = some .dir ∧
      (∀ n, n ≠ registerName → (after limits actions s).files.get? (place n) = none ∨
        (after limits actions s).files.get? (place n) = some .dir) ∧
      ∃ entries, ((after limits actions s).files.readText "lib/packages.json" >>= Json.parse) =
          .ok (.object entries) ∧
        (entries.map (·.1)).Nodup ∧
        (∀ e ∈ entries, e.2 = .object [("installed", .bool true), ("path", .str ("lib/" ++ e.1))]) ∧
        (AllUnhindered limits actions s → ∀ n, n ∈ entries.map (·.1) ↔
          (after limits actions s).files.get? (place n) = some .dir)) ∧
    (∀ path, Apart path → (withStore (after limits actions s).files).pathIsDir path = true →
      (install (.within limits) path (after limits actions s)).1 = .done () →
      ∀ k, (install (.within limits) path (after limits actions s)).2.files.get? (place (ownName path) ++ k) =
        (after limits actions s).files.get? (normalized path ++ k)) ∧
    ∀ a : Action, a.Apart → ∀ n, n ≠ a.name → n ≠ registerName → ∀ k,
      (a.run limits (after limits actions s)).2.files.get? (place n ++ k) =
        (after limits actions s).files.get? (place n ++ k) := by
  have hstart : Stored s.files [] := .inl ⟨hs, rfl⟩
  cases actions with
  | nil =>
    exact ⟨.inl rfl, fun path hapart hdir hdone => hstart.get?_copy hapart hdir hdone,
      fun a ha n hn hregister => hstart.get?_place_run ha hn hregister⟩
  | cons a actions =>
    obtain ⟨names, hholds, hfull⟩ := hstart.holds_after limits (fun _ => hs.full) hactions id
    have hstored : Stored (after limits (a :: actions) s).files names := .inr hholds
    refine ⟨.inr ⟨hholds.store, hholds.entries, names.map entryOf, hholds.parse_readText, ?_, ?_, ?_⟩,
      fun path hapart hdir hdone => hstored.get?_copy hapart hdir hdone,
      fun a ha n hn hregister => hstored.get?_place_run ha hn hregister⟩
    · rw [keys_registerOf]
      exact hholds.nodup
    · intro e he
      obtain ⟨name, -, rfl⟩ := List.mem_map.mp he
      rfl
    · intro hfree n
      rw [keys_registerOf]
      exact hfull hfree n

/-- A working directory with one package in it. -/
def workshop : Session :=
  { Session.fresh with
    files := ⟨[(["work", "pkg", "a.stryke"], .file [120]), (["work", "pkg"], .dir), (["work"], .dir),
      ([], .dir)]⟩ }

/-- Installing a package twice and asking for one that is not there. -/
def reinstalling : List Action :=
  [.install "pkg", .install "./pkg/", .uninstall "other"]

theorem register_lists_reinstalled :
    Bare workshop.files ∧ (∀ a ∈ reinstalling, a.Apart) ∧ AllUnhindered .usual reinstalling workshop ∧
      ∃ entries, ((after .usual reinstalling workshop).files.readText "lib/packages.json" >>= Json.parse) =
          .ok (.object entries) ∧
        ∀ n, n ∈ entries.map (·.1) ↔
          (after .usual reinstalling workshop).files.get? (place n) = some .dir := by
  have hbare : Bare workshop.files := by decide +kernel
  have hapart : ∀ a ∈ reinstalling, a.Apart := by decide +kernel
  have hfree : AllUnhindered .usual reinstalling workshop := by decide +kernel
  obtain ⟨hempty | ⟨-, -, entries, hparse, -, -, hkeys⟩, -⟩ :=
    register_lists_directories .usual workshop hbare reinstalling hapart
  · cases hempty
  · exact ⟨hbare, hapart, hfree, entries, hparse, hkeys hfree⟩

/-- Installing a package again by a way through its own place. -/
def throughItself : List Action :=
  [.install "pkg", .install "lib/pkg/../../pkg"]

theorem register_lists_missing_directory :
    Bare workshop.files ∧ (∀ a ∈ throughItself, a.Apart) ∧
      ∃ entries, ((after .usual throughItself workshop).files.readText "lib/packages.json" >>= Json.parse) =
          .ok (.object entries) ∧
        "pkg" ∈ entries.map (·.1) ∧ (after .usual throughItself workshop).files.get? (place "pkg") = none := by
  have hpkg : IsPackage "pkg" :=
    ⟨⟨by decide, by decide, by decide, by decide, by decide, by decide⟩, by decide⟩
  have hregisters : Registers (after .usual throughItself workshop).files ["pkg"] :=
    ⟨by decide +kernel, by decide +kernel, by decide +kernel, by decide, by simpa using hpkg⟩
  exact ⟨by decide +kernel, by decide +kernel, _, hregisters.parse_readText,
    by decide, by decide +kernel⟩

end LineScript.Package
