import LineScript.Package
import LineScript.Proofs.Files.Path
import LineScript.Proofs.Json.RoundTrip

/-!
# The register of the package store

What the store's runs do depends on the files alone. The register is read back as it was written, so a
register of given names becomes the one with a further name, or without one of them.
-/

namespace LineScript

open Files

/-! ## Runs that work on files -/

namespace Run

/-- From every session with the files `t`, the run ends with `o` and leaves the files `t'` behind. -/
def Takes (m : Run α) (t : FileTree) (o : Outcome α) (t' : FileTree) : Prop :=
  ∀ s : Session, s.files = t → (m s).1 = o ∧ (m s).2.files = t'

variable {t t' t'' : FileTree} {m : Run α} {k : α → Run β} {o : Outcome β} {a : α} {f : Fault}

namespace Takes

theorem pure (a : α) : (Pure.pure a : Run α).Takes t (.done a) t :=
  fun _ h => ⟨rfl, h⟩

theorem fail (f : Fault) : (Run.fail f : Run α).Takes t (.failed f) t :=
  fun _ h => ⟨rfl, h⟩

theorem bind (h : m.Takes t (.done a) t') (hk : (k a).Takes t' o t'') : (m >>= k).Takes t o t'' := by
  intro s hs
  obtain ⟨hdone, hfiles⟩ := h s hs
  change (Run.bind m k s).1 = o ∧ (Run.bind m k s).2.files = t''
  rcases hm : m s with ⟨o', s'⟩
  rw [hm] at hdone hfiles
  subst hdone
  simpa [Run.bind, hm] using hk s' hfiles

theorem bind_failed (h : m.Takes t (.failed f) t') : (m >>= k).Takes t (.failed f) t' := by
  intro s hs
  obtain ⟨hfailed, hfiles⟩ := h s hs
  change (Run.bind m k s).1 = _ ∧ (Run.bind m k s).2.files = t'
  rcases hm : m s with ⟨o', s'⟩
  rw [hm] at hfailed hfiles
  subst hfailed
  simpa [Run.bind, hm] using hfiles

theorem get_bind {k : Session → Run β} (h : ∀ s, s.files = t → (k s).Takes t o t') :
    (Run.get >>= k).Takes t o t' :=
  fun s hs => h s hs s hs

theorem modify {g : Session → Session} (h : ∀ s, s.files = t → (g s).files = t') :
    (Run.modify g).Takes t (.done ()) t' :=
  fun s hs => ⟨rfl, h s hs⟩

theorem ofResult_ok {r : Result α} (h : r = .ok a) : (Run.ofResult r).Takes t (.done a) t :=
  h ▸ pure a

theorem ofResult_error {r : Result α} (h : r = .error f) : (Run.ofResult r).Takes t (.failed f) t :=
  h ▸ fail f

theorem printLine (text : String) : (LineScript.printLine text).Takes t (.done ()) t := by
  refine modify fun s hs => ?_
  rw [Session.write_files, hs]

end Takes

end Run

namespace Package

/-! ## Places -/

/-- The location of the store's directory. -/
def storePlace : Location :=
  work ++ ["lib"]

/-- The location of an entry of the store's directory. -/
def place (name : String) : Location :=
  storePlace ++ [name]

/-- The name of the register in the store's directory. -/
def registerName : String := "packages.json"

theorem isName_registerName : IsName registerName :=
  ⟨by decide, by decide, by decide, by decide, by decide, by decide⟩

structure IsPackage (name : String) : Prop where
  isName : IsName name
  ne_register : name ≠ registerName

theorem isName_lib : IsName "lib" :=
  ⟨by decide, by decide, by decide, by decide, by decide, by decide⟩

theorem not_place_prefix_append {name name' : String} (h : name ≠ name') (k : Location) :
    ¬ place name <+: place name' ++ k := by
  simpa [place, storePlace, work] using h

theorem not_place_prefix_place {name name' : String} (h : name ≠ name') :
    ¬ place name <+: place name' := by
  simpa using not_place_prefix_append h []

theorem place_ne {name name' : String} (h : name ≠ name') : place name ≠ place name' := by
  simpa [place] using h

theorem lib_endsWith : "lib".endsWith '/' = false := by
  rw [String.endsWith_char_eq_getLast?]
  decide

theorem join_lib (name : String) : join "lib" name = "lib/" ++ name := by
  rw [join_eq (by decide) lib_endsWith]
  rfl

section Places

variable {t : FileTree} {name : String}

theorem reaches_store (h : t.get? work = some .dir) : t.Reaches "lib" storePlace :=
  FileTree.reaches_name isName_lib h

theorem length_lib_append (hname : IsName name) : ("lib" ++ "/" ++ name).utf8ByteSize < pathLimit := by
  have hshort := hname.short
  have hlib : ("lib" ++ "/" : String).utf8ByteSize = 4 := by decide
  rw [String.utf8ByteSize_append, hlib]
  unfold nameLimit at hshort
  unfold pathLimit
  omega

theorem reaches_place (hwork : t.get? work = some .dir) (hstore : t.get? storePlace = some .dir)
    (hname : IsName name) : t.Reaches ("lib/" ++ name) (place name) := by
  rw [← join_lib]
  exact (reaches_store hwork).join hstore lib_endsWith hname (length_lib_append hname)

theorem makeDirs_store (hwork : t.get? work = some .dir) (hnone : t.get? storePlace = none) :
    t.makeDirs false "lib" = (t.put storePlace .dir, .ok ()) :=
  (reaches_store hwork).makeDirs_eq (by decide) hnone (.inl (by decide)) false

theorem makeDirs_place (hwork : t.get? work = some .dir) (hstore : t.get? storePlace = some .dir)
    (hname : IsName name) (hnone : t.get? (place name) = none) :
    t.makeDirs false ("lib/" ++ name) = (t.put (place name) .dir, .ok ()) := by
  rw [← join_lib]
  exact (reaches_store hwork).makeDirs_join hstore lib_endsWith hname (length_lib_append hname) hnone false

end Places

/-! ## The register -/

def entryOf (name : String) : String × Json :=
  (name, record ("lib/" ++ name))

/-- The register of the packages with the given names. -/
def registerOf (names : List String) : Json :=
  .object (names.map entryOf)

def registerFile (names : List String) : Entry :=
  .file (Text.Utf8.encode (registerOf names).indentedText)

theorem keys_registerOf (names : List String) : (names.map entryOf).map (·.1) = names := by
  simp [entryOf, Function.comp_def]

theorem plain_registerOf {names : List String} (h : names.Nodup) : (registerOf names).Plain 2 := by
  refine .object (by rwa [keys_registerOf]) ?_
  intro e he
  obtain ⟨name, -, rfl⟩ := List.mem_map.mp he
  refine .object (by simp) ?_
  intro e he
  simp only [List.mem_cons, List.not_mem_nil, or_false] at he
  rcases he with rfl | rfl
  · exact .bool true
  · exact .str _

/-- The files hold a store whose register has the given names. -/
structure Registers (t : FileTree) (names : List String) : Prop where
  work : t.get? work = some .dir
  store : t.get? storePlace = some .dir
  register : t.get? (place registerName) = some (registerFile names)
  nodup : names.Nodup
  packages : ∀ n ∈ names, IsPackage n

section Register

variable {limits : Limits} {t : FileTree} {names : List String} {name : String}

theorem Registers.reaches (h : Registers t names) (hname : IsName name) :
    t.Reaches ("lib/" ++ name) (place name) :=
  reaches_place h.work h.store hname

theorem Registers.reaches_register (h : Registers t names) :
    t.Reaches (Store.within limits).register (place registerName) :=
  h.reaches isName_registerName

/-- The text of a register is read back from its file. -/
theorem Registers.readText (h : Registers t names) :
    t.readText "lib/packages.json" = .ok (registerOf names).indentedText := by
  have hread : t.read "lib/packages.json" = .ok (Text.Utf8.encode (registerOf names).indentedText) :=
    FileTree.read_eq_ok_iff.mpr ((h.reaches isName_registerName).entry?_eq.trans h.register)
  have hreturn : '\r' ∉ (registerOf names).indentedText.toList := fun hmem =>
    absurd ((plain_registerOf h.nodup).written.mem_render (Json.Layout.spaced_lines 2).within 0 _ hmem) (by decide)
  simp only [FileTree.readText, hread, Text.Utf8.encode, Text.Utf8.decode_flatMap_encodeChar,
    Text.unifyNewlines_eq_self hreturn, String.ofList_toList, bind, Except.bind]
  rfl

theorem Registers.parseWithin_readText (limits : Limits) (h : Registers t names) :
    (t.readText "lib/packages.json" >>= Json.parseWithin limits.levels) = .ok (registerOf names) := by
  rw [h.readText]
  exact Json.parseWithin_render (Json.Layout.spaced_lines 2)
    ((plain_registerOf h.nodup).mono limits.two_le_levels)

/-- The register is read back as it was written. -/
theorem Registers.load (h : Registers t names) :
    (Store.within limits).load.Takes t (.done (registerOf names)) t := by
  refine .get_bind fun s hs => ?_
  rw [hs]
  exact .bind (.ofResult_ok h.readText)
    (.ofResult_ok (Json.parseWithin_render (Json.Layout.spaced_lines 2)
      ((plain_registerOf h.nodup).mono limits.two_le_levels)))

theorem takes_writeContent {path content : String} {l : Location} (h : t.Reaches path l)
    (hfile : t.isDir l = false) (hlast : baseName path ≠ "") :
    (writeContent path content).Takes t (.done ()) (t.put l (.file (Text.Utf8.encode content))) := by
  refine .get_bind fun s hs => ?_
  rw [hs]
  exact .bind (.ofResult_ok (h.write_eq hfile hlast _)) (.modify fun _ _ => rfl)

/-- A register is written over the one that is there. -/
theorem Registers.save (h : Registers t names) (names' : List String) :
    ((Store.within limits).save (registerOf names')).Takes t (.done ())
      (t.put (place registerName) (registerFile names')) := by
  have hfile : t.isFile (place registerName) = true := by simp [FileTree.isFile, h.register, registerFile]
  have hdir : t.isDir (place registerName) = false := by simp [FileTree.isDir, h.register, registerFile]
  refine .get_bind fun s hs => ?_
  rw [hs, h.reaches_register.pathIsFile_eq, hfile]
  exact takes_writeContent h.reaches_register hdir (show baseName "lib/packages.json" ≠ "" by decide)

/-! ## Entering and withdrawing -/

theorem lookup_entryOf (names : List String) (name : String) :
    (names.map entryOf).lookup name = if name ∈ names then some (record ("lib/" ++ name)) else none := by
  induction names with
  | nil => simp
  | cons n names ih =>
    by_cases hn : name = n
    · subst hn
      simp [entryOf]
    · have hne : (name == n) = false := by simpa using hn
      simpa [entryOf, List.lookup_cons, hne, hn] using ih

/-- The names with one more, which keeps its place if it is among them. -/
def enrolled (names : List String) (name : String) : List String :=
  if name ∈ names then names else names ++ [name]

theorem mem_enrolled {n : String} : n ∈ enrolled names name ↔ n ∈ names ∨ n = name := by
  unfold enrolled
  split
  · rename_i h
    exact ⟨.inl, fun hn => hn.elim id fun heq => heq ▸ h⟩
  · simp

theorem nodup_enrolled (h : names.Nodup) : (enrolled names name).Nodup := by
  unfold enrolled
  split
  · exact h
  · rename_i hnew
    refine List.nodup_append.mpr ⟨h, by simp, ?_⟩
    rintro a ha b hb rfl
    exact hnew (List.mem_singleton.mp hb ▸ ha)

/-- Setting the entry of a name that has it changes nothing. -/
theorem setEntry_entryOf (h : name ∈ names) :
    Json.setEntry (names.map entryOf) name (record ("lib/" ++ name)) = names.map entryOf := by
  induction names with
  | nil => cases h
  | cons n names ih =>
    by_cases hn : n = name
    · subst hn
      simp [Json.setEntry, entryOf]
    · have hrest : name ∈ names := (List.mem_cons.mp h).resolve_left fun heq => hn heq.symm
      have hne : (n == name) = false := by simpa using hn
      simp only [List.map_cons, entryOf, Json.setEntry, hne] at ih ⊢
      simp [ih hrest]

theorem enter_registerOf (names : List String) (name : String) :
    enter (registerOf names) name ("lib/" ++ name) = .ok (registerOf (enrolled names name)) := by
  unfold enrolled
  split
  · simp [enter, registerOf, setEntry_entryOf ‹_›]
  · have hnew : name ∉ (names.map entryOf).map (·.1) := by rwa [keys_registerOf]
    simp [enter, registerOf, Json.setEntry_of_not_mem hnew, entryOf]

/-- Entering a package writes the register that has its name. -/
theorem Registers.enroll (h : Registers t names) (name : String) :
    ((Store.within limits).enroll name ("lib/" ++ name)).Takes t (.done ())
      (t.put (place registerName) (registerFile (enrolled names name))) :=
  .bind h.load (.bind (.ofResult_ok (enter_registerOf names name)) (h.save _))

theorem isNamed_registerOf (names : List String) (name : String) :
    isNamed (registerOf names) name = .ok (decide (name ∈ names)) := by
  by_cases h : name ∈ names <;> simp [isNamed, registerOf, lookup_entryOf, h]

theorem index_registerOf (h : name ∈ names) :
    index (registerOf names) name = .ok (record ("lib/" ++ name)) := by
  simp [index, registerOf, lookup_entryOf, h]

theorem withdraw_registerOf (names : List String) (name : String) :
    withdraw (registerOf names) name = registerOf (names.filter (· != name)) := by
  simp [withdraw, registerOf, List.filter_map, Function.comp_def, entryOf]

end Register

end Package

end LineScript
