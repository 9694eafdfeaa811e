import LineScript.Proofs.Files.Tree

/-!
# Where paths lead

A path that can be followed in a tree leads to its normalized location, and all names of that location
are names that an entry can have. Which tree is asked matters only at the directories on the way.
-/

namespace LineScript.Files

/-! ## Names -/

/-- A name that an entry can have: it names no directory by dots, and it is one name and not too long. -/
structure IsName (name : String) : Prop where
  ne_empty : name ≠ ""
  ne_dot : name ≠ "."
  ne_dots : name ≠ ".."
  slash : '/' ∉ name.toList
  null : '\x00' ∉ name.toList
  short : name.utf8ByteSize ≤ nameLimit

instance (name : String) : Decidable (IsName name) :=
  decidable_of_iff (name ≠ "" ∧ name ≠ "." ∧ name ≠ ".." ∧ '/' ∉ name.toList ∧ '\x00' ∉ name.toList ∧
      name.utf8ByteSize ≤ nameLimit)
    ⟨fun ⟨hempty, hdot, hdots, hslash, hnull, hshort⟩ => ⟨hempty, hdot, hdots, hslash, hnull, hshort⟩,
      fun h => ⟨h.ne_empty, h.ne_dot, h.ne_dots, h.slash, h.null, h.short⟩⟩

theorem mem_of_mem_splitOn {cs part : List Char} {c x : Char} (hpart : part ∈ cs.splitOn x)
    (hc : c ∈ part) : c ∈ cs ∧ c ≠ x := by
  induction cs generalizing part with
  | nil =>
    obtain rfl : part = [] := by simpa using hpart
    cases hc
  | cons d cs ih =>
    rw [List.splitOn_cons_eq_if_modifyHead] at hpart
    split at hpart
    · rcases List.mem_cons.mp hpart with rfl | hpart
      · cases hc
      · exact ⟨.tail _ (ih hpart hc).1, (ih hpart hc).2⟩
    · rename_i hd
      obtain ⟨first, parts, hsplit⟩ := List.exists_cons_of_ne_nil (List.splitOn_ne_nil x cs)
      rw [hsplit, List.modifyHead_cons] at hpart
      rcases List.mem_cons.mp hpart with rfl | hpart
      · rcases List.mem_cons.mp hc with rfl | hc
        · exact ⟨.head _, by simpa using hd⟩
        · have := ih (hsplit ▸ .head _) hc
          exact ⟨.tail _ this.1, this.2⟩
      · have := ih (hsplit ▸ .tail _ hpart) hc
        exact ⟨.tail _ this.1, this.2⟩

theorem slash_not_mem_of_mem_segments {path name : String} (h : name ∈ segments path) :
    '/' ∉ name.toList := by
  obtain ⟨part, hpart, rfl⟩ := List.mem_map.mp h
  intro hmem
  rw [String.toList_ofList] at hmem
  exact (mem_of_mem_splitOn hpart hmem).2 rfl

theorem null_not_mem_of_mem_segments {path name : String} (hpath : '\x00' ∉ path.toList)
    (h : name ∈ segments path) : '\x00' ∉ name.toList := by
  obtain ⟨part, hpart, rfl⟩ := List.mem_map.mp h
  intro hmem
  rw [String.toList_ofList] at hmem
  exact hpath (mem_of_mem_splitOn hpart hmem).1

/-! ## Following names -/

/-- Where one name leads from a location; the tree is not asked. -/
def step (l : Location) (name : String) : Location :=
  if name == "" || name == "." then l else if name == ".." then l.dropLast else l ++ [name]

/-- Where names lead from a location; the tree is not asked. -/
def follow (l : Location) (names : List String) : Location :=
  names.foldl step l

theorem normalized_eq (path : String) : normalized path = follow (start path) (segments path) := rfl

@[simp]
theorem follow_nil (l : Location) : follow l [] = l := rfl

@[simp]
theorem follow_cons (l : Location) (name : String) (names : List String) :
    follow l (name :: names) = follow (step l name) names := rfl

theorem follow_append (l : Location) (names names' : List String) :
    follow l (names ++ names') = follow (follow l names) names' :=
  List.foldl_append

theorem IsName.step_eq {name : String} (h : IsName name) (l : Location) : step l name = l ++ [name] := by
  simp [step, h.ne_empty, h.ne_dot, h.ne_dots]

/-! ## A name behind a path -/

theorem join_eq {path name : String} (hne : path ≠ "") (hslash : path.endsWith '/' = false) :
    join path name = path ++ "/" ++ name := by
  have hempty : path.isEmpty = false := String.isEmpty_eq_false_iff.mpr hne
  simp [join, hempty, hslash]

/-- What a path begins with decides where it begins. -/
theorem start_append_slash {path name : String} (hne : path ≠ "") :
    start (path ++ "/" ++ name) = start path := by
  obtain ⟨c, cs, hpath⟩ := List.exists_cons_of_ne_nil (mt String.toList_eq_nil_iff.mp hne)
  simp [start, hpath]

theorem segments_append {path name : String} (h : '/' ∉ name.toList) :
    segments (path ++ "/" ++ name) = segments path ++ [name] := by
  have hchars : (path ++ "/" ++ name).toList = path.toList ++ '/' :: name.toList := by simp
  rw [segments, hchars, List.splitOn_append_cons_self, List.splitOn_eq_singleton h]
  simp [segments]

theorem IsName.endsWith_append {name : String} (h : IsName name) (front : String) :
    (front ++ name).endsWith '/' = false := by
  obtain ⟨cs, c, hname⟩ : ∃ cs c, name.toList = cs ++ [c] :=
    ⟨_, _, (List.dropLast_concat_getLast (mt String.toList_eq_nil_iff.mp h.ne_empty)).symm⟩
  have hc : c ≠ '/' := fun heq => h.slash (by simp [hname, heq])
  rw [String.endsWith_char_eq_getLast?, String.toList_append, hname, ← List.append_assoc]
  simpa using hc

/-- What follows the last of some characters that are alike. -/
theorem takeWhile_reverse_append {front back : List Char} {c : Char} (h : c ∉ back) :
    ((front ++ c :: back).reverse.takeWhile (· != c)).reverse = back := by
  have hback : ∀ d ∈ back.reverse, (d != c) = true := by
    intro d hd
    have hne : d ≠ c := fun heq => h (heq ▸ List.mem_reverse.mp hd)
    simpa using hne
  rw [List.reverse_append, List.reverse_cons, List.append_assoc, List.takeWhile_append_of_pos hback]
  simp

/-- The part of a path before its last slash, and the name behind it. -/
theorem splitPath_append {path name : String} (hne : path ≠ "") (hslash : path.endsWith '/' = false)
    (hname : '/' ∉ name.toList) : splitPath (path ++ "/" ++ name) = (path, name) := by
  have hchars : (path ++ "/" ++ name).toList = path.toList ++ '/' :: name.toList := by simp
  have hcut : (path.toList ++ '/' :: name.toList).take
      ((path.toList ++ '/' :: name.toList).length - name.toList.length) = path.toList ++ ['/'] := by
    have hcount : (path.toList ++ '/' :: name.toList).length - name.toList.length =
        (path.toList ++ ['/']).length := by
      simp only [List.length_append, List.length_cons, List.length_nil]
      omega
    rw [hcount, List.append_cons path.toList '/' name.toList, List.take_left]
  -- Before the slash, the path ends in another character.
  have hbare : ((path.toList ++ ['/']).reverse.dropWhile (· == '/')).reverse = path.toList := by
    obtain ⟨front, last, hlast⟩ : ∃ front last, path.toList = front ++ [last] :=
      ⟨_, _, (List.dropLast_concat_getLast (mt String.toList_eq_nil_iff.mp hne)).symm⟩
    rw [String.endsWith_char_eq_getLast?, hlast] at hslash
    simp at hslash
    simp [hlast, hslash]
  have hfull : path.toList.isEmpty = false := by
    simpa using hne
  simp only [splitPath, hchars, takeWhile_reverse_append hname, hcut, hbare, hfull]
  simp

theorem baseName_join {path name : String} (hne : path ≠ "") (hslash : path.endsWith '/' = false)
    (hname : '/' ∉ name.toList) : baseName (join path name) = name := by
  rw [baseName, join_eq hne hslash, splitPath_append hne hslash hname]

/-- The last name of a path is all of it or follows a slash. -/
theorem toList_eq_append_baseName (path : String) :
    '/' ∉ (baseName path).toList ∧
      (path = baseName path ∨ ∃ front, path.toList = front ++ '/' :: (baseName path).toList) := by
  by_cases h : '/' ∈ path.toList
  · -- The last slash is the first one from behind.
    obtain ⟨back, front, hpath, hback⟩ := List.eq_append_cons_of_mem (List.mem_reverse.mpr h)
    have hchars : path.toList = front.reverse ++ '/' :: back.reverse := by
      rw [← List.reverse_reverse path.toList, hpath]
      simp
    have hname : '/' ∉ back.reverse := by simpa using hback
    have hbase : baseName path = String.ofList back.reverse := by
      simp only [baseName, splitPath, hchars, takeWhile_reverse_append hname]
    rw [hbase, String.toList_ofList]
    exact ⟨hname, .inr ⟨front.reverse, hchars⟩⟩
  · have hall : ∀ c ∈ path.toList.reverse, (c != '/') = true := by
      intro c hc
      have hne : c ≠ '/' := fun heq => h (heq ▸ List.mem_reverse.mp hc)
      simpa using hne
    have htake : path.toList.reverse.takeWhile (· != '/') = path.toList.reverse := by
      rw [← List.append_nil path.toList.reverse, List.takeWhile_append_of_pos hall, List.takeWhile_nil]
    have hbase : baseName path = path := by
      simp only [baseName, splitPath, htake]
      simp
    rw [hbase]
    exact ⟨h, .inl rfl⟩

/-- The last name of a path ends its names. -/
theorem segments_eq_append_baseName (path : String) :
    ∃ front, segments path = front ++ [baseName path] := by
  obtain ⟨hname, hpath | ⟨front, hpath⟩⟩ := toList_eq_append_baseName path
  · refine ⟨[], ?_⟩
    rw [← hpath] at hname ⊢
    rw [segments, List.splitOn_eq_singleton hname]
    simp
  · refine ⟨(front.splitOn '/').map String.ofList, ?_⟩
    rw [segments, hpath, List.splitOn_append_cons_self, List.splitOn_eq_singleton hname]
    simp

/-- A path whose last name is no name of dots leads to a location of that name. -/
theorem ownName_eq_baseName {path : String} (hempty : baseName path ≠ "") (hdot : baseName path ≠ ".") (hdots : baseName path ≠ "..") :
    ownName path = baseName path := by
  obtain ⟨front, hsegments⟩ := segments_eq_append_baseName path
  rw [ownName, normalized_eq, hsegments, follow_append]
  simp [step, hempty, hdot, hdots]

namespace FileTree

/-! ## Walks -/

variable {t t' : FileTree} {l l' : Location} {name : String} {names : List String}

/-- A walk goes on from where its first name leads, if that is short enough and a directory is at the
start. -/
theorem walk_cons (t : FileTree) (l : Location) (name : String) (names : List String) :
    t.walk l (name :: names) =
      match t.get? l with
      | none => .error .notFound
      | some (.file _) => .error .notADirectory
      | some .dir =>
        if nameLimit < name.utf8ByteSize then .error .nameTooLong else t.walk (step l name) names := by
  -- The names of dots are short, so the bound on the length can be asked first.
  have hdots : ∀ s ∈ ["", ".", ".."], ¬ nameLimit < s.utf8ByteSize := by decide
  rw [walk, step]
  cases t.get? l with
  | none => rfl
  | some entry =>
    cases entry with
    | file content => rfl
    | dir =>
      dsimp only
      by_cases hdot : name = "" ∨ name = "."
      · have hshort : ¬ nameLimit < name.utf8ByteSize :=
          hdots name (by rcases hdot with rfl | rfl <;> simp)
        simp [hdot, hshort]
      by_cases hup : name = ".."
      · subst hup
        simp [hdots ".." (by simp)]
      · simp [hdot, hup]

/-- A step of a walk that succeeds. -/
theorem walk_cons_eq_ok (h : t.walk l (name :: names) = .ok l') :
    t.get? l = some .dir ∧ name.utf8ByteSize ≤ nameLimit ∧ t.walk (step l name) names = .ok l' := by
  rw [walk_cons] at h
  split at h
  · cases h
  · cases h
  · split at h
    · cases h
    · exact ⟨‹_›, by omega, h⟩

/-- A walk that succeeds ends where its names lead. -/
theorem eq_follow_of_walk (h : t.walk l names = .ok l') : l' = follow l names := by
  induction names generalizing l with
  | nil => exact (Except.ok.inj h).symm
  | cons name names ih => exact ih (walk_cons_eq_ok h).2.2

/-- Two trees that agree on the way agree on the walk. -/
theorem walk_congr (h : ∀ front, front <+: names → t'.get? (follow l front) = t.get? (follow l front)) :
    t'.walk l names = t.walk l names := by
  induction names generalizing l with
  | nil => rfl
  | cons name names ih =>
    have hrest : t'.walk (step l name) names = t.walk (step l name) names :=
      ih fun front hfront => h (name :: front) (List.cons_prefix_cons.mpr ⟨rfl, hfront⟩)
    rw [walk_cons, walk_cons, hrest, show t'.get? l = t.get? l from h [] List.nil_prefix]

/-- All that a walk passes on its way is a directory. -/
theorem get?_follow_of_walk (h : t.walk l names = .ok l') {front : List String} (hfront : front <+: names)
    (hne : front ≠ names) : t.get? (follow l front) = some .dir := by
  induction names generalizing l front with
  | nil => exact absurd (List.prefix_nil.mp hfront) hne
  | cons name names ih =>
    obtain ⟨hdir, -, hrest⟩ := walk_cons_eq_ok h
    cases front with
    | nil => exact hdir
    | cons name' front =>
      obtain ⟨rfl, hfront'⟩ := List.cons_prefix_cons.mp hfront
      exact ih hrest hfront' fun heq => hne (by rw [heq])

/-- A walk succeeds in every tree that has the directories on its way. -/
theorem walk_of_dirs (h : t.walk l names = .ok l')
    (hdirs : ∀ front, front <+: names → front ≠ names → t'.get? (follow l front) = some .dir) :
    t'.walk l names = .ok l' := by
  induction names generalizing l with
  | nil => exact h
  | cons name names ih =>
    obtain ⟨-, hshort, hrest⟩ := walk_cons_eq_ok h
    have hdir : t'.get? l = some .dir := hdirs [] List.nil_prefix (by simp)
    rw [walk_cons, hdir]
    simp only [Nat.not_lt.mpr hshort, if_false]
    refine ih hrest fun front hfront hne => ?_
    exact hdirs (name :: front) (List.cons_prefix_cons.mpr ⟨rfl, hfront⟩) (by simpa using hne)

theorem walk_append (h : t.walk l names = .ok l') (more : List String) :
    t.walk l (names ++ more) = t.walk l' more := by
  induction names generalizing l with
  | nil => rw [Except.ok.inj h, List.nil_append]
  | cons name names ih =>
    obtain ⟨hdir, hshort, hrest⟩ := walk_cons_eq_ok h
    rw [List.cons_append, walk_cons, hdir]
    simpa [Nat.not_lt.mpr hshort] using ih hrest

theorem walk_name (hdir : t.get? l = some .dir) (hname : IsName name) :
    t.walk l [name] = .ok (l ++ [name]) := by
  rw [walk_cons, hdir]
  simp [Nat.not_lt.mpr hname.short, hname.step_eq, walk]

/-- A walk along one's own names ends at a location of names. -/
theorem isName_of_walk (h : t.walk l names = .ok l') (hl : ∀ n ∈ l, IsName n)
    (hnames : ∀ n ∈ names, '/' ∉ n.toList ∧ '\x00' ∉ n.toList) : ∀ n ∈ l', IsName n := by
  induction names generalizing l with
  | nil => exact Except.ok.inj h ▸ hl
  | cons name names ih =>
    obtain ⟨-, hshort, hrest⟩ := walk_cons_eq_ok h
    refine ih hrest ?_ fun n hn => hnames n (.tail _ hn)
    intro n hn
    unfold step at hn
    split at hn
    · exact hl n hn
    split at hn
    · exact hl n (List.dropLast_subset l hn)
    · rename_i hdot hdots
      rcases List.mem_append.mp hn with hn | hn
      · exact hl n hn
      · obtain rfl := List.mem_singleton.mp hn
        simp only [Bool.or_eq_true, beq_iff_eq, not_or] at hdot hdots
        obtain ⟨hslash, hnull⟩ := hnames n (.head _)
        exact ⟨hdot.1, hdot.2, hdots, hslash, hnull, hshort⟩

/-! ## Paths -/

/-- A path leads to a location, whether or not there is an entry. -/
structure Reaches (t : FileTree) (path : String) (l : Location) : Prop where
  null : '\x00' ∉ path.toList
  resolve : t.resolve path = .ok l

variable {path : String} {e : Entry}

theorem resolve_eq_ok (h : t.resolve path = .ok l) :
    path ≠ "" ∧ t.walk (start path) (segments path) = .ok l :=
  ⟨(resolve_eq_ok_iff.mp h).1, (resolve_eq_ok_iff.mp h).2.2⟩

/-- Two trees that agree on the way agree on where a path leads. -/
theorem resolve_congr (h : ∀ front, front <+: segments path →
    t'.get? (follow (start path) front) = t.get? (follow (start path) front)) :
    t'.resolve path = t.resolve path := by
  rw [resolve, resolve, walkFrom, walkFrom, walk_congr h]

/-- All that a path passes on its way is a directory. -/
theorem get?_follow_of_resolve (h : t.resolve path = .ok l) {front : List String}
    (hfront : front <+: segments path) (hne : front ≠ segments path) :
    t.get? (follow (start path) front) = some .dir :=
  get?_follow_of_walk (resolve_eq_ok h).2 hfront hne

/-- A path leads to the same location in every tree that has the directories on its way. -/
theorem resolve_of_dirs (h : t.resolve path = .ok l) (hdirs : ∀ front, front <+: segments path →
    front ≠ segments path → t'.get? (follow (start path) front) = some .dir) :
    t'.resolve path = .ok l := by
  obtain ⟨hne, hshort, hwalk⟩ := resolve_eq_ok_iff.mp h
  exact resolve_eq_ok_iff.mpr ⟨hne, hshort, walk_of_dirs hwalk hdirs⟩

theorem Reaches.eq_normalized (h : t.Reaches path l) : l = normalized path := by
  rw [normalized_eq]
  exact eq_follow_of_walk (resolve_eq_ok h.resolve).2

theorem isName_work : ∀ n ∈ work, IsName n := by
  rintro n hn
  obtain rfl := List.mem_singleton.mp hn
  exact ⟨by decide, by decide, by decide, by decide, by decide, by decide⟩

theorem isName_start (path : String) : ∀ n ∈ start path, IsName n := by
  unfold start
  split
  · simp
  · exact isName_work

theorem Reaches.isName (h : t.Reaches path l) : ∀ n ∈ l, IsName n :=
  isName_of_walk (resolve_eq_ok h.resolve).2 (isName_start path) fun _ hn =>
    ⟨slash_not_mem_of_mem_segments hn, null_not_mem_of_mem_segments h.null hn⟩

theorem Reaches.entry?_eq (h : t.Reaches path l) : t.entry? path = t.get? l := by
  simp [ entry?, h.null, h.resolve]

/-- A path that names an entry leads to its normalized location. -/
theorem reaches_of_entry? (h : t.entry? path = some e) :
    t.Reaches path (normalized path) ∧ t.get? (normalized path) = some e := by
  unfold entry? at h
  split at h
  · cases h
  · rename_i hnull
    split at h
    · rename_i l hl
      have hreach : t.Reaches path l := ⟨by simpa using hnull, hl⟩
      exact hreach.eq_normalized ▸ ⟨hreach, h⟩
    · cases h

theorem reaches_of_pathIsDir (h : t.pathIsDir path = true) :
    t.Reaches path (normalized path) ∧ t.get? (normalized path) = some .dir :=
  reaches_of_entry? (by simpa [pathIsDir] using h)

theorem Reaches.pathExists_eq (h : t.Reaches path l) : t.pathExists path = (t.get? l).isSome := by
  rw [pathExists, h.entry?_eq]

theorem Reaches.pathIsDir_eq (h : t.Reaches path l) : t.pathIsDir path = t.isDir l := by
  rw [pathIsDir, h.entry?_eq, isDir]

theorem Reaches.pathIsFile_eq (h : t.Reaches path l) : t.pathIsFile path = t.isFile l := by
  rw [pathIsFile, h.entry?_eq]
  rfl

theorem Reaches.join (h : t.Reaches path l) (hdir : t.get? l = some .dir)
    (hslash : path.endsWith '/' = false) (hname : IsName name)
    (hlength : (path ++ "/" ++ name).utf8ByteSize < pathLimit) :
    t.Reaches (Files.join path name) (l ++ [name]) := by
  obtain ⟨hne, hwalk⟩ := resolve_eq_ok h.resolve
  rw [join_eq hne hslash]
  constructor
  · simp [h.null, hname.null]
  · refine resolve_eq_ok_iff.mpr ⟨by simp, hlength, ?_⟩
    rw [start_append_slash hne, segments_append hname.slash, walk_append hwalk, walk_name hdir hname]

/-! ## Writing and making directories -/

theorem Reaches.write_eq (h : t.Reaches path l) (hfile : t.isDir l = false)
    (hlast : baseName path ≠ "") (content : Text.Bytes) :
    t.write path content = .ok (t.put l (.file content)) := by
  obtain ⟨front, hnames⟩ := segments_eq_append_baseName path
  have htarget : t.target path = .ok l := by
    simp [target, h.null, hnames, hlast, h.resolve, hfile]
  rw [write, htarget]
  rfl

theorem Reaches.write_eq_error (h : t.Reaches path l) (hdir : t.isDir l = true)
    (hlast : baseName path ≠ "") (content : Text.Bytes) :
    t.write path content = .error (refuse path .isADirectory) := by
  obtain ⟨front, hnames⟩ := segments_eq_append_baseName path
  have htarget : t.target path = .error (refuse path .isADirectory) := by
    simp [target, h.null, hnames, hlast, h.resolve, hdir]
  rw [write, htarget]
  rfl

theorem Reaches.put {m : Location} (h : t.Reaches path l) (hm : t.isDir m = false) (e : Entry) :
    (t.put m e).Reaches path l :=
  ⟨h.null, resolve_put e hm h.resolve⟩

theorem Reaches.makeDir_eq (h : t.Reaches path l) (hlast : baseName path ≠ "") (hnone : t.get? l = none) :
    t.makeDir path = .ok (t.put l .dir) := by
  obtain ⟨front, hnames⟩ := segments_eq_append_baseName path
  have hbare : bareSegments path = segments path := by
    simp [bareSegments, hnames, hlast]
  have hwalk : t.walkFrom path (segments path) = .ok l := h.resolve
  simp [makeDir, h.null, hbare, hwalk, hnone]

/-- A directory is made in one that is there, or in the working directory. -/
theorem Reaches.makeDirs_eq (h : t.Reaches path l) (hlast : baseName path ≠ "")
    (hnone : t.get? l = none)
    (hhead : (splitPath path).1 = "" ∨ t.pathExists (splitPath path).1 = true) (tolerant : Bool) :
    t.makeDirs tolerant path = (t.put l .dir, .ok ()) := by
  have hsplit : splitLast path = splitPath path := by
    rw [splitLast]
    split
    · rename_i heq
      exact absurd (congrArg Prod.snd heq) hlast
    · rfl
  have hmissing : ((splitPath path).1 != "" && (splitPath path).2 != "" &&
      !t.pathExists (splitPath path).1) = false := by
    rcases hhead with hhead | hhead <;> simp [hhead]
  simp only [makeDirs, makeDirsFrom, hsplit, hmissing, Bool.false_eq_true, if_false, makeLast,
    h.makeDir_eq hlast hnone]

theorem Reaches.makeDirs_join (h : t.Reaches path l) (hdir : t.get? l = some .dir)
    (hslash : path.endsWith '/' = false) (hname : IsName name)
    (hlength : (path ++ "/" ++ name).utf8ByteSize < pathLimit) (hnone : t.get? (l ++ [name]) = none)
    (tolerant : Bool) :
    t.makeDirs tolerant (Files.join path name) = (t.put (l ++ [name]) .dir, .ok ()) := by
  have hne := (resolve_eq_ok h.resolve).1
  have hsplit : splitPath (Files.join path name) = (path, name) := by
    rw [join_eq hne hslash, splitPath_append hne hslash hname.slash]
  have hexists : t.pathExists path = true := by rw [h.pathExists_eq, hdir]; rfl
  exact (h.join hdir hslash hname hlength).makeDirs_eq (by rw [baseName, hsplit]; exact hname.ne_empty)
    hnone (.inr (by rw [hsplit]; exact hexists)) tolerant

/-! ## Names as paths -/

/-- A name alone leads to the entry of that name in the working directory. -/
theorem reaches_name (hname : IsName name) (hwork : t.get? work = some .dir) :
    t.Reaches name (work ++ [name]) := by
  have hsegments : segments name = [name] := by
    rw [segments, List.splitOn_eq_singleton hname.slash, List.map_singleton, String.ofList_toList]
  have hstart : start name = work := by
    have hhead : name.toList.head? ≠ some '/' := fun h => hname.slash (List.mem_of_mem_head? h)
    simp [start, hhead]
  have hshort := hname.short
  refine ⟨hname.null, resolve_eq_ok_iff.mpr ⟨hname.ne_empty, ?_, ?_⟩⟩
  · unfold nameLimit at hshort
    unfold pathLimit
    omega
  · rw [hstart, hsegments]
    exact walk_name hwork hname

/-- A file can be written under any name that no directory has. -/
theorem target_name (hname : IsName name) (hwork : t.get? work = some .dir)
    (hfile : t.isDir (work ++ [name]) = false) : t.target name = .ok (work ++ [name]) := by
  have hreach := reaches_name hname hwork
  have hlast : (segments name).getLast? = some name := by
    rw [segments, List.splitOn_eq_singleton hname.slash]
    simp
  simp [target, hname.null, hlast, hname.ne_empty, hreach.resolve, hfile]

/-- The working directory with a single file of the given lines in it. -/
def withScript (name : String) (lines : List String) : FileTree :=
  (empty work).put (work ++ [name])
    (.file (Text.Utf8.encode (String.join (lines.map (· ++ "\n")))))

theorem readLines_withScript {lines : List String} (hname : IsName name)
    (hlines : ∀ line ∈ lines, Text.OneLine line.toList) :
    (withScript name lines).readLines name = .ok (lines.map (· ++ "\n")) := by
  have hwork : (empty work).get? work = some .dir := by decide
  have hfile : (empty work).isDir (work ++ [name]) = false := by
    simp [isDir, get?, empty, List.lookup_cons, work]
  exact readLines_of_read hlines (read_of_write (write_of_target (target_name hname hwork hfile) _))

end FileTree

end LineScript.Files
