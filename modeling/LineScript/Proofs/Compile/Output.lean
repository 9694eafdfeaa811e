import LineScript.Proofs.Compile.Structure
import LineScript.Proofs.Files.Failure
import Mathlib

/-!
# Where the compiler writes

The compiler reads one file and writes another. If no place is given for the program, its name is that of the
script with another ending. However the path of the script is spelled, the two paths then differ in their last
names only, and the name of the program is never a name of dots, so that it lies next to the script and not in
its place. All other files are left alone, and all of them if the compiler comes to no program.
-/

namespace LineScript

namespace Files

/-! ## Endings of names -/

/-- How many characters the ending of a name has. Points at its beginning begin no ending. -/
def endingLength (name : List Char) : Nat :=
  let rest := name.drop (name.takeWhile (· == '.')).length
  if rest.contains '.' then 1 + (rest.reverse.takeWhile (· != '.')).length else 0

theorem toList_withoutExtension (path : String) :
    (withoutExtension path).toList =
      path.toList.take (path.toList.length - endingLength (baseName path).toList) := by
  have hname : (baseName path).toList = (path.toList.reverse.takeWhile (· != '/')).reverse := by
    simp [baseName, splitPath]
  rw [hname, withoutExtension, endingLength]
  dsimp only
  split
  · rw [String.toList_ofList]
  · rw [Nat.sub_zero, List.take_length]

/-- A name is a stem and an ending, which begins with a point unless it is empty. -/
theorem exists_stem (name : List Char) :
    ∃ stem ending, name = stem ++ ending ∧ ending.length = endingLength name ∧
      (ending = [] ∨ ∃ rest, ending = '.' :: rest) := by
  unfold endingLength
  dsimp only
  generalize (name.takeWhile (· == '.')).length = dots
  by_cases hpoint : '.' ∈ name.drop dots
  · -- The last point is the first one from behind.
    obtain ⟨back, front, hrest, hback⟩ := List.eq_append_cons_of_mem (List.mem_reverse.mpr hpoint)
    have hchars : name.drop dots = front.reverse ++ '.' :: back.reverse := by
      rw [← List.reverse_reverse (name.drop dots), hrest]
      simp
    have htake : (name.drop dots).reverse.takeWhile (· != '.') = back := by
      have hlast : ((front.reverse ++ '.' :: back.reverse).reverse.takeWhile (· != '.')).reverse =
          back.reverse := takeWhile_reverse_append (by simpa using hback)
      rw [← hchars] at hlast
      exact List.reverse_injective hlast
    refine ⟨name.take dots ++ front.reverse, '.' :: back.reverse, ?_, ?_, .inr ⟨_, rfl⟩⟩
    · rw [List.append_assoc, ← hchars, List.take_append_drop]
    · simp [hpoint, htake, Nat.add_comm]
  · exact ⟨name, [], by simp, by simp [hpoint], .inl rfl⟩

/-! ## Paths that differ in their last names -/

/-- The names of a path before its last one depend on what stands before its last slash only. -/
theorem exists_segments_before (path : String) :
    ∃ front names, path.toList = front ++ (baseName path).toList ∧
      ∀ (path' : String) (name : List Char), '/' ∉ name → path'.toList = front ++ name →
        segments path' = names ++ [String.ofList name] := by
  obtain ⟨-, hpath | ⟨front, hpath⟩⟩ := toList_eq_append_baseName path
  · -- The path is a single name.
    refine ⟨[], [], ?_, fun path' name hname hchars => ?_⟩
    · rw [List.nil_append]
      exact congrArg String.toList hpath
    · rw [segments, hchars, List.nil_append, List.splitOn_eq_singleton hname]
      rfl
  · refine ⟨front ++ ['/'], (front.splitOn '/').map String.ofList, by simp [hpath], ?_⟩
    intro path' name hname hchars
    have hsplit : path'.toList = front ++ '/' :: name := by simp [hchars]
    rw [segments, hsplit, List.splitOn_append_cons_self, List.splitOn_eq_singleton hname]
    simp

/-- From one directory, a name that is no name of dots and any other name lead to different locations. -/
theorem step_ne {l : Location} {name other : String} (hempty : name ≠ "") (hdot : name ≠ ".")
    (hdots : name ≠ "..") (hne : other ≠ name) : step l other ≠ step l name := by
  have hstep : step l name = l ++ [name] := by simp [step, hempty, hdot, hdots]
  rw [hstep, step]
  intro heq
  split at heq
  · simp at heq
  split at heq
  · have hlength := congrArg List.length heq
    simp only [List.length_dropLast, List.length_append, List.length_singleton] at hlength
    omega
  · exact hne (by simpa using heq)

/-- What is written elsewhere leaves a file as it was. -/
theorem FileTree.read_put {t : FileTree} {path : String} {content : Text.Bytes} {place : Location}
    (hread : t.read path = .ok content) (hdir : t.isDir place = false) (hplace : ¬ t.Reaches path place)
    (e : Entry) : (t.put place e).read path = .ok content := by
  obtain ⟨hreach, hfile⟩ := reaches_of_entry? (read_eq_ok_iff.mp hread)
  have hne : normalized path ≠ place := by
    rintro rfl
    exact hplace hreach
  rw [read_eq_ok_iff, (hreach.put hdir e).entry?_eq, get?_put_of_ne e hne, hfile]

end Files

namespace Compile

open Text Files

/-- The default place of a program begins where the script's path does, and its last name is the stem of the
script's name with an ending of its own. -/
theorem exists_segments_defaultOutput (path : String) :
    ∃ names stem ending, segments path = names ++ [String.ofList (stem ++ ending)] ∧
      segments (defaultOutput path) = names ++ [String.ofList (stem ++ "_compiled.py".toList)] ∧
      start (defaultOutput path) = start path ∧ (ending = [] ∨ ∃ rest, ending = '.' :: rest) := by
  obtain ⟨front, names, hpath, hnames⟩ := exists_segments_before path
  obtain ⟨stem, ending, hname, hlength, hending⟩ := exists_stem (baseName path).toList
  have hslash := (toList_eq_append_baseName path).1
  refine ⟨names, stem, ending, hnames path _ (hname ▸ hslash) (by rw [hpath, hname]), ?_⟩
  rw [hname, List.mem_append, not_or] at hslash
  have hchars : path.toList = (front ++ stem) ++ ending := by rw [hpath, hname, List.append_assoc]
  have hdefault : (defaultOutput path).toList = (front ++ stem) ++ "_compiled.py".toList := by
    have hkept : (withoutExtension path).toList = front ++ stem := by
      rw [toList_withoutExtension, ← hlength, hchars, List.length_append, Nat.add_sub_cancel,
        List.take_left]
    rw [defaultOutput, String.toList_append, hkept]
  refine ⟨hnames _ _ ?_ (by rw [hdefault, List.append_assoc]), ?_, hending⟩
  · rw [List.mem_append, not_or]
    exact ⟨hslash.1, by decide⟩
  · rw [start, start, hdefault, hchars]
    cases front ++ stem with
    | cons c cs => rfl
    | nil =>
      -- An ending alone begins with a point: neither path begins with a slash.
      rcases hending with rfl | ⟨rest, rfl⟩ <;> rfl

/-- However the path of a script is spelled, the default place of its program is another one. -/
theorem defaultOutput_elsewhere {t : FileTree} {path : String} {l : Location} (h : t.Reaches path l) :
    ¬ t.Reaches (defaultOutput path) l := by
  intro hout
  obtain ⟨names, stem, ending, hpath, hdefault, hstart, hending⟩ := exists_segments_defaultOutput path
  have hl : l = follow (start path) (segments path) := h.eq_normalized
  have hl' : l = follow (start (defaultOutput path)) (segments (defaultOutput path)) := hout.eq_normalized
  -- Both paths take the same way up to their last names, and these are different steps.
  rw [hpath, follow_append] at hl
  rw [hstart, hdefault, follow_append] at hl'
  -- The ending alone is longer than any name that is no step to a file.
  have hlong : ∀ name : String, name.toList.length < 12 →
      String.ofList (stem ++ "_compiled.py".toList) ≠ name := by
    rintro _ hshort rfl
    simp at hshort
  have hne : String.ofList (stem ++ ending) ≠ String.ofList (stem ++ "_compiled.py".toList) := by
    intro heq
    obtain rfl := List.append_cancel_left (String.ofList_injective heq)
    simp at hending
  exact step_ne (hlong "" (by decide)) (hlong "." (by decide)) (hlong ".." (by decide)) hne
    (hl.symm.trans hl')

/-! ## What the compiler changes -/

section CompileFile

variable {path : String} {output : Option String} {s : Session}

theorem compileFile_of_no_file (output : Option String) (h : s.files.pathIsFile path = false) :
    compileFile path output s = (.done (), s.write ("File not found: " ++ path ++ "\n")) := by
  simp only [compileFile, Bind.bind, Run.bind, Run.get, h]
  rfl

theorem compileFile_of_unreadable (output : Option String) {f : Fault} (hfile : s.files.pathIsFile path = true)
    (h : s.files.readLines path = .error f) : compileFile path output s = (.failed f, s) := by
  simp only [compileFile, Bind.bind, Run.bind, Run.get, hfile, h]
  rfl

theorem compileFile_of_unwritable {lines : List String} {f : Fault} (hlines : s.files.readLines path = .ok lines)
    (h : s.files.target (outputPath path output) = .error f) :
    compileFile path output s = (.failed f, s) := by
  have hwrite : s.files.write (outputPath path output) (Utf8.encode (program lines)) = .error f := by
    rw [FileTree.write, h]
    rfl
  rw [compileFile_eq hlines, hwrite]
  rfl

theorem compileFile_of_target {lines : List String} {place : Location}
    (hlines : s.files.readLines path = .ok lines)
    (h : s.files.target (outputPath path output) = .ok place) :
    compileFile path output s =
      (.done (), { s with files := s.files.put place (.file (Utf8.encode (program lines))) }.write
        ("Compiled to " ++ outputPath path output ++ "\n")) :=
  compileFile_of_readLines hlines (FileTree.write_of_target h _)

/-- Neither a given place nor the default one is that of the script. -/
theorem outputPath_elsewhere {t : FileTree} {l : Location} (h : t.Reaches path l)
    (hother : ∀ out, output = some out → ¬ t.Reaches out l) : ¬ t.Reaches (outputPath path output) l := by
  unfold outputPath
  split
  · split
    · exact defaultOutput_elsewhere h
    · exact hother _ rfl
  · exact defaultOutput_elsewhere h

/-- Compiling a script to a place that is not its own either leaves all files as they were, or it changes one file,
where the path of the output leads, and the script is not this file. It leaves the files alone if there is no
script, if it cannot be read, or if the output cannot be written. The default place for the output is never that
of the script, in any tree. -/
theorem compiling_changes_output_only (path : String) (output : Option String) (s : Session)
    (hother : ∀ out, output = some out → ∀ l, s.files.Reaches path l → ¬ s.files.Reaches out l) :
    ((compileFile path output s).2.files = s.files ∧
        (s.files.pathIsFile path = false ∧
            compileFile path output s = (.done (), s.write ("File not found: " ++ path ++ "\n")) ∨
          ∃ f, compileFile path output s = (.failed f, s) ∧
            (s.files.readLines path = .error f ∨ s.files.target (outputPath path output) = .error f)) ∨
      ∃ lines place, s.files.readLines path = .ok lines ∧
        s.files.Reaches (outputPath path output) place ∧
        (compileFile path output s).1 = .done () ∧
        (compileFile path output s).2.files.get? =
          Function.update s.files.get? place (some (.file (Utf8.encode (program lines)))) ∧
        (compileFile path output s).2.files.read path = s.files.read path) ∧
    ∀ (t : FileTree) (l : Location), t.Reaches path l → ¬ t.Reaches (defaultOutput path) l := by
  refine ⟨?_, fun t l => defaultOutput_elsewhere⟩
  cases hfile : s.files.pathIsFile path with
  | false =>
    have hrun := compileFile_of_no_file output hfile
    refine .inl ⟨?_, .inl ⟨rfl, hrun⟩⟩
    rw [hrun, Session.write_files]
  | true =>
    cases hlines : s.files.readLines path with
    | error f =>
      have hrun := compileFile_of_unreadable output hfile hlines
      refine .inl ⟨?_, .inr ⟨f, hrun, .inl rfl⟩⟩
      rw [hrun]
    | ok lines =>
      cases htarget : s.files.target (outputPath path output) with
      | error f =>
        have hrun := compileFile_of_unwritable hlines htarget
        refine .inl ⟨?_, .inr ⟨f, hrun, .inr rfl⟩⟩
        rw [hrun]
      | ok place =>
        -- The only place that is written is the target, and the script is found elsewhere.
        obtain ⟨hnull, hresolve, hdir⟩ := FileTree.target_eq_ok htarget
        have hreach : s.files.Reaches (outputPath path output) place := ⟨by simpa using hnull, hresolve⟩
        obtain ⟨content, hentry⟩ := FileTree.pathIsFile_iff.mp hfile
        have hread := FileTree.read_eq_ok_iff.mpr hentry
        have hplace : ¬ s.files.Reaches path place := fun h =>
          outputPath_elsewhere h (fun out hout => hother out hout place h) hreach
        refine .inr ⟨lines, place, rfl, hreach, ?_⟩
        rw [compileFile_of_target hlines htarget, Session.write_files, hread]
        exact ⟨rfl, FileTree.get?_put_eq_update _ _ _, FileTree.read_put hread hdir hplace _⟩

end CompileFile

/-- A script whose name begins with a point, in a directory whose name holds one. -/
def hiddenScript : Session :=
  { Session.fresh with
    files := ((FileTree.empty work).put (work ++ ["v1.0"]) .dir).put (work ++ ["v1.0", ".prog"])
      (.file (Utf8.encode "stryprint 1\n")) }

/-- The program gets the name of the script, in the directory above. -/
theorem hiddenScript_compiles_above :
    ∃ lines, hiddenScript.files.readLines "v1.0/./.prog" = .ok lines ∧
      (compileFile "v1.0/./.prog" (some "v1.0/../.prog") hiddenScript).2.files.get? =
        Function.update hiddenScript.files.get? (work ++ [".prog"])
          (some (.file (Utf8.encode (program lines)))) := by
  have hother : ∀ out, some "v1.0/../.prog" = some out → ∀ l, hiddenScript.files.Reaches "v1.0/./.prog" l →
      ¬ hiddenScript.files.Reaches out l := by
    rintro _ ⟨⟩ l hscript hout
    exact absurd (hscript.eq_normalized.symm.trans hout.eq_normalized) (by decide +kernel)
  have hdone : (compileFile "v1.0/./.prog" (some "v1.0/../.prog") hiddenScript).1.isDone = true := by
    decide +kernel
  obtain ⟨⟨-, ⟨hmissing, -⟩ | ⟨f, hfailed, -⟩⟩ | ⟨lines, place, hlines, hreach, -, hfiles, -⟩, -⟩ :=
    compiling_changes_output_only "v1.0/./.prog" (some "v1.0/../.prog") hiddenScript hother
  · exact absurd hmissing (by decide +kernel)
  · rw [hfailed] at hdone
    cases hdone
  · have hplace : place = work ++ [".prog"] := hreach.eq_normalized.trans (by decide +kernel)
    exact ⟨lines, hlines, hplace ▸ hfiles⟩

end Compile

end LineScript
