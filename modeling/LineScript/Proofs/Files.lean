import LineScript.Interpreter
import LineScript.Proofs.Text.Line
import LineScript.Proofs.Text.Utf8

/-!
# Reading and writing files

A path is read by the entry that it names. What has been written at a path is read back there.
-/

namespace LineScript.Files.FileTree

/-! ## Entries -/

theorem get?_put (t : FileTree) (l : Location) (e : Entry) : (t.put l e).get? l = some e := by
  simp [get?, put]

theorem get?_put_of_ne {t : FileTree} {l k : Location} (e : Entry) (h : k ≠ l) :
    (t.put l e).get? k = t.get? k := by
  have hne : (k == l) = false := by simpa using h
  simp only [get?, put, List.lookup_cons, hne]
  induction t.entries with
  | nil => rfl
  | cons entry rest ih =>
    obtain ⟨l', e'⟩ := entry
    by_cases hl : l' = l
    · subst hl
      simpa [List.lookup_cons, hne] using ih
    · have hkeep : (l' != l) = true := by simpa using hl
      simp only [List.filter_cons, hkeep, if_true, List.lookup_cons]
      split <;> simp_all

/-! ## Paths -/

theorem pathIsFile_iff {t : FileTree} {path : String} :
    t.pathIsFile path = true ↔ ∃ content, t.entry? path = some (.file content) := by
  unfold pathIsFile
  split
  · rename_i content h
    exact ⟨fun _ => ⟨content, h⟩, fun _ => rfl⟩
  · rename_i h
    exact ⟨fun hfalse => by simp at hfalse, fun ⟨content, hc⟩ => absurd hc (h content)⟩

theorem read_eq_ok_iff {t : FileTree} {path : String} {content : Text.Bytes} :
    t.read path = .ok content ↔ t.entry? path = some (.file content) := by
  unfold read entry?
  split
  · simp
  · cases t.resolve path with
    | error c => simp
    | ok l =>
      cases hl : t.get? l with
      | none => simp [hl]
      | some e =>
        cases e with
        | file c => simp [hl]
        | dir => simp [hl]

theorem pathIsFile_of_read {t : FileTree} {path : String} {content : Text.Bytes}
    (h : t.read path = .ok content) : t.pathIsFile path = true :=
  pathIsFile_iff.mpr ⟨content, read_eq_ok_iff.mp h⟩

theorem pathIsFile_of_readLines {t : FileTree} {path : String} {lines : List String}
    (h : t.readLines path = .ok lines) : t.pathIsFile path = true := by
  cases hread : t.read path with
  | ok content => exact pathIsFile_of_read hread
  | error f => simp [readLines, hread, Bind.bind, Except.bind] at h

/-- Two trees in which a path names the same file give the same lines for it. -/
theorem readLines_congr {t₁ t₂ : FileTree} {path : String} (hfile : t₁.pathIsFile path = true)
    (h : t₁.entry? path = t₂.entry? path) : t₁.readLines path = t₂.readLines path := by
  obtain ⟨content, hc⟩ := pathIsFile_iff.mp hfile
  have h₁ : t₁.read path = .ok content := read_eq_ok_iff.mpr hc
  have h₂ : t₂.read path = .ok content := read_eq_ok_iff.mpr (h ▸ hc)
  simp only [readLines, h₁, h₂]

/-- The lines of a file that was written line by line. -/
theorem readLines_of_read {t : FileTree} {path : String} {lines : List String}
    (hlines : ∀ line ∈ lines, Text.OneLine line.toList)
    (h : t.read path = .ok (Text.Utf8.encode (String.join (lines.map (· ++ "\n"))))) :
    t.readLines path = .ok (lines.map (· ++ "\n")) := by
  simp only [readLines, h, Bind.bind, Except.bind, Text.Utf8.decodeChunks_encode, Text.lines_join hlines]
  rfl

/-- The text of a file has every kind of line end turned into one. -/
theorem readText_of_read {t : FileTree} {path text : String} (h : t.read path = .ok (Text.Utf8.encode text)) :
    t.readText path = .ok (String.ofList (Text.unifyNewlines text.toList)) := by
  have hdecode : Text.Utf8.decode (Text.Utf8.encode text) = .ok text.toList :=
    Text.Utf8.decode_flatMap_encodeChar text.toList
  simp only [readText, h, hdecode, Bind.bind, Except.bind]
  rfl

/-- The lines of a file are single lines once they are stripped. -/
theorem oneLine_of_readLines {t : FileTree} {path : String} {lines : List String}
    (h : t.readLines path = .ok lines) : ∀ line ∈ lines, Text.OneLine (Text.strip line).toList := by
  simp only [readLines, Bind.bind, Except.bind] at h
  split at h
  · cases h
  · split at h
    · cases h
      exact fun line hline => Text.oneLine_strip_of_mem_lines hline
    · cases h

/-! ## Writing -/

/-- A path leads to the same place when an entry is put where no directory was. -/
theorem walk_put {t : FileTree} {l : Location} (e : Entry) (hdir : t.isDir l = false)
    {k k' : Location} {names : List String} (h : t.walk k names = .ok k') :
    (t.put l e).walk k names = .ok k' := by
  induction names generalizing k with
  | nil => exact h
  | cons name names ih =>
    rw [walk] at h ⊢
    cases hk : t.get? k with
    | none => simp [hk] at h
    | some entry =>
      cases entry with
      | file content => simp [hk] at h
      | dir =>
        -- A directory is passed, so it is not the place where the entry is put.
        have hne : k ≠ l := by
          rintro rfl
          simp [isDir, hk] at hdir
        rw [get?_put_of_ne e hne, hk]
        simp only [hk] at h
        dsimp only
        split at h
        · rw [if_pos ‹_›]
          exact ih h
        rw [if_neg ‹_›]
        split at h
        · rw [if_pos ‹_›]
          exact ih h
        rw [if_neg ‹_›]
        split at h
        · cases h
        · rw [if_neg ‹_›]
          exact ih h

/-- Names are followed from where a path begins, if the path is one that leads somewhere. -/
theorem walkFrom_eq_ok_iff {t : FileTree} {path : String} {names : List String} {l : Location} :
    t.walkFrom path names = .ok l ↔
      path ≠ "" ∧ path.utf8ByteSize < pathLimit ∧ t.walk (start path) names = .ok l := by
  unfold walkFrom
  by_cases hempty : path = ""
  · simp [hempty]
  · have hfull : path.isEmpty = false := String.isEmpty_eq_false_iff.mpr hempty
    by_cases hlong : pathLimit ≤ path.utf8ByteSize
    · simp [hfull, hlong, Nat.not_lt.mpr hlong]
    · simp [hempty, hfull, hlong, Nat.not_le.mp hlong]

theorem resolve_eq_ok_iff {t : FileTree} {path : String} {l : Location} :
    t.resolve path = .ok l ↔
      path ≠ "" ∧ path.utf8ByteSize < pathLimit ∧ t.walk (start path) (segments path) = .ok l :=
  walkFrom_eq_ok_iff

/-- Where a file can be written, its path leads, and no directory is there. -/
theorem target_eq_ok {t : FileTree} {path : String} {l : Location} (h : t.target path = .ok l) :
    path.toList.contains '\x00' = false ∧ t.resolve path = .ok l ∧ t.isDir l = false := by
  unfold target at h
  split at h
  · cases h
  · rename_i hnul
    refine ⟨by simpa using hnul, ?_⟩
    split at h
    · -- A path that ends in a slash is refused, wherever it leads.
      split at h <;> cases h
    · cases hresolve : t.resolve path with
      | error c => simp [hresolve] at h
      | ok k =>
        simp only [hresolve] at h
        split at h
        · cases h
        · rename_i hdir
          cases h
          exact ⟨rfl, by simpa using hdir⟩

theorem resolve_put {t : FileTree} {l k : Location} (e : Entry) (hdir : t.isDir l = false)
    {path : String} (h : t.resolve path = .ok k) : (t.put l e).resolve path = .ok k := by
  obtain ⟨hne, hshort, hwalk⟩ := resolve_eq_ok_iff.mp h
  exact resolve_eq_ok_iff.mpr ⟨hne, hshort, walk_put e hdir hwalk⟩

theorem write_of_target {t : FileTree} {path : String} {l : Location} (h : t.target path = .ok l)
    (content : Text.Bytes) : t.write path content = .ok (t.put l (.file content)) := by
  rw [write, h]
  rfl

/-- What is written at a path is read back there. -/
theorem read_of_write {t t' : FileTree} {path : String} {content : Text.Bytes}
    (h : t.write path content = .ok t') : t'.read path = .ok content := by
  cases htarget : t.target path with
  | error f => simp [write, htarget, Except.map] at h
  | ok l =>
    simp only [write, htarget, Except.map, Except.ok.injEq] at h
    obtain ⟨hnul, hresolve, hdir⟩ := target_eq_ok htarget
    subst h
    rw [read, hnul, resolve_put _ hdir hresolve]
    simp [get?_put]

end LineScript.Files.FileTree

namespace LineScript

theorem Session.write_files (s : Session) (text : String) : (s.write text).files = s.files := by
  unfold Session.write
  split <;> rfl

/-- The run of a script whose lines are known. -/
theorem Host.runFile_of_readLines {host : Host} {depth : Nat} {path : String}
    {s : Session} {lines : List String} (h : s.files.readLines path = .ok lines) :
    host.runFile depth path s = runLines host (callNamed host depth) path lines s := by
  have hfile := Files.FileTree.pathIsFile_of_readLines h
  change (if (!s.files.pathIsFile path) = true then _ else
    Run.ofResult (s.files.readLines path) >>= _ : Run (Option Value)) s = _
  rw [hfile, h]
  rfl

/-- A path without lines is reported or fails, whatever the depth is. -/
theorem Host.runFile_of_readLines_error {host : Host} {path : String} {s : Session} {f : Fault}
    (h : s.files.readLines path = .error f) (depth : Nat) :
    host.runFile depth path s =
      if s.files.pathIsFile path then (.failed f, s)
      else (.done none, s.write ("File not found: " ++ path ++ "\n")) := by
  change (if (!s.files.pathIsFile path) = true then _ else
    Run.ofResult (s.files.readLines path) >>= _ : Run (Option Value)) s = _
  rw [h]
  cases s.files.pathIsFile path with
  | true => rfl
  | false => rfl

end LineScript
