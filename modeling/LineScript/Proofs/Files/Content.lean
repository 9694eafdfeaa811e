import LineScript.Proofs.Loop
import LineScript.Proofs.Simulation
import LineScript.Proofs.Text.Visible
import Mathlib

/-!
# What is written is read back

A file that a script has written holds the printed form of a value. Reading the file turns every kind of line
end into one, so a text with a carriage return comes back changed. Nothing else does: the printed form of
a value that is no text has no characters below the blank.
-/

namespace LineScript

/-! ## Printed forms -/

open Text

/-- The written form of a value inside a larger one has nothing below the blank in it. -/
theorem Value.visible_of_shown? {v : Value} {text : String} (h : v.shown? = some text) :
    Visible text.toList := by
  cases v with
  | none => cases h; simp
  | bool b => cases h; cases b <;> simp [boolText]
  | int n =>
    simp only [shown?] at h
    split at h
    · cases h
      exact Number.visible_decimalText n
    · cases h
  | float x =>
    cases h
    rw [Number.floatText, String.toList_ofList]
    exact Number.visible_shortestText (by simp) x
  | complex re im =>
    cases h
    exact Number.visible_complexText re im
  | str s =>
    cases h
    rw [quoted, String.toList_ofList]
    refine visible_enquote (fun c hc => ?_) _
    unfold isPrintable at hc
    split at hc
    · simp only [Bool.and_eq_true, decide_eq_true_eq] at hc
      exact hc.1
    · omega
  | bytes b =>
    cases h
    rw [quotedBytes, String.toList_ofList]
    refine visible_cons.mpr ⟨by decide, visible_enquote (fun c hc => ?_) _⟩
    simp only [Bool.and_eq_true, decide_eq_true_eq] at hc
    exact hc.1
  | ellipsis => cases h; simp
  | table => cases h; simp
  | builtin f => cases h; cases f <;> simp [builtinText, Builtin.kind, Builtin.name]

/-! ## Writing and reading -/

/-- The value is a path, with the form in which messages show it. -/
def Value.IsPath (file : Value) : Prop :=
  ∃ p shown, file.toHandle = .ok (.path p shown)

/-- A write that comes to its end has put the printed form of the value where the path leads, and has
changed nothing but the files. -/
theorem writeFile_eq_done {file v r : Value} {p shown : String} {s s' : Session}
    (hpath : file.toHandle = .ok (.path p shown)) (h : writeFile file v s = (.done r, s')) :
    ∃ text, v.printed = .ok text ∧ s'.files.read p = .ok (Utf8.encode text) ∧
      s' = { s with files := s'.files } := by
  rw [writeFile, hpath] at h
  obtain ⟨_, _, ⟨⟩, hempty⟩ := Run.bind_eq_done h
  obtain ⟨_, _, ⟨⟩, hempty⟩ := Run.bind_eq_done hempty
  obtain ⟨emptied, -, hprint⟩ := Run.ofResult_bind_eq_done hempty
  -- The text is made when the file has been emptied.
  obtain ⟨_, _, ⟨⟩, hprint⟩ := Run.bind_eq_done hprint
  obtain ⟨text, htext, hfill⟩ := Run.ofResult_bind_eq_done hprint
  obtain ⟨written, hwritten, hlast⟩ := Run.ofResult_bind_eq_done hfill
  cases hlast
  exact ⟨text, htext, Files.FileTree.read_of_write hwritten, rfl⟩

theorem readFile_of_read {file : Value} {p shown text : String} {s : Session}
    (hpath : file.toHandle = .ok (.path p shown)) (h : s.files.read p = .ok (Utf8.encode text)) :
    readFile file s = (.done (.str (String.ofList (unifyNewlines text.toList))), s) := by
  rw [readFile, hpath]
  change Run.ofResult (((s.files.readText p).mapError (·.withPath shown)).map Value.str) s = _
  rw [Files.FileTree.readText_of_read h]
  rfl

/-- What `writefile` has written for a value, `readfile` gives back with the line ends unified. -/
theorem readfile_of_writefile {depth : Nat} {path v r : Value} {s s' : Session} (hpath : path.IsPath)
    (hwriter : s.funcs.get? "writefile" = none) (hreader : s.funcs.get? "readfile" = none)
    (hwrite : callNamed .standard depth "writefile" [path, v] s = (.done r, s')) :
    ∃ text, v.printed = .ok text ∧
      callNamed .standard depth "readfile" [path] s' =
        (.done (.str (String.ofList (unifyNewlines text.toList))), s') := by
  rw [callNamed_of_none hwriter] at hwrite
  obtain ⟨p, shown, hpath⟩ := hpath
  obtain ⟨text, htext, hfile, hs'⟩ := writeFile_eq_done hpath hwrite
  refine ⟨text, htext, ?_⟩
  rw [callNamed_of_none (hs' ▸ hreader)]
  exact readFile_of_read hpath hfile

theorem ofList_unifyNewlines_eq_self_iff {text : String} :
    String.ofList (unifyNewlines text.toList) = text ↔ '\r' ∉ text.toList := by
  constructor
  · intro h hreturn
    rw [← h, String.toList_ofList] at hreturn
    exact not_mem_unifyNewlines _ hreturn
  · intro h
    rw [unifyNewlines_eq_self h, String.ofList_toList]

theorem Value.shown?_of_printed {v : Value} {text : String} (h : v.printed = .ok text)
    (hv : ∀ t, v ≠ .str t) : v.shown? = some text := by
  have htext : v.text? = v.shown? := by
    cases v with
    | str t => exact absurd rfl (hv t)
    | _ => rfl
  rw [printed, htext] at h
  cases hshown : v.shown? with
  | none => simp [hshown] at h
  | some text' => simpa [hshown] using h

/-- What a script has written is read back, if it has no functions of its own in place of the two builtins. A
call of `writefile` that gives a value leaves a file at the path, and `readfile` gives what `str` makes of the
value written, with every kind of line end turned into one. That is the same text exactly if no carriage return
is in it, as in the text of every value that is not a text itself. -/
theorem written_value_read_back (depth : Nat) {path v r : Value} {s s' : Session} (hpath : path.IsPath)
    (hwriter : s.funcs.get? "writefile" = none) (hreader : s.funcs.get? "readfile" = none)
    (hwrite : callNamed .standard depth "writefile" [path, v] s = (.done r, s')) :
    ∃ text, Value.strOf [v] = .ok (.str text) ∧
      callNamed .standard depth "readfile" [path] s' =
        (.done (.str (String.ofList (unifyNewlines text.toList))), s') ∧
      (callNamed .standard depth "readfile" [path] s' = (.done (.str text), s') ↔ '\r' ∉ text.toList) ∧
      ((∀ t, v ≠ .str t) → callNamed .standard depth "readfile" [path] s' = (.done (.str text), s')) := by
  obtain ⟨text, htext, hread⟩ := readfile_of_writefile hpath hwriter hreader hwrite
  have hiff : callNamed .standard depth "readfile" [path] s' = (.done (.str text), s') ↔
      '\r' ∉ text.toList := by
    rw [hread, ← ofList_unifyNewlines_eq_self_iff]
    simp
  refine ⟨text, ?_, hread, hiff, ?_⟩
  · rw [Value.strOf, htext]
    rfl
  · intro hv
    exact hiff.mpr (Value.visible_of_shown? (Value.shown?_of_printed htext hv)).return_not_mem

/-- Bytes are read back as they are shown, with the carriage return escaped. -/
theorem return_byte_read_back :
    ∃ r s', callNamed .standard 0 "writefile" [.str "f", .bytes [13]] .fresh = (.done r, s') ∧
      callNamed .standard 0 "readfile" [.str "f"] s' = (.done (.str "b'\\r'"), s') := by
  obtain ⟨r, s', hwrite⟩ := Outcome.exists_of_isDone
    (o := callNamed .standard 0 "writefile" [.str "f", .bytes [13]] .fresh) (by decide +kernel)
  obtain ⟨text, htext, -, -, hread⟩ := written_value_read_back 0 ⟨_, _, rfl⟩ rfl rfl hwrite
  have hstr : Value.strOf [.bytes [13]] = .ok (.str (quotedBytes [13])) := rfl
  have hshown : quotedBytes [13] = "b'\\r'" := by decide +kernel
  rw [hstr, hshown] at htext
  cases htext
  refine ⟨r, s', hwrite, hread ?_⟩
  intro t h
  cases h

/-- A carriage return in a text is read back as a line end. -/
theorem return_read_back_as_newline :
    ∃ r s', callNamed .standard 0 "writefile" [.str "f", .str "a\rb"] .fresh = (.done r, s') ∧
      Value.strOf [.str "a\rb"] = .ok (.str "a\rb") ∧
      callNamed .standard 0 "readfile" [.str "f"] s' = (.done (.str "a\nb"), s') := by
  obtain ⟨r, s', hwrite⟩ := Outcome.exists_of_isDone
    (o := callNamed .standard 0 "writefile" [.str "f", .str "a\rb"] .fresh) (by decide +kernel)
  obtain ⟨text, htext, hread⟩ := readfile_of_writefile ⟨_, _, rfl⟩ rfl rfl hwrite
  cases htext
  exact ⟨r, s', hwrite, rfl, hread⟩

end LineScript
