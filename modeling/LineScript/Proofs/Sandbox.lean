import LineScript.Proofs.Frame
import Mathlib

/-!
# Files out of reach

Files are reached by calls of two builtins by name and in no other way: a builtin that is a value of a
variable or an argument is never called. A script that does not call `writefile` changes no file, and
one that does not call `readfile` either does the same whatever the other files are.
-/

namespace LineScript

open Run

/-- The second session is the first one, whose files are `files`, with other files instead. The
debugger is off, and the functions call only what is allowed. -/
structure Apart (allowed : String → Prop) (files other : Files.FileTree) (s₁ s₂ : Session) : Prop where
  files_eq : s₁.files = files
  other_eq : s₂ = { s₁ with files := other }
  off : s₁.debugger.Off
  callsOnly : s₁.CallsOnly allowed

variable {allowed : String → Prop} {files other : Files.FileTree}

theorem Apart.write {s₁ s₂ : Session} (text : String) (h : Apart allowed files other s₁ s₂) :
    Apart allowed files other (s₁.write text) (s₂.write text) := by
  obtain ⟨rfl, rfl, hoff, hcalls⟩ := h
  unfold Session.write
  dsimp only
  split
  · exact ⟨rfl, rfl, hoff, hcalls⟩
  · exact ⟨rfl, rfl, hoff, hcalls⟩

theorem respected_apart : RespectedByCalls allowed (Apart allowed files other) where
  names := by
    rintro s₁ _ ⟨-, rfl, -, -⟩
    exact ⟨rfl, rfl⟩
  silent := by
    rintro s₁ _ ⟨-, rfl, -, -⟩
    rfl
  funcs := by
    rintro s₁ _ ⟨-, rfl, -, -⟩
    rfl
  callsOnly := fun h => h.callsOnly
  setVars := by
    rintro s₁ _ vars ⟨rfl, rfl, hoff, hcalls⟩
    exact ⟨rfl, rfl, hoff, hcalls⟩
  setFunc := by
    rintro s₁ _ name f ⟨rfl, rfl, hoff, hcalls⟩ hf
    exact ⟨rfl, rfl, hoff, hcalls.set hf⟩
  write := fun text h => h.write text
  enter := by
    rintro s₁ _ f args ⟨rfl, rfl, hoff, hcalls⟩
    exact ⟨rfl, rfl, hoff, hcalls⟩
  leave := by
    rintro s₁ _ t₁ _ ⟨-, rfl, -, -⟩ ⟨rfl, rfl, hoff, hcalls⟩
    exact ⟨rfl, rfl, hoff, hcalls⟩

theorem sharesInput_apart : SharesInput (Apart allowed files other) where
  input := by
    rintro s₁ _ ⟨-, rfl, -, -⟩
    rfl
  streams := by
    rintro s₁ _ ⟨-, rfl, -, -⟩
    rfl
  setInput := by
    rintro s₁ _ input streams ⟨rfl, rfl, hoff, hcalls⟩
    exact ⟨rfl, rfl, hoff, hcalls⟩

/-- The builtins that are allowed do not tell the files apart: none writes, and if one reads, the files
are the same. -/
theorem hostsMatch_apart (hwrite : ¬ allowed "writefile")
    (hread : allowed "readfile" → other = files) :
    HostsMatch (fun _ => False) allowed (Apart allowed files other) .standard .standard where
  toRespectedByCalls := respected_apart
  builtin := by
    intro b hb args
    refine Builtin.call_matches b args (fun hb' file _ => ?_) (fun hb' => ?_) fun _ => ?_
    · subst hb'
      refine readFile_matches (fun h => ?_) file fun n _ => readStream_matches sharesInput_apart n
      -- Reading is allowed only if both sides have the same files.
      rw [h.other_eq, h.files_eq, hread hb]
    · subst hb'
      exact absurd hb hwrite
    · exact askLine_matches sharesInput_apart fun _ _ text h => h.write text
  before := by
    rintro call₁ call₂ p line s₁ s₂ h
    obtain ⟨hfiles, hother, hoff, hcalls⟩ := h
    have hoff₂ : s₂.debugger.Off := by
      rw [hother]
      exact hoff
    refine .inr ?_
    change (pauseIfAsked call₁ p line s₁).1 = (pauseIfAsked call₂ p line s₂).1 ∧
      Apart allowed files other (pauseIfAsked call₁ p line s₁).2 (pauseIfAsked call₂ p line s₂).2
    rw [pauseIfAsked_of_off hoff, pauseIfAsked_of_off hoff₂]
    exact ⟨rfl, hfiles, hother, hoff, hcalls⟩

/-! ## Runs with other files -/

/-- With other files a run ends the same way and leaves the same session behind, these files apart. -/
def Run.IgnoresFiles (m : Run α) (s : Session) (other : Files.FileTree) : Prop :=
  m { s with files := other } = ((m s).1, { (m s).2 with files := other })

theorem apart_start {s : Session} (hoff : s.debugger.Off) (hcalls : s.CallsOnly allowed) :
    Apart allowed s.files other s { s with files := other } :=
  ⟨rfl, rfl, hoff, hcalls⟩

theorem Run.MatchesAt.files_eq {m : Run α} {s : Session}
    (h : MatchesAt (fun _ => False) (Apart allowed s.files other) m m s { s with files := other }) :
    (m s).2.files = s.files := by
  rcases h with ⟨f, hf, -⟩ | ⟨-, hafter⟩
  · exact hf.elim
  · exact hafter.files_eq

theorem Run.MatchesAt.ignoresFiles {m : Run α} {s : Session}
    (h : MatchesAt (fun _ => False) (Apart allowed s.files other) m m s { s with files := other }) :
    m.IgnoresFiles s other := by
  rcases h with ⟨f, hf, -⟩ | ⟨hsame, hafter⟩
  · exact hf.elim
  · exact Prod.ext hsame.symm hafter.other_eq

/-- The names by which a script reaches files. -/
def fileCalls : List String := ["writefile", "readfile"]

/-- With the debugger off: without calls of `writefile` in the script and in the functions of the
session no run changes a file. Without calls of `readfile` either, a run does not depend on the files,
apart from the script itself. -/
theorem files_untouched_without_file_calls (depth : Nat) (s : Session) (off : s.debugger.Off) :
    (s.CallsOnly (· ≠ "writefile") →
      (∀ path, (∀ lines, s.files.readLines path = .ok lines → CallsOnly (· ≠ "writefile") lines) →
        (Host.standard.runFile depth path s).2.files = s.files) ∧
      (∀ text, "writefile" ∉ textCallees text →
        (Host.standard.evaluate depth text s).2.files = s.files) ∧
      (∀ name args, (Host.standard.callFunction depth name args s).2.files = s.files)) ∧
    (s.CallsOnly (· ∉ fileCalls) → ∀ other : Files.FileTree,
      (∀ path, (∀ lines, s.files.readLines path = .ok lines → CallsOnly (· ∉ fileCalls) lines) →
        s.files.entry? path = other.entry? path →
        (Host.standard.runFile depth path).IgnoresFiles s other) ∧
      (∀ text, (∀ name ∈ fileCalls, name ∉ textCallees text) →
        (Host.standard.evaluate depth text).IgnoresFiles s other) ∧
      (∀ name args, (Host.standard.callFunction depth name args).IgnoresFiles s other)) := by
  constructor
  · intro hcalls
    -- The same files on both sides, so that reading is allowed.
    have hmatch : HostsMatch (fun _ => False) (· ≠ "writefile")
        (Apart (· ≠ "writefile") s.files s.files) .standard .standard :=
      hostsMatch_apart (by simp) fun _ => rfl
    have hstart : Apart (· ≠ "writefile") s.files s.files s s := apart_start off hcalls
    refine ⟨fun path hlines => ?_, fun text htext => ?_, fun name args => ?_⟩
    · exact (hmatch.runFile depth hstart rfl hlines).files_eq
    · refine (hmatch.evaluate depth ?_ hstart).files_eq
      rintro name hname rfl
      exact htext hname
    · exact (hmatch.callFunction depth name args hstart).files_eq
  · intro hcalls other
    have hmatch : HostsMatch (fun _ => False) (· ∉ fileCalls)
        (Apart (· ∉ fileCalls) s.files other) .standard .standard :=
      hostsMatch_apart (by simp [fileCalls]) (by simp [fileCalls])
    have hstart : Apart (· ∉ fileCalls) s.files other s { s with files := other } :=
      apart_start off hcalls
    refine ⟨fun path hlines hentry => ?_, fun text htext => ?_, fun name args => ?_⟩
    · exact (hmatch.runFile depth hstart hentry hlines).ignoresFiles
    · exact (hmatch.evaluate depth (fun name hname hfile => htext name hfile hname) hstart).ignoresFiles
    · exact (hmatch.callFunction depth name args hstart).ignoresFiles

/-- A script that stores a builtin in a variable and hands it to a function, which stores it again. -/
def aliasingScript : String :=
  "stryset w (writefile)\nstryset y (hand(w, readfile))\nreturn max(y, 2)\n"

/-- The script at the path `p`, and the function that it calls. -/
def aliasing : Session :=
  { Session.fresh with
    funcs := [("hand", ⟨["f", "g"], ["stryset h (f)", "stryset w (g)", "return 1"]⟩)]
    files := (Files.FileTree.empty Files.work).put ["work", "p"]
      (.file (Text.Utf8.encode aliasingScript)) }

theorem aliasing_lines : aliasing.files.readLines "p" =
    .ok ["stryset w (writefile)\n", "stryset y (hand(w, readfile))\n", "return max(y, 2)\n"] := by
  cbv

theorem files_untouched_by_aliasing :
    (Host.standard.runFile 3 "p" aliasing).2.files = aliasing.files ∧
    (Host.standard.runFile 3 "p").IgnoresFiles aliasing (aliasing.files.put ["work", "q"] .dir) := by
  have hlines : ∀ lines, aliasing.files.readLines "p" = .ok lines →
      CallsOnly (· ∉ fileCalls) lines := by
    intro lines h
    rw [aliasing_lines] at h
    cases h
    decide +kernel
  have hfuncs : aliasing.CallsOnly (· ∉ fileCalls) := by decide +kernel
  have hweaken : ∀ name, name ∉ fileCalls → name ≠ "writefile" := by
    rintro _ h rfl
    exact h List.mem_cons_self
  obtain ⟨hkept, hignored⟩ := files_untouched_without_file_calls 3 aliasing ⟨rfl, rfl, rfl⟩
  constructor
  · exact (hkept (hfuncs.mono hweaken)).1 "p" fun lines h => (hlines lines h).mono hweaken
  · exact (hignored hfuncs _).1 "p" hlines (by cbv)

end LineScript
