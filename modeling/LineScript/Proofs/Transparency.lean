import LineScript.Proofs.Frame
import Mathlib

/-!
# The debugger only watches

A debugged run and the same run without breakpoints and stepping end the same way, with the same
variables, functions and files. Four things have to be ruled out, and a host with an alarm says what
they are: the script asks for a line of input, which a dialogue may have taken; it opens a stream, from
which a dialogue may have taken the lines; a pause does not end with an action; a pause leaves a watch
that calls something.
-/

namespace LineScript

open Run

def Debugger.CallFree (d : Debugger) : Prop :=
  ∀ w ∈ d.watches, textCallees w = []

instance (d : Debugger) : Decidable d.CallFree :=
  inferInstanceAs (Decidable (∀ w ∈ d.watches, textCallees w = []))

/-- The debugger without breakpoints and stepping. -/
def Debugger.disarmed (d : Debugger) : Debugger :=
  { d with lines := [], places := [], singleStep := false }

/-- Run `m`, and fail with an alarm if it does not end with a value, or leaves a watch that calls
something. -/
def Run.guarded (alarm : Fault) (m : Run α) : Run α := fun s =>
  match m s with
  | (.done a, t) => if t.debugger.CallFree then (.done a, t) else (.failed alarm, t)
  | (_, t) => (.failed alarm, t)

/-- The value is the number of a stream. -/
def Value.namesStream (v : Value) : Bool :=
  match v.toHandle with
  | .ok (.stream n) => n ≤ 2
  | _ => false

/-- The call asks for a line of input, or opens a stream by its number. -/
def Builtin.usesStream : Builtin → List Value → Bool
  | .input, _ => true
  | .readfile, [file] => file.namesStream
  | .writefile, [file, _] => file.namesStream
  | _, _ => false

/-- The standard host with an alarm on what uses a stream and on the pauses. -/
def Host.alarmed (alarm : Fault) : Host where
  builtin b args := if b.usesStream args then Run.fail alarm else b.call args
  beforeLine call p line := (pauseIfAsked call p line).guarded alarm

/-! ## Watches without calls -/

/-- A text without calls means the same for all callers. -/
theorem evalText_eq_of_callFree {text : String} (h : textCallees text = []) (call₁ call₂ : Caller) :
    evalText call₁ text = evalText call₂ text := by
  have hmatch : Matches (fun _ => False) Eq (evalText call₁ text) (evalText call₂ text) :=
    evalText_matches (by rintro s _ rfl; exact ⟨rfl, rfl⟩) (by simp [h])
  funext s
  rcases hmatch (Eq.refl s) with ⟨f, hf, -⟩ | ⟨hsame, hafter⟩
  · exact hf.elim
  · exact Prod.ext hsame hafter

theorem showWatches_eq_of_callFree {watches : List String} (h : ∀ w ∈ watches, textCallees w = [])
    (call₁ call₂ : Caller) : showWatches call₁ watches = showWatches call₂ watches := by
  induction watches with
  | nil => rfl
  | cons w ws ih =>
    have hw : evalText call₁ w = evalText call₂ w :=
      evalText_eq_of_callFree (h w List.mem_cons_self) call₁ call₂
    simp only [showWatches, showWatch, hw, ih fun w hw => h w (List.mem_cons_of_mem _ hw)]

theorem listWatches_eq_of_callFree {watches : List String} (h : ∀ w ∈ watches, textCallees w = [])
    (call₁ call₂ : Caller) : listWatches call₁ watches = listWatches call₂ watches := by
  simp only [listWatches, showWatches_eq_of_callFree h call₁ call₂]

/-- A pause with such watches is the same for all callers. -/
theorem pauseIfAsked_eq_of_callFree {s : Session} (h : s.debugger.CallFree) (call₁ call₂ : Caller)
    (p : Place) (line : String) :
    pauseIfAsked call₁ p line s = pauseIfAsked call₂ p line s := by
  have hpause : pauseAt call₁ p.source p.lineNumber line s =
      pauseAt call₂ p.source p.lineNumber line s := by
    rw [pauseAt_eq, pauseAt_eq, listWatches_eq_of_callFree h call₁ call₂]
  cases hpauses : s.debugger.pausesAt p.source p.lineNumber with
  | true =>
    rw [pauseIfAsked_of_pausesAt hpauses, pauseIfAsked_of_pausesAt hpauses]
    simp only [Bind.bind, Run.bind, hpause]
  | false => rw [pauseIfAsked_of_not_pausesAt hpauses, pauseIfAsked_of_not_pausesAt hpauses]

/-- A guarded run ends as the run itself, without calls in the watches, or it gives the alarm. -/
theorem Run.guarded_cases (alarm : Fault) (m : Run α) (s : Session) :
    (m.guarded alarm s).1 = .failed alarm ∨
      (∃ a, (m s).1 = .done a) ∧ m.guarded alarm s = m s ∧ (m s).2.debugger.CallFree := by
  unfold Run.guarded
  split
  · rename_i a t hm
    split
    · exact .inr ⟨⟨a, by rw [hm]⟩, hm.symm, by rwa [hm]⟩
    · exact .inl rfl
  · exact .inl rfl

/-! ## A run beside the one with the alarm -/

/-- What a run shows in the end, apart from its dialogue. -/
structure Visible where
  vars : Table Value
  funcs : Table Function
  globals : Table Value
  silent : Bool
  files : Files.FileTree

def Session.visible (s : Session) : Visible :=
  ⟨s.vars, s.funcs, s.globals, s.silent, s.files⟩

theorem Session.write_visible (s : Session) (text : String) :
    (s.write text).visible = s.visible := by
  unfold Session.write
  split <;> rfl

/-- The second session belongs to a run beside the first one's: one with the same dialogue, or one
without any. -/
structure Beside (s₁ s₂ : Session) : Prop where
  visible : s₂.visible = s₁.visible
  callFree : s₁.debugger.CallFree
  same_or_off : s₂ = s₁ ∨ s₂.debugger.Off

namespace Beside

variable {s₁ s₂ t₁ t₂ : Session}

theorem files_eq (h : Beside s₁ s₂) : s₂.files = s₁.files :=
  congrArg Visible.files h.visible

/-- A change made on both sides, by what is visible. -/
theorem update (f : Session → Session) (hvisible : (f s₂).visible = (f s₁).visible)
    (hdebugger : ∀ s, (f s).debugger = s.debugger) (h : Beside s₁ s₂) : Beside (f s₁) (f s₂) where
  visible := hvisible
  callFree := by
    rw [hdebugger]
    exact h.callFree
  same_or_off := by
    rw [hdebugger]
    exact h.same_or_off.imp_left fun hsame => by rw [hsame]

theorem setFiles (files : Files.FileTree) (h : Beside s₁ s₂) :
    Beside { s₁ with files := files } { s₂ with files := files } :=
  h.update ({ · with files := files }) (congrArg ({ · with files := files }) h.visible) fun _ => rfl

theorem leave (h : Beside s₁ s₂) (ht : Beside t₁ t₂) : Beside (t₁.leave s₁) (t₂.leave s₂) := by
  have hvars : s₂.vars = s₁.vars := congrArg Visible.vars h.visible
  refine ⟨?_, ht.callFree, ?_⟩
  · simp only [Session.leave, hvars]
    exact congrArg ({ · with vars := s₁.vars }) ht.visible
  · rcases ht.same_or_off with rfl | hoff
    · exact .inl (by simp only [Session.leave, hvars])
    · exact .inr hoff

theorem respected : RespectedByCalls (fun _ => True) Beside where
  names := fun _ _ h => ⟨congrArg Visible.vars h.visible.symm, congrArg Visible.globals h.visible.symm⟩
  silent := fun h => congrArg Visible.silent h.visible.symm
  funcs := fun h => congrArg Visible.funcs h.visible.symm
  callsOnly := fun _ _ _ _ _ _ _ => trivial
  setVars := fun vars h =>
    h.update ({ · with vars := vars }) (congrArg ({ · with vars := vars }) h.visible) fun _ => rfl
  setFunc := fun name f h _ =>
    h.update (fun s => { s with funcs := s.funcs.set name f })
      (congrArg (fun v => { v with funcs := v.funcs.set name f }) h.visible) fun _ => rfl
  write := fun text h =>
    h.update (·.write text) (by simp only [Session.write_visible, h.visible]) (by simp)
  enter := fun f args h =>
    h.update (·.enter f args)
      (congrArg (fun v => { v with vars := bindParams v.vars f.params args }) h.visible) fun _ => rfl
  leave := leave

end Beside

/-- A pause leaves what is visible as it was. -/
theorem pauseIfAsked_visible {s : Session} (h : s.debugger.CallFree) (call : Caller) (p : Place)
    (line : String) : (pauseIfAsked call p line s).2.visible = s.visible :=
  pauseIfAsked_keeps (fun _ _ _ _ _ => rfl) p line fun w hw => evalText_keeps (by simp [h w hw])

theorem sharesFiles : SharesFiles Beside where
  files := fun h => h.files_eq.symm
  setFiles := fun files h => h.setFiles files

/-- Other numbers are those of no stream. -/
theorem openStream_of_not_namesStream {file : Value} {n : Nat} (h : file.namesStream = false)
    (hn : file.toHandle = .ok (.stream n)) : openStream n = Run.fail .descriptor := by
  rw [Value.namesStream, hn] at h
  have hlarge : decide (n ≤ 2) = false := h
  funext s
  rw [openStream_eq, Streams.opens, hlarge]
  rfl

/-- A call that uses no stream does the same on both sides. -/
theorem call_matches_of_not_usesStream {b : Builtin} {args : List Value} (hb : b.usesStream args = false) :
    Matches (· = alarm) Beside (b.call args) (b.call args) := by
  refine Builtin.call_matches b args ?_ ?_ ?_
  · rintro rfl file rfl
    refine readFile_matches sharesFiles.files file fun n hn => ?_
    rw [readStream, openStream_of_not_namesStream hb hn]
    exact (Matches.fail Fault.descriptor : Matches _ _ (Run.fail .descriptor : Run Value) _)
  · rintro rfl file content rfl
    refine writeFile_matches sharesFiles file content fun n hn => ?_
    rw [openStream_of_not_namesStream hb hn]
    exact .fail _
  · rintro rfl
    cases hb

/-- As long as the alarm is not given, the runs beside the one with the alarm go on as it does. -/
theorem hostsMatch_alarmed (alarm : Fault) :
    HostsMatch (· = alarm) (fun _ => True) Beside (.alarmed alarm) .standard where
  toRespectedByCalls := Beside.respected
  builtin := by
    intro b _ args s₁ s₂ h
    cases hb : b.usesStream args with
    | true => exact .inl ⟨alarm, rfl, by simp only [Host.alarmed, hb]; rfl⟩
    | false =>
      have hcall : (Host.alarmed alarm).builtin b args = b.call args := by
        simp only [Host.alarmed, hb]
        rfl
      rw [hcall]
      exact call_matches_of_not_usesStream hb h
  before := by
    intro call₁ call₂ p line s₁ s₂ h
    rcases Run.guarded_cases alarm (pauseIfAsked call₁ p line) s₁ with
      halarm | ⟨⟨_, hdone⟩, hguarded, hafter⟩
    · exact .inl ⟨alarm, rfl, halarm⟩
    · refine .inr ?_
      change (Run.guarded alarm (pauseIfAsked call₁ p line) s₁).1 = (pauseIfAsked call₂ p line s₂).1 ∧
        Beside (Run.guarded alarm (pauseIfAsked call₁ p line) s₁).2 (pauseIfAsked call₂ p line s₂).2
      rw [hguarded]
      rcases h.same_or_off with rfl | hoff
      · -- The same dialogue: the pauses differ in the caller only, and no watch calls.
        rw [pauseIfAsked_eq_of_callFree h.callFree call₂ call₁]
        exact ⟨rfl, rfl, hafter, .inl rfl⟩
      · -- No dialogue: one side pauses and ends with an action, the other goes on.
        rw [pauseIfAsked_of_off hoff]
        exact ⟨hdone, h.visible.trans (pauseIfAsked_visible h.callFree call₁ p line).symm, hafter,
          .inr hoff⟩

/-! ## Transparency -/

/-- If no watch calls anything and the alarm is not given, a debugged run ends the same way as the run
without breakpoints and stepping, with the same variables, functions and files. -/
theorem debugged_run_eq_disarmed_run (depth : Nat) (path : String) (s : Session) (alarm : Fault)
    (watches : s.debugger.CallFree)
    (quiet : ((Host.alarmed alarm).runFile depth path s).1 ≠ .failed alarm) :
    let debugged := Host.standard.runFile depth path s
    let plain := Host.standard.runFile depth path { s with debugger := s.debugger.disarmed }
    debugged.1 = plain.1 ∧ debugged.2.vars = plain.2.vars ∧ debugged.2.funcs = plain.2.funcs ∧
      debugged.2.files = plain.2.files := by
  have hfollow : ∀ t, Beside s t → s.files = t.files →
      ((Host.alarmed alarm).runFile depth path s).1 = (Host.standard.runFile depth path t).1 ∧
      Beside ((Host.alarmed alarm).runFile depth path s).2 (Host.standard.runFile depth path t).2 := by
    intro t h hfiles
    have hentry : s.files.entry? path = t.files.entry? path := by rw [hfiles]
    rcases (hostsMatch_alarmed alarm).runFile depth h hentry fun _ _ _ _ _ _ => trivial with
      ⟨_, rfl, halarm⟩ | hsame
    · exact absurd halarm quiet
    · exact hsame
  obtain ⟨houtcome, hafter⟩ := hfollow s ⟨rfl, watches, .inl rfl⟩ rfl
  obtain ⟨houtcome', hafter'⟩ := hfollow { s with debugger := s.debugger.disarmed }
    ⟨rfl, watches, .inr ⟨rfl, rfl, rfl⟩⟩ rfl
  have hvisible := hafter.visible.trans hafter'.visible.symm
  exact ⟨houtcome.symm.trans houtcome', congrArg Visible.vars hvisible,
    congrArg Visible.funcs hvisible, congrArg Visible.files hvisible⟩

/-- The script at the path `p` calls a function of its session. There is a breakpoint at its first
line, and the dialogue adds a watch, steps into the function and moves the breakpoint. -/
def stepping : Session :=
  { Session.fresh with
    funcs := [("double", ⟨["n"], ["return n * 2"]⟩)]
    debugger := { Debugger.idle with lines := [1], watches := ["x + 1"] }
    input := ["watch x * 2", "s", "b 3", "del 1", "n", "vars", "c"]
    files := (Files.FileTree.empty Files.work).put ["work", "p"]
      (.file (Text.Utf8.encode "stryset x (2)\nstryset y (double(x))\nreturn y + 1\n")) }

theorem stepping_lines : stepping.files.readLines "p" =
    .ok ["stryset x (2)\n", "stryset y (double(x))\n", "return y + 1\n"] := by
  cbv

theorem stepping_run_eq_disarmed_run :
    (Host.standard.runFile 2 "p" stepping).1 =
      (Host.standard.runFile 2 "p" { stepping with debugger := stepping.debugger.disarmed }).1 := by
  have hquiet : ((Host.alarmed .missingEnd).runFile 2 "p" stepping).1 ≠ .failed .missingEnd := by
    intro halarm
    rw [Host.runFile_of_readLines stepping_lines] at halarm
    have hdone : ((runLines (.alarmed .missingEnd) (callNamed (.alarmed .missingEnd) 2) "p"
        ["stryset x (2)\n", "stryset y (double(x))\n", "return y + 1\n"] stepping).1
          matches .done _) = true := by
      decide +kernel
    rw [halarm] at hdone
    exact absurd hdone (by decide)
  exact (debugged_run_eq_disarmed_run 2 "p" stepping .missingEnd (by decide +kernel) hquiet).1

/-- The script at the path `p` reads the stream of the input. There is a breakpoint at its first line. -/
def readingInput : Session :=
  { Session.fresh with
    debugger := { Debugger.idle with lines := [1] }
    input := ["c", "hello"]
    files := (Files.FileTree.empty Files.work).put ["work", "p"]
      (.file (Text.Utf8.encode "stryset a (1)\nstryset x (readfile(0))\n")) }

theorem readingInput_lines : readingInput.files.readLines "p" =
    .ok ["stryset a (1)\n", "stryset x (readfile(0))\n"] := by
  cbv

/-- The dialogue has taken the lines that the script reads without it. -/
theorem dialogue_takes_stream :
    readingInput.debugger.CallFree ∧
    ((Host.standard.runFile 1 "p" readingInput).2.vars.get? "x").bind (·.text?) = some "" ∧
    ((Host.standard.runFile 1 "p" { readingInput with debugger := readingInput.debugger.disarmed }).2.vars.get?
      "x").bind (·.text?) = some "c\nhello\n" := by
  have hlines : { readingInput with debugger := readingInput.debugger.disarmed }.files.readLines "p" =
      .ok ["stryset a (1)\n", "stryset x (readfile(0))\n"] := readingInput_lines
  rw [Host.runFile_of_readLines readingInput_lines, Host.runFile_of_readLines hlines]
  decide +kernel

end LineScript
