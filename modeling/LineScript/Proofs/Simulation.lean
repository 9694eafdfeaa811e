import LineScript.Proofs.Congruence
import LineScript.Proofs.Files

/-!
# Two runs side by side

`Run.Matches alarm R m₁ m₂` relates two runs: from sessions related by `R` both end the same way and
leave sessions related by `R` behind, unless the first one fails with an alarm. All parts of the
interpreter respect the relation, so two whole runs match as soon as the builtins and what happens
before a line do. With equal sessions on both sides this is how an invariant of a single run is
carried through the interpreter.
-/

namespace LineScript

namespace Run

/-- From the two sessions, the runs end the same way and in related sessions, or the first one fails
with an alarm. -/
def MatchesAt (alarm : Fault → Prop) (R : Session → Session → Prop) (m₁ m₂ : Run α)
    (s₁ s₂ : Session) : Prop :=
  (∃ f, alarm f ∧ (m₁ s₁).1 = .failed f) ∨ ((m₁ s₁).1 = (m₂ s₂).1 ∧ R (m₁ s₁).2 (m₂ s₂).2)

def Matches (alarm : Fault → Prop) (R : Session → Session → Prop) (m₁ m₂ : Run α) : Prop :=
  ∀ ⦃s₁ s₂⦄, R s₁ s₂ → MatchesAt alarm R m₁ m₂ s₁ s₂

section Rules

variable {alarm : Fault → Prop} {R : Session → Session → Prop} {α β : Type}

theorem MatchesAt.bind {m₁ m₂ : Run α} {k₁ k₂ : α → Run β} {s₁ s₂ : Session}
    (h : MatchesAt alarm R m₁ m₂ s₁ s₂) (hk : ∀ a, Matches alarm R (k₁ a) (k₂ a)) :
    MatchesAt alarm R (m₁ >>= k₁) (m₂ >>= k₂) s₁ s₂ := by
  unfold MatchesAt at h ⊢
  change _ ∨ ((Run.bind m₁ k₁ s₁).1 = (Run.bind m₂ k₂ s₂).1 ∧ _)
  simp only [Bind.bind, Run.bind]
  rcases hm₁ : m₁ s₁ with ⟨o₁, t₁⟩
  rcases hm₂ : m₂ s₂ with ⟨o₂, t₂⟩
  simp only [hm₁, hm₂] at h
  rcases h with ⟨f, hf, rfl⟩ | ⟨rfl, hR⟩
  · -- An alarm of the first part is one of the whole.
    exact .inl ⟨f, hf, rfl⟩
  · cases o₁ with
    | done a => exact hk a hR
    | failed f => exact .inr ⟨rfl, hR⟩
    | unfinished => exact .inr ⟨rfl, hR⟩

/-- Without alarms, both runs end the same way. -/
theorem MatchesAt.same {m₁ m₂ : Run α} {s₁ s₂ : Session}
    (h : MatchesAt (fun _ => False) R m₁ m₂ s₁ s₂) :
    (m₁ s₁).1 = (m₂ s₂).1 ∧ R (m₁ s₁).2 (m₂ s₂).2 := by
  rcases h with ⟨_, hfalse, -⟩ | hsame
  · exact hfalse.elim
  · exact hsame

/-- Runs that first look at the session they start in. -/
theorem MatchesAt.get_bind {k₁ k₂ : Session → Run α} {s₁ s₂ : Session}
    (h : MatchesAt alarm R (k₁ s₁) (k₂ s₂) s₁ s₂) :
    MatchesAt alarm R (Run.get >>= k₁) (Run.get >>= k₂) s₁ s₂ :=
  h

namespace Matches

theorem pure (a : α) : Matches alarm R (Pure.pure a) (Pure.pure a) :=
  fun _ _ h => .inr ⟨rfl, h⟩

theorem fail (f : Fault) : Matches alarm R (Run.fail f : Run α) (Run.fail f) :=
  fun _ _ h => .inr ⟨rfl, h⟩

theorem giveUp : Matches alarm R (Run.giveUp : Run α) Run.giveUp :=
  fun _ _ h => .inr ⟨rfl, h⟩

theorem ofResult (r : Result α) : Matches alarm R (Run.ofResult r) (Run.ofResult r) := by
  cases r with
  | ok a => exact Matches.pure a
  | error f => exact Matches.fail f

theorem bind {m₁ m₂ : Run α} {k₁ k₂ : α → Run β} (h : Matches alarm R m₁ m₂)
    (hk : ∀ a, Matches alarm R (k₁ a) (k₂ a)) : Matches alarm R (m₁ >>= k₁) (m₂ >>= k₂) :=
  fun _ _ hR => (h hR).bind hk

theorem ofResult_bind {r : Result α} {k₁ k₂ : α → Run β}
    (hk : ∀ a, r = .ok a → Matches alarm R (k₁ a) (k₂ a)) :
    Matches alarm R (Run.ofResult r >>= k₁) (Run.ofResult r >>= k₂) := by
  cases r with
  | ok a => exact hk a rfl
  | error f => exact fun _ _ h => .inr ⟨rfl, h⟩

theorem modify {f₁ f₂ : Session → Session} (h : ∀ s₁ s₂, R s₁ s₂ → R (f₁ s₁) (f₂ s₂)) :
    Matches alarm R (Run.modify f₁) (Run.modify f₂) :=
  fun _ _ hR => .inr ⟨rfl, h _ _ hR⟩

theorem get_bind {k₁ k₂ : Session → Run α}
    (h : ∀ s₁ s₂, R s₁ s₂ → MatchesAt alarm R (k₁ s₁) (k₂ s₂) s₁ s₂) :
    Matches alarm R (Run.get >>= k₁) (Run.get >>= k₂) :=
  fun s₁ s₂ hR => .get_bind (h s₁ s₂ hR)

end Matches

/-- The same session on both sides, in which `Inv` holds. -/
def Shared (Inv : Session → Prop) (s₁ s₂ : Session) : Prop :=
  s₁ = s₂ ∧ Inv s₁

/-- Runs that match without an alarm from the same session are the same run. -/
theorem Matches.eq_of_shared {Inv : Session → Prop} {m₁ m₂ : Run α}
    (h : Matches (fun _ => False) (Shared Inv) m₁ m₂) {s : Session} (hs : Inv s) :
    m₁ s = m₂ s ∧ Inv (m₁ s).2 := by
  obtain ⟨hsame, hafter, hInv⟩ := (h ⟨rfl, hs⟩).same
  exact ⟨Prod.ext hsame hafter, hInv⟩

end Rules

end Run

open Run

variable {alarm : Fault → Prop} {R : Session → Session → Prop}

/-! ## Expressions -/

/-- Related sessions give a name the same value. -/
def SameNames (R : Session → Session → Prop) : Prop :=
  ∀ ⦃s₁ s₂⦄, R s₁ s₂ → s₁.vars = s₂.vars ∧ s₁.globals = s₂.globals

section Evaluation

variable {call₁ call₂ : Caller}

/-- The calls of a name match, whatever the arguments are. -/
def CallMatches (alarm : Fault → Prop) (R : Session → Session → Prop) (call₁ call₂ : Caller)
    (name : String) : Prop :=
  ∀ args, Matches alarm R (call₁ name args) (call₂ name args)

theorem congruence_matches (alarm : Fault → Prop) (R : Session → Session → Prop) :
    Congruence fun {_} => Matches alarm R where
  pure := Matches.pure
  fail := Matches.fail
  bind := Matches.bind

theorem SameNames.readable (hR : SameNames R) (name : String) :
    Readable (fun {_} => Matches alarm R) name where
  lookup := by
    intro s₁ s₂ h
    obtain ⟨hvars, hglobals⟩ := hR h
    have hlookup : s₁.lookup name = s₂.lookup name := by
      simp only [Session.lookup, hvars, hglobals]
    simp only [Run.lookup, MatchesAt, hlookup]
    exact Matches.ofResult _ h
  lookupText := by
    intro s₁ s₂ h
    exact .inr ⟨by simp only [Run.lookupText, Session.lookupText, (hR h).1], h⟩

theorem Expr.eval_matches (hR : SameNames R) (e : Expr)
    (hcall : ∀ name ∈ e.callees, CallMatches alarm R call₁ call₂ name) :
    Matches alarm R (e.eval call₁) (e.eval call₂) :=
  Expr.eval_congr (congruence_matches alarm R) e (fun id _ => hR.readable id) hcall

/-- Texts match if the calls in them do. -/
theorem evalText_matches (hR : SameNames R) {text : String}
    (hcall : ∀ name ∈ textCallees text, CallMatches alarm R call₁ call₂ name) :
    Matches alarm R (evalText call₁ text) (evalText call₂ text) :=
  evalText_congr (congruence_matches alarm R) (fun id _ => hR.readable id) hcall

end Evaluation

/-! ## Lines -/

structure PrintsAlike (R : Session → Session → Prop) : Prop where
  silent : ∀ {s₁ s₂}, R s₁ s₂ → s₁.silent = s₂.silent
  write : ∀ {s₁ s₂} text, R s₁ s₂ → R (s₁.write text) (s₂.write text)

/-- A relation that executing lines respects. Functions hold only calls that are allowed, and every
change that a line makes itself is made on both sides. -/
structure Respected (allowed : String → Prop) (R : Session → Session → Prop) : Prop
    extends PrintsAlike R where
  names : SameNames R
  funcs : ∀ {s₁ s₂}, R s₁ s₂ → s₁.funcs = s₂.funcs
  callsOnly : ∀ {s₁ s₂}, R s₁ s₂ → s₁.CallsOnly allowed
  setVars : ∀ {s₁ s₂} vars, R s₁ s₂ → R { s₁ with vars := vars } { s₂ with vars := vars }
  setFunc : ∀ {s₁ s₂} name {f : Function}, R s₁ s₂ → CallsOnly allowed f.body →
    R { s₁ with funcs := s₁.funcs.set name f } { s₂ with funcs := s₂.funcs.set name f }

section Lines

variable {allowed : String → Prop}

theorem write_matches (hR : PrintsAlike R) (text : String) :
    Matches alarm R (write text) (write text) :=
  .modify fun _ _ h => hR.write text h

theorem printValues_go_matches (hR : PrintsAlike R) (gap : String) (vs : List Value) :
    Matches alarm R (printValues.go gap vs) (printValues.go gap vs) := by
  induction vs generalizing gap with
  | nil => exact .pure _
  | cons v vs ih =>
    simp only [printValues.go]
    refine .bind (write_matches hR gap) fun _ => ?_
    cases v.text? with
    | some text => exact .bind (write_matches hR text) fun _ => ih " "
    | none => exact .bind (.fail _) fun _ => ih " "

theorem printValues_matches (hR : PrintsAlike R) (vs : List Value) :
    Matches alarm R (printValues vs) (printValues vs) := by
  unfold printValues
  refine .get_bind fun s₁ s₂ h => ?_
  rw [hR.silent h]
  split
  · exact Matches.bind (printValues_go_matches hR "" vs) (fun _ => write_matches hR "\n") h
  · exact Matches.pure () h

variable {call₁ call₂ : Caller}

theorem Respected.lineCongruence (hR : Respected allowed R) :
    LineCongruence fun {_} => Matches alarm R where
  toCongruence := congruence_matches alarm R
  assign := fun name v => .modify fun s₁ s₂ h => by
    rw [(hR.names h).1]
    exact hR.setVars _ h
  print := fun v => printValues_matches hR.toPrintsAlike [v]

variable {host₁ host₂ : Host}

/-- What happens before a line matches, wherever the line stands. -/
def BeforeMatches (alarm : Fault → Prop) (R : Session → Session → Prop) (host₁ host₂ : Host)
    (call₁ call₂ : Caller) : Prop :=
  ∀ p line, Matches alarm R (host₁.beforeLine call₁ p line) (host₂.beforeLine call₂ p line)

/-- Lines match if what happens before them and the calls in them do. -/
theorem Respected.linesCongruence (hR : Respected allowed R)
    (hbefore : BeforeMatches alarm R host₁ host₂ call₁ call₂)
    (hcall : ∀ name, allowed name → CallMatches alarm R call₁ call₂ name) :
    LinesCongruence (fun {_} => Matches alarm R) (fun line => ∀ name ∈ lineCallees line, allowed name)
      host₁ host₂ call₁ call₂ where
  toLineCongruence := hR.lineCongruence
  text := fun hline _ htext => evalText_matches hR.names fun name hname =>
    hcall name (hline name (mem_lineCallees htext hname))
  define := fun name _ _ _ hblock => .modify fun _ _ h => hR.setFunc name h hblock
  before := hbefore

end Lines

/-! ## Builtins -/

section Builtins

/-- Related sessions have the same files, and the files are changed on both sides. -/
structure SharesFiles (R : Session → Session → Prop) : Prop where
  files : ∀ {s₁ s₂}, R s₁ s₂ → s₁.files = s₂.files
  setFiles : ∀ {s₁ s₂} files, R s₁ s₂ → R { s₁ with files := files } { s₂ with files := files }

/-- Related sessions have the same input, and the input is changed on both sides. -/
structure SharesInput (R : Session → Session → Prop) : Prop where
  input : ∀ {s₁ s₂}, R s₁ s₂ → s₁.input = s₂.input
  streams : ∀ {s₁ s₂}, R s₁ s₂ → s₁.streams = s₂.streams
  setInput : ∀ {s₁ s₂} input streams, R s₁ s₂ →
    R { s₁ with input := input, streams := streams } { s₂ with input := input, streams := streams }

section Streams

variable (hR : SharesInput R)

include hR

theorem SharesInput.setInput_matches (input : List String) (streams : Streams) :
    Matches alarm R (LineScript.setInput input streams) (LineScript.setInput input streams) :=
  .modify fun _ _ h => hR.setInput input streams h

theorem openStream_matches (number : Nat) : Matches alarm R (openStream number) (openStream number) := by
  refine .get_bind fun s₁ s₂ h => ?_
  rw [hR.input h, hR.streams h]
  split
  · exact hR.setInput_matches _ _ h
  · exact Matches.fail _ h

theorem readStream_matches (number : Nat) : Matches alarm R (readStream number) (readStream number) := by
  refine .bind (openStream_matches hR number) fun _ => ?_
  split
  · refine .get_bind fun s₁ s₂ h => ?_
    have hunread : s₁.unread = s₂.unread := by rw [Session.unread, Session.unread, hR.input h, hR.streams h]
    rw [hR.input h, hR.streams h, hunread]
    exact Matches.bind (hR.setInput_matches _ _) (fun _ => .pure _) h
  · exact .fail _

theorem askLine_matches (hwrite : ∀ s₁ s₂ text, R s₁ s₂ → R (s₁.write text) (s₂.write text))
    (prompt : Value) : Matches alarm R (askLine prompt) (askLine prompt) := by
  refine .bind (.ofResult _) fun text => .bind ?_ fun line => .pure _
  refine .bind (.modify fun s₁ s₂ => hwrite s₁ s₂ text) fun _ => .get_bind fun s₁ s₂ h => ?_
  rw [hR.input h, hR.streams h]
  split
  · exact Matches.fail _ h
  · rename_i line rest _
    exact Matches.bind (hR.setInput_matches _ _) (fun _ => .pure line) h

end Streams

theorem readFile_matches (hfiles : ∀ {s₁ s₂}, R s₁ s₂ → s₁.files = s₂.files) (file : Value)
    (hstream : ∀ n, file.toHandle = .ok (.stream n) → Matches alarm R (readStream n) (readStream n)) :
    Matches alarm R (readFile file) (readFile file) := by
  refine .ofResult_bind fun handle hhandle => ?_
  cases handle with
  | stream n => exact hstream n hhandle
  | path p shown =>
    refine .get_bind fun s₁ s₂ h => ?_
    rw [hfiles h]
    exact Matches.ofResult _ h

theorem writeFile_matches (hR : SharesFiles R) (file content : Value)
    (hstream : ∀ n, file.toHandle = .ok (.stream n) → Matches alarm R (openStream n) (openStream n)) :
    Matches alarm R (writeFile file content) (writeFile file content) := by
  refine .ofResult_bind fun handle hhandle => ?_
  cases handle with
  | stream n => exact .bind (hstream n hhandle) fun _ => .bind (.ofResult _) fun _ => .pure _
  | path p shown =>
    refine .get_bind fun s₁ s₂ h => ?_
    rw [hR.files h]
    refine Matches.bind (.ofResult _) (fun emptied => ?_) h
    refine .bind (.modify fun _ _ => hR.setFiles emptied) fun _ => .bind (.ofResult _) fun text => ?_
    refine .bind (.ofResult _) fun written => ?_
    exact .bind (.modify fun _ _ => hR.setFiles written) fun _ => .pure _

/-- A builtin that only computes matches itself; the others need a reason. -/
theorem Builtin.call_matches (b : Builtin) (args : List Value)
    (hread : b = .readfile → ∀ file, args = [file] → Matches alarm R (readFile file) (readFile file))
    (hwrite : b = .writefile → ∀ file content, args = [file, content] →
      Matches alarm R (writeFile file content) (writeFile file content))
    (hask : b = .input → ∀ prompt, Matches alarm R (askLine prompt) (askLine prompt)) :
    Matches alarm R (b.call args) (b.call args) := by
  cases b with
  | readfile =>
    match args with
    | [] => exact .fail _
    | [file] => exact hread rfl file rfl
    | _ :: _ :: _ => exact .fail _
  | writefile =>
    match args with
    | [] => exact .fail _
    | [_] => exact .fail _
    | [file, content] => exact hwrite rfl file content rfl
    | _ :: _ :: _ :: _ => exact .fail _
  | input =>
    match args with
    | [] => exact hask rfl _
    | [prompt] => exact hask rfl prompt
    | _ :: _ :: _ => exact .fail _
  | _ => exact .ofResult _

/-- Related sessions print alike and have the same files and the same input, and what changes these is
done on both sides. -/
structure SharesWorld (R : Session → Session → Prop) : Prop
    extends PrintsAlike R, SharesFiles R, SharesInput R

theorem SharesWorld.builtin (hR : SharesWorld R) (b : Builtin) (args : List Value) :
    Matches alarm R (b.call args) (b.call args) := by
  refine Builtin.call_matches b args (fun _ file _ => ?_) (fun _ file content _ => ?_) fun _ => ?_
  · exact readFile_matches hR.files file fun n _ => readStream_matches hR.toSharesInput n
  · exact writeFile_matches hR.toSharesFiles file content fun n _ => openStream_matches hR.toSharesInput n
  · exact askLine_matches hR.toSharesInput fun _ _ text h => hR.write text h

theorem SharesWorld.callBuiltin (hR : SharesWorld R) (name : String) (args : List Value) :
    Matches alarm R (callBuiltin .standard name args) (callBuiltin .standard name args) := by
  unfold LineScript.callBuiltin
  split
  · exact hR.builtin _ args
  · exact .fail _

end Builtins

/-! ## Scripts -/

/-- Runs of a script match if the path names the same entry on both sides and its lines do. -/
theorem runFile_matches {host₁ host₂ : Host} {depth : Nat} {path : String} {s₁ s₂ : Session}
    (hR : PrintsAlike R) (h : R s₁ s₂) (hentry : s₁.files.entry? path = s₂.files.entry? path)
    (hlines : ∀ lines, s₁.files.readLines path = .ok lines →
      Matches alarm R (runLines host₁ (callNamed host₁ depth) path lines)
        (runLines host₂ (callNamed host₂ depth) path lines)) :
    MatchesAt alarm R (host₁.runFile depth path) (host₂.runFile depth path) s₁ s₂ := by
  unfold Host.runFile
  refine .get_bind ?_
  have hfile : s₁.files.pathIsFile path = s₂.files.pathIsFile path := by
    simp only [Files.FileTree.pathIsFile, hentry]
  dsimp only
  rw [← hfile]
  cases hisFile : s₁.files.pathIsFile path with
  | false => exact Matches.bind (write_matches hR _) (fun _ => .pure none) h
  | true =>
    -- The entry is a file, so that both sides read the same lines.
    rw [← Files.FileTree.readLines_congr hisFile hentry]
    exact Matches.ofResult_bind hlines h

/-! ## Calls -/

/-- A relation that is kept when a call is entered and when it is left. -/
structure KeptByCalls (R : Session → Session → Prop) : Prop where
  enter : ∀ {s₁ s₂} f args, R s₁ s₂ → R (s₁.enter f args) (s₂.enter f args)
  leave : ∀ {s₁ s₂ t₁ t₂}, R s₁ s₂ → R t₁ t₂ → R (t₁.leave s₁) (t₂.leave s₂)

structure RespectedByCalls (allowed : String → Prop) (R : Session → Session → Prop) : Prop
    extends Respected allowed R, KeptByCalls R

section Calls

variable {allowed : String → Prop} {host₁ host₂ : Host} {call₁ call₂ : Caller}

theorem callBody_of_length_ne {host : Host} {call : Caller} {f : Function} {args : List Value}
    (name : String) (h : args.length ≠ f.params.length) :
    callBody host call name f args = Run.fail (.type (.arity name f.params.length args.length)) := by
  simp [callBody, h]

theorem callBody_of_length_eq {host : Host} {call : Caller} {f : Function} {args : List Value}
    (name : String) (h : args.length = f.params.length) :
    callBody host call name f args = (runBody host call name f).inCall f args := by
  simp [callBody, h]

/-- Call a function of the session by `body`, or else a builtin. -/
def callWith (host : Host) (body : String → Function → List Value → Run Value) : Caller :=
  fun name args => do
    match (← Run.get).funcs.get? name with
    | some f => body name f args
    | none => callBuiltin host name args

theorem callNamed_zero (host : Host) : callNamed host 0 = callWith host fun _ _ _ => Run.giveUp := by
  funext name args
  rw [callNamed]
  rfl

theorem callNamed_succ (host : Host) (depth : Nat) :
    callNamed host (depth + 1) = callWith host (callBody host (callNamed host depth)) := by
  funext name args
  rw [callNamed]
  rfl

section CallWith

variable {host : Host} {body : String → Function → List Value → Run Value} {name : String}
  {s : Session}

theorem callWith_of_some {f : Function} (h : s.funcs.get? name = some f) (args : List Value) :
    callWith host body name args s = body name f args s := by
  simp only [callWith, Bind.bind, Run.bind, Run.get, h]

theorem callWith_of_none (h : s.funcs.get? name = none) (args : List Value) :
    callWith host body name args s = callBuiltin host name args s := by
  simp only [callWith, Bind.bind, Run.bind, Run.get, h]

/-- A name that is no function is a builtin at every depth. -/
theorem callNamed_of_none (h : s.funcs.get? name = none) (depth : Nat) (args : List Value) :
    callNamed host depth name args s = callBuiltin host name args s := by
  cases depth with
  | zero => rw [callNamed_zero, callWith_of_none h]
  | succ depth => rw [callNamed_succ, callWith_of_none h]

end CallWith

/-- Calls match if the bodies of the functions and the builtins do. -/
theorem callWith_matches {body₁ body₂ : String → Function → List Value → Run Value} {name : String}
    {args : List Value} (hfuncs : ∀ ⦃s₁ s₂⦄, R s₁ s₂ → s₁.funcs = s₂.funcs)
    (hbuiltin : Matches alarm R (callBuiltin host₁ name args) (callBuiltin host₂ name args))
    (hbody : ∀ ⦃s₁ s₂⦄, R s₁ s₂ → ∀ f, s₁.funcs.get? name = some f →
      MatchesAt alarm R (body₁ name f args) (body₂ name f args) s₁ s₂) :
    Matches alarm R (callWith host₁ body₁ name args) (callWith host₂ body₂ name args) := by
  intro s₁ s₂ h
  cases hf : s₁.funcs.get? name with
  | some f =>
    -- Both sides find the same function, since they have the same functions.
    have hf₂ : s₂.funcs.get? name = some f := hfuncs h ▸ hf
    rw [MatchesAt, callWith_of_some hf, callWith_of_some hf₂]
    exact hbody h f hf
  | none =>
    have hf₂ : s₂.funcs.get? name = none := hfuncs h ▸ hf
    rw [MatchesAt, callWith_of_none hf, callWith_of_none hf₂]
    exact hbuiltin h

theorem callFunction_of_some {host : Host} {depth : Nat} {name : String} {f : Function}
    {s : Session} (h : s.funcs.get? name = some f) (args : List Value) :
    host.callFunction depth name args s = callBody host (callNamed host depth) name f args s := by
  simp only [Host.callFunction, Bind.bind, Run.bind, Run.get, h]

theorem callFunction_of_none {host : Host} {depth : Nat} {name : String} {s : Session}
    (h : s.funcs.get? name = none) (args : List Value) :
    host.callFunction depth name args s = (.failed (.key (.text name)), s) := by
  simp only [Host.callFunction, Bind.bind, Run.bind, Run.get, h]
  rfl

theorem runBody_matches (hR : Respected allowed R)
    (hbefore : BeforeMatches alarm R host₁ host₂ call₁ call₂)
    (hcall : ∀ name, allowed name → CallMatches alarm R call₁ call₂ name) {f : Function}
    (hbody : CallsOnly allowed f.body) (name : String) :
    Matches alarm R (runBody host₁ call₁ name f) (runBody host₂ call₂ name f) :=
  (hR.linesCongruence hbefore hcall).runBody hbody name

theorem inCall_matches (hR : KeptByCalls R) {m₁ m₂ : Run α}
    (h : Matches alarm R m₁ m₂) (f : Function) (args : List Value) :
    Matches alarm R (m₁.inCall f args) (m₂.inCall f args) := by
  intro s₁ s₂ hs
  rcases h (hR.enter f args hs) with halarm | ⟨hsame, hafter⟩
  · exact .inl halarm
  · exact .inr ⟨hsame, hR.leave hs hafter⟩

/-- Calls of a function match if its body does. -/
theorem callBody_matches (hR : KeptByCalls R) {name : String} {f : Function}
    (hbody : Matches alarm R (runBody host₁ call₁ name f) (runBody host₂ call₂ name f))
    (args : List Value) :
    Matches alarm R (callBody host₁ call₁ name f args) (callBody host₂ call₂ name f args) := by
  by_cases harity : args.length = f.params.length
  · rw [callBody_of_length_eq name harity, callBody_of_length_eq name harity]
    exact inCall_matches hR hbody f args
  · rw [callBody_of_length_ne name harity, callBody_of_length_ne name harity]
    exact .fail _

theorem Builtin.name_of_ofName? {name : String} {b : Builtin} (h : Builtin.ofName? name = some b) :
    b.name = name := by
  simpa using List.find?_some h

theorem callBuiltin_matches
    (hbuiltin : ∀ b : Builtin, allowed b.name → ∀ args,
      Matches alarm R (host₁.builtin b args) (host₂.builtin b args))
    {name : String} (hname : allowed name) (args : List Value) :
    Matches alarm R (callBuiltin host₁ name args) (callBuiltin host₂ name args) := by
  unfold callBuiltin
  cases hb : Builtin.ofName? name with
  | some b => exact hbuiltin b ((Builtin.name_of_ofName? hb).symm ▸ hname) args
  | none => exact .fail _

/-- Two hosts whose runs match: each does the same to related sessions. -/
structure HostsMatch (alarm : Fault → Prop) (allowed : String → Prop)
    (R : Session → Session → Prop) (host₁ host₂ : Host) : Prop extends RespectedByCalls allowed R where
  builtin : ∀ b : Builtin, allowed b.name → ∀ args,
    Matches alarm R (host₁.builtin b args) (host₂.builtin b args)
  before : ∀ call₁ call₂, BeforeMatches alarm R host₁ host₂ call₁ call₂

namespace HostsMatch

/-- Calls match however deeply they nest. -/
theorem callNamed (hR : HostsMatch alarm allowed R host₁ host₂) (depth : Nat) {name : String}
    (hname : allowed name) :
    CallMatches alarm R (callNamed host₁ depth) (callNamed host₂ depth) name := by
  -- The calls in a body nest one level less deeply than the call of the body.
  induction depth generalizing name with
  | zero =>
    intro args
    rw [callNamed_zero, callNamed_zero]
    exact callWith_matches (fun _ _ => hR.funcs) (callBuiltin_matches hR.builtin hname args)
      fun _ _ h _ _ => Matches.giveUp h
  | succ depth ih =>
    intro args
    rw [callNamed_succ, callNamed_succ]
    refine callWith_matches (fun _ _ => hR.funcs) (callBuiltin_matches hR.builtin hname args) ?_
    intro s₁ s₂ h f hf
    refine callBody_matches hR.toKeptByCalls ?_ args h
    exact runBody_matches hR.toRespected (hR.before _ _) (fun _ hn => ih hn)
      ((hR.callsOnly h).body hf) name

theorem evaluate (hR : HostsMatch alarm allowed R host₁ host₂) (depth : Nat) {text : String}
    (htext : ∀ name ∈ textCallees text, allowed name) :
    Matches alarm R (host₁.evaluate depth text) (host₂.evaluate depth text) :=
  evalText_matches hR.names fun name hname => hR.callNamed depth (htext name hname)

theorem callFunction (hR : HostsMatch alarm allowed R host₁ host₂) (depth : Nat) (name : String)
    (args : List Value) :
    Matches alarm R (host₁.callFunction depth name args) (host₂.callFunction depth name args) := by
  unfold Host.callFunction
  refine .get_bind fun s₁ s₂ h => ?_
  cases hf : s₁.funcs.get? name with
  | some f =>
    have hbody := (hR.callsOnly h).body hf
    rw [← hR.funcs h, hf]
    refine callBody_matches hR.toKeptByCalls ?_ args h
    exact runBody_matches hR.toRespected (hR.before _ _) (fun _ hn => hR.callNamed depth hn) hbody name
  | none =>
    rw [← hR.funcs h, hf]
    exact Matches.fail _ h

theorem linesCongruence (hR : HostsMatch alarm allowed R host₁ host₂) (depth : Nat) :
    LinesCongruence (fun {_} => Matches alarm R) (fun line => ∀ name ∈ lineCallees line, allowed name)
      host₁ host₂ (LineScript.callNamed host₁ depth) (LineScript.callNamed host₂ depth) :=
  hR.toRespected.linesCongruence (hR.before _ _) fun _ hn => hR.callNamed depth hn

theorem runLines (hR : HostsMatch alarm allowed R host₁ host₂) (depth : Nat) {lines : List String}
    (hallowed : CallsOnly allowed lines) (source : String) :
    Matches alarm R (runLines host₁ (LineScript.callNamed host₁ depth) source lines)
      (runLines host₂ (LineScript.callNamed host₂ depth) source lines) :=
  (hR.linesCongruence depth).runLines hallowed source

/-- Runs of a script match if the path names the same entry on both sides. -/
theorem runFile (hR : HostsMatch alarm allowed R host₁ host₂) (depth : Nat) {path : String}
    {s₁ s₂ : Session} (h : R s₁ s₂) (hentry : s₁.files.entry? path = s₂.files.entry? path)
    (hallowed : ∀ lines, s₁.files.readLines path = .ok lines → CallsOnly allowed lines) :
    MatchesAt alarm R (host₁.runFile depth path) (host₂.runFile depth path) s₁ s₂ :=
  runFile_matches hR.toPrintsAlike h hentry fun lines hlines =>
    hR.runLines depth (hallowed lines hlines) path

end HostsMatch

end Calls

end LineScript
