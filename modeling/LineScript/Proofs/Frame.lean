import LineScript.Proofs.Simulation
import LineScript.Proofs.Talk

/-!
# What a run leaves alone

`Run.Keeps view m` says that a run changes nothing of what `view` shows of a session. For parts of the
interpreter that only talk to the user or to files this is proved once, for every view that does not
show what they change.
-/

namespace LineScript

namespace Run

/-- A run leaves what `view` shows of a session as it was. -/
def Keeps (view : Session → β) (m : Run α) : Prop :=
  ∀ s, view (m s).2 = view s

/-- Equal sessions in which `view` shows `c`. -/
def Fixed (view : Session → β) (c : β) (s₁ s₂ : Session) : Prop :=
  s₁ = s₂ ∧ view s₁ = c

section Rules

variable {view : Session → γ}

theorem keeps_iff_matches {m : Run α} :
    Keeps view m ↔ ∀ c, Matches (fun _ => False) (Fixed view c) m m := by
  constructor
  · rintro h c s₁ _ ⟨rfl, hc⟩
    exact .inr ⟨rfl, rfl, (h s₁).trans hc⟩
  · intro h s
    exact (h (view s) ⟨rfl, rfl⟩).same.2.2

namespace Keeps

theorem pure (a : α) : Keeps view (Pure.pure a : Run α) :=
  fun _ => rfl

theorem fail (f : Fault) : Keeps view (Run.fail f : Run α) :=
  fun _ => rfl

theorem ofResult (r : Result α) : Keeps view (Run.ofResult r) := by
  cases r with
  | ok a => exact Keeps.pure a
  | error f => exact Keeps.fail f

theorem get : Keeps view Run.get :=
  fun _ => rfl

theorem modify {f : Session → Session} (h : ∀ s, view (f s) = view s) : Keeps view (Run.modify f) :=
  h

theorem bind {m : Run α} {k : α → Run β} (h : Keeps view m) (hk : ∀ a, Keeps view (k a)) :
    Keeps view (m >>= k) := by
  intro s
  have hm := h s
  change view (Run.bind m k s).2 = _
  unfold Run.bind
  split <;> rename_i hms <;> rw [hms] at hm
  · exact (hk _ _).trans hm
  · exact hm
  · exact hm

theorem attempt {m : Run α} (h : Keeps view m) : Keeps view m.attempt := by
  intro s
  have hm := h s
  unfold Run.attempt
  split <;> rename_i hms <;> rw [hms] at hm <;> exact hm

/-- A coarser view is kept too. -/
theorem comp {m : Run α} (g : γ → δ) (h : Keeps view m) : Keeps (fun s => g (view s)) m :=
  fun s => congrArg g (h s)

theorem sequential (view : Session → γ) : Sequential fun {_} m => Keeps view m where
  pure := .pure
  fail := .fail
  get := .get
  bind := .bind

end Keeps

/-- A run that starts where `Inv` holds ends where it holds. -/
def Preserves (Inv : Session → Prop) (m : Run α) : Prop :=
  ∀ s, Inv s → Inv (m s).2

namespace Preserves

variable {Inv : Session → Prop}

theorem of_keeps {m : Run α} (h : Keeps Inv m) : Preserves Inv m :=
  fun s hs => (h s).symm ▸ hs

theorem pure (a : α) : Preserves Inv (Pure.pure a : Run α) :=
  fun _ h => h

theorem fail (f : Fault) : Preserves Inv (Run.fail f : Run α) :=
  fun _ h => h

theorem bind_at {m : Run α} {k : α → Run β} {s : Session} (h : Inv (m s).2)
    (hk : ∀ a, Preserves Inv (k a)) : Inv ((m >>= k) s).2 := by
  change Inv (Run.bind m k s).2
  unfold Run.bind
  split <;> rename_i hm <;> rw [hm] at h
  · exact hk _ _ h
  · exact h
  · exact h

theorem bind {m : Run α} {k : α → Run β} (h : Preserves Inv m) (hk : ∀ a, Preserves Inv (k a)) :
    Preserves Inv (m >>= k) :=
  fun s hs => bind_at (h s hs) hk

theorem attempt {m : Run α} (h : Preserves Inv m) : Preserves Inv m.attempt := by
  intro s hs
  have hm := h s hs
  unfold Run.attempt
  split <;> rename_i hms <;> rw [hms] at hm <;> exact hm

end Preserves

/-- An invariant is a congruence that looks at one side only. -/
theorem congruence_preserves (Inv : Session → Prop) : Congruence fun {_} m _ => Preserves Inv m where
  pure := Preserves.pure
  fail := Preserves.fail
  bind := Preserves.bind

end Rules

end Run

open Run

/-! ## Expressions -/

theorem sameNames_fixed (view : Session → β) (c : β) : SameNames (Fixed view c) := by
  rintro s _ ⟨rfl, -⟩
  exact ⟨rfl, rfl⟩

theorem Expr.eval_keeps {call : Caller} {view : Session → γ} {e : Expr}
    (hcall : ∀ name ∈ e.callees, ∀ args, Keeps view (call name args)) : Keeps view (e.eval call) :=
  keeps_iff_matches.mpr fun c =>
    Expr.eval_matches (sameNames_fixed view c) e fun name hname args =>
      keeps_iff_matches.mp (hcall name hname args) c

/-- A text keeps what the calls in it keep. -/
theorem evalText_keeps {call : Caller} {view : Session → γ} {text : String}
    (hcall : ∀ name ∈ textCallees text, ∀ args, Keeps view (call name args)) :
    Keeps view (evalText call text) :=
  keeps_iff_matches.mpr fun c =>
    evalText_matches (sameNames_fixed view c) fun name hname args =>
      keeps_iff_matches.mp (hcall name hname args) c

section Expressions

variable {call : Caller} {Inv : Session → Prop}

theorem readable_preserves (Inv : Session → Prop) (name : String) :
    Readable (fun {_} m _ => Preserves Inv m) name where
  lookup := fun s hs => Preserves.of_keeps (Keeps.ofResult (s.lookup name)) s hs
  lookupText := fun _ hs => hs

theorem Expr.eval_preserves {e : Expr}
    (hcall : ∀ name ∈ e.callees, ∀ args, Preserves Inv (call name args)) :
    Preserves Inv (e.eval call) :=
  @Expr.eval_congr _ call call (congruence_preserves Inv) e (fun id _ => readable_preserves Inv id) hcall

/-- A text preserves what the calls in it preserve. -/
theorem evalText_preserves {text : String}
    (hcall : ∀ name ∈ textCallees text, ∀ args, Preserves Inv (call name args)) :
    Preserves Inv (evalText call text) :=
  @evalText_congr _ call call (congruence_preserves Inv) text (fun id _ => readable_preserves Inv id)
    hcall

end Expressions

/-! ## Talking to the user -/

/-- A view that shows nothing of the debugger, the input and the output. -/
def HidesDialogue (view : Session → γ) : Prop :=
  ∀ s debugger input streams output,
    view { s with debugger := debugger, input := input, streams := streams, output := output } = view s

section Dialogue

variable {view : Session → γ} {call : Caller}

theorem write_keeps (hview : HidesDialogue view) (text : String) : Keeps view (write text) := by
  intro s
  change view (s.write text) = _
  unfold Session.write
  split
  · rfl
  · exact hview s s.debugger s.input s.streams _

/-- Every step of a dialogue keeps what shows nothing of dialogues. -/
theorem HidesDialogue.debugging (hview : HidesDialogue view) : Debugging fun {_} m => Keeps view m where
  toTalking := (Printing.mk (Keeps.sequential view) (write_keeps hview)).talking .attempt fun _ _ =>
    .modify fun s => hview s s.debugger _ _ s.output
  addLine := fun _ => .modify fun s => hview s _ s.input s.streams s.output
  addPlace := fun _ _ => .modify fun s => hview s _ s.input s.streams s.output
  removeLine := fun _ => .modify fun s => hview s _ s.input s.streams s.output
  addWatch := fun _ => .modify fun s => hview s _ s.input s.streams s.output
  removeWatch := fun _ => .modify fun s => hview s _ s.input s.streams s.output

theorem printLine_keeps (hview : HidesDialogue view) (text : String) :
    Keeps view (printLine text) :=
  hview.debugging.printLine text

theorem printValues_keeps (hview : HidesDialogue view) (vs : List Value) :
    Keeps view (printValues vs) :=
  hview.debugging.printValues vs

theorem printVars_keeps (hview : HidesDialogue view) (words : List Value) :
    Keeps view (printVars words) :=
  hview.debugging.printVars words

variable {Inv : Session → Prop}

theorem showWatches_preserves (hInv : HidesDialogue Inv) {watches : List String}
    (heval : ∀ w ∈ watches, Preserves Inv (evalText call w)) :
    Preserves Inv (showWatches call watches) := by
  induction watches with
  | nil => exact .pure _
  | cons w ws ih =>
    refine .bind ?_ fun _ => ih fun w hw => heval w (List.mem_cons_of_mem _ hw)
    -- A watch that fails is shown as such, so its fault does not leave the pause.
    have hshown := (heval w List.mem_cons_self).bind fun v =>
      .of_keeps (printValues_keeps hInv [.str "   -", .str w, .str "=", v])
    refine .bind hshown.attempt fun shown => ?_
    cases shown with
    | ok _ => exact .pure _
    | error f => exact .of_keeps (printLine_keeps hInv _)

theorem listWatches_preserves (hInv : HidesDialogue Inv) {watches : List String}
    (heval : ∀ w ∈ watches, Preserves Inv (evalText call w)) :
    Preserves Inv (listWatches call watches) := by
  unfold listWatches
  split
  · exact .pure _
  · exact .bind (.of_keeps (printLine_keeps hInv _)) fun _ => showWatches_preserves hInv heval

@[simp] theorem Session.write_debugger (s : Session) (text : String) :
    (s.write text).debugger = s.debugger := by
  unfold Session.write
  split <;> rfl

def pauseText (source : String) (n : Int) (line : String) : String :=
  "\n== PAUSED at " ++ source ++ ":" ++ Number.decimalText n ++ "  >> " ++ Text.strip line ++ "\n"

/-- The watches that are listed are those of the session before the pause was announced. -/
theorem pauseAt_eq (call : Caller) (source : String) (n : Int) (line : String) (s : Session) :
    pauseAt call source n line s =
      (listWatches call s.debugger.watches >>= fun _ =>
        Run.get >>= fun t => dialogue (t.input.length + 1)) (s.write (pauseText source n line)) := by
  rw [← Session.write_debugger s (pauseText source n line)]
  rfl

theorem pauseAt_preserves (hInv : HidesDialogue Inv) (source : String) (n : Int) (line : String)
    {s : Session} (hs : Inv s) (heval : ∀ w ∈ s.debugger.watches, Preserves Inv (evalText call w)) :
    Inv (pauseAt call source n line s).2 := by
  have hrest : Preserves Inv (listWatches call s.debugger.watches >>= fun _ =>
      Run.get >>= fun t => dialogue (t.input.length + 1)) :=
    .bind (listWatches_preserves hInv heval) fun _ =>
      .of_keeps (.bind .get fun _ => hInv.debugging.dialogue _)
  rw [pauseAt_eq]
  exact hrest _ (Preserves.of_keeps (write_keeps hInv _) s hs)

theorem pauseIfAsked_of_pausesAt {p : Place} {s : Session}
    (h : s.debugger.pausesAt p.source p.lineNumber = true) (call : Caller) (line : String) :
    pauseIfAsked call p line s = (pauseAt call p.source p.lineNumber line >>= fun action =>
      Run.modify fun t => { t with debugger := t.debugger.act t.callDepth action }) s := by
  change (if s.debugger.pausesAt p.source p.lineNumber = true then _ else pure () : Run Unit) s = _
  rw [if_pos h]

theorem pauseIfAsked_of_not_pausesAt {p : Place} {s : Session}
    (h : s.debugger.pausesAt p.source p.lineNumber = false) (call : Caller) (line : String) :
    pauseIfAsked call p line s = (.done (), s) := by
  change (if s.debugger.pausesAt p.source p.lineNumber = true then _ else pure () : Run Unit) s = _
  rw [if_neg (by simp [h])]
  rfl

/-- A pause preserves what its watches do, if that shows nothing of a dialogue. -/
theorem pauseIfAsked_preserves (hInv : HidesDialogue Inv) (p : Place) (line : String) {s : Session}
    (hs : Inv s) (heval : ∀ w ∈ s.debugger.watches, Preserves Inv (evalText call w)) :
    Inv (pauseIfAsked call p line s).2 := by
  cases hpauses : s.debugger.pausesAt p.source p.lineNumber with
  | true =>
    rw [pauseIfAsked_of_pausesAt hpauses]
    refine Preserves.bind_at (pauseAt_preserves hInv _ _ line hs heval) fun action => ?_
    -- The action changes the debugger only.
    exact .of_keeps (.modify fun t => hInv t _ t.input t.streams t.output)
  | false =>
    rw [pauseIfAsked_of_not_pausesAt hpauses]
    exact hs

/-- A pause changes nothing but the debugger, the input and the output, if its watches do not. -/
theorem pauseIfAsked_keeps (hview : HidesDialogue view) (p : Place) (line : String) {s : Session}
    (heval : ∀ w ∈ s.debugger.watches, Keeps view (evalText call w)) :
    view (pauseIfAsked call p line s).2 = view s := by
  have hsame : HidesDialogue fun t => view t = view s := by
    intro t debugger input streams output
    exact congrArg (· = view s) (hview t debugger input streams output)
  exact pauseIfAsked_preserves hsame p line rfl fun w hw t ht => (heval w hw t).trans ht

end Dialogue

/-- There are no breakpoints, and no stepping line by line. -/
def Debugger.Off (d : Debugger) : Prop :=
  d.lines = [] ∧ d.places = [] ∧ d.singleStep = false

theorem pauseIfAsked_of_off {s : Session} (h : s.debugger.Off) (call : Caller) (p : Place)
    (line : String) : pauseIfAsked call p line s = (.done (), s) := by
  obtain ⟨hlines, hplaces, hstep⟩ := h
  refine pauseIfAsked_of_not_pausesAt ?_ call line
  simp [Debugger.pausesAt, Debugger.hasBreakpoint, hlines, hplaces, hstep]

theorem pauseIfAsked_matches_of_off {alarm : Fault → Prop} {R : Session → Session → Prop}
    (hoff : ∀ {s₁ s₂}, R s₁ s₂ → s₁.debugger.Off ∧ s₂.debugger.Off) (call₁ call₂ : Caller) (p : Place)
    (line : String) : Matches alarm R (pauseIfAsked call₁ p line) (pauseIfAsked call₂ p line) := by
  intro s₁ s₂ h
  obtain ⟨off₁, off₂⟩ := hoff h
  rw [MatchesAt, pauseIfAsked_of_off off₁, pauseIfAsked_of_off off₂]
  exact .inr ⟨rfl, h⟩

/-! ## Lines -/

section Lines

variable {call : Caller} {run : List String → Run (Option Value)} {p : Place} {Inv : Session → Prop}

/-- A property of sessions that shows nothing of the dialogue, the variables and the depth of calls. -/
structure HidesLines (Inv : Session → Prop) : Prop where
  dialogue : HidesDialogue Inv
  scope : ∀ s vars callDepth, Inv { s with vars := vars, callDepth := callDepth } = Inv s

theorem HidesLines.lineCongruence (hInv : HidesLines Inv) :
    LineCongruence fun {_} m _ => Preserves Inv m where
  toCongruence := congruence_preserves Inv
  assign := fun _ _ => .of_keeps (.modify fun s => hInv.scope s _ s.callDepth)
  print := fun v => .of_keeps (printValues_keeps hInv.dialogue [v])

theorem Statement.exec_preserves (hInv : HidesLines Inv) {st : Statement}
    (htext : ∀ text ∈ st.texts, Preserves Inv (evalText call text))
    (hdefine : ∀ name params block stop, p.block = .ok (block, stop) →
      Preserves Inv (Run.modify fun s => { s with funcs := s.funcs.set name ⟨params, block⟩ }))
    (hrun : ∀ block stop, p.block = .ok (block, stop) → Preserves Inv (run block)) :
    Preserves Inv (st.exec call run p) :=
  @Statement.exec_congr _ call call run run p hInv.lineCongruence st htext hdefine hrun

theorem execLineWith_preserves {line : String} (hbefore : Preserves Inv (pauseIfAsked call p line))
    (hst : ∀ st, Statement.ofLine? (Text.strip line) = some st → Preserves Inv (st.exec call run p)) :
    Preserves Inv (execLineWith .standard call run p line) :=
  @execLineWith_congr _ call call run run p .standard .standard (congruence_preserves Inv) line hbefore hst

theorem runFrom_preserves {exec : Nat → String → Run LineResult} {lines : List String}
    (h : ∀ i, ∀ line ∈ lines, Preserves Inv (exec i line)) (skip i : Nat) :
    Preserves Inv (runFrom exec skip i lines) :=
  @runFrom_congr _ (congruence_preserves Inv) exec exec lines h skip i

theorem inCall_preserves (hInv : HidesLines Inv) {m : Run α} (h : Preserves Inv m) (f : Function)
    (args : List Value) : Preserves Inv (m.inCall f args) := by
  intro s hs
  have henter : Inv (s.enter f args) := (hInv.scope s _ _).symm ▸ hs
  have hbody := h _ henter
  change Inv ((m (s.enter f args)).2.leave s)
  exact (hInv.scope _ _ _).symm ▸ hbody

end Lines

/-! ## Shared sessions -/

section Shared

variable {alarm : Fault → Prop} {Inv : Session → Prop}

theorem Run.Preserves.matches {m : Run α} (h : Preserves Inv m) : Matches alarm (Shared Inv) m m := by
  rintro s _ ⟨rfl, hs⟩
  exact .inr ⟨rfl, rfl, h s hs⟩

theorem sameNames_shared (Inv : Session → Prop) : SameNames (Shared Inv) := by
  rintro s _ ⟨rfl, -⟩
  exact ⟨rfl, rfl⟩

theorem HidesLines.lineCongruence_matches (hInv : HidesLines Inv) :
    LineCongruence fun {_} => Matches alarm (Shared Inv) where
  toCongruence := congruence_matches alarm (Shared Inv)
  assign := fun name v => (hInv.lineCongruence.assign name v).matches
  print := fun v => (hInv.lineCongruence.print v).matches

theorem HidesLines.keptByCalls (hInv : HidesLines Inv) : KeptByCalls (Shared Inv) where
  enter := by
    rintro s _ f args ⟨rfl, hs⟩
    exact ⟨rfl, (hInv.scope s _ _).symm ▸ hs⟩
  leave := by
    rintro s _ t _ ⟨rfl, -⟩ ⟨rfl, ht⟩
    exact ⟨rfl, (hInv.scope t _ _).symm ▸ ht⟩

end Shared

/-! ## Builtins -/

/-- A view that shows nothing of the files. -/
def HidesFiles (view : Session → γ) : Prop :=
  ∀ s files, view { s with files := files } = view s

section Builtins

variable {view : Session → γ}

theorem callBuiltin_keeps (hview : HidesDialogue view) (hfiles : HidesFiles view) (name : String)
    (args : List Value) : Keeps view (callBuiltin .standard name args) :=
  hview.debugging.callBuiltin rfl (fun files => .modify fun s => hfiles s files) name args

theorem callWith_preserves {Inv : Session → Prop} (hInv : HidesDialogue Inv) (hfiles : HidesFiles Inv)
    {body : String → Function → List Value → Run Value} {name : String} {args : List Value}
    (hbody : ∀ s, Inv s → ∀ f, s.funcs.get? name = some f → Inv (body name f args s).2) :
    Preserves Inv (callWith .standard body name args) := by
  intro s hs
  cases hf : s.funcs.get? name with
  | some f =>
    rw [callWith_of_some hf]
    exact hbody s hs f hf
  | none =>
    rw [callWith_of_none hf]
    exact Preserves.of_keeps (callBuiltin_keeps hInv hfiles name args) s hs

end Builtins

end LineScript
