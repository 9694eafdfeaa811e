import LineScript.Proofs.Frame

/-!
# What a run never takes back

What was printed stays printed, and a place to pause at stays one: the dialogue of a pause can add places,
but it can only take line numbers away. A session that comes after another one in this sense continues it,
and every run leads to a session that continues the one it started in, however it ends.
-/

namespace LineScript

open Run

/-- A session that comes later: the output goes on, and no place to pause at is missing. -/
structure Session.ContinuedBy (s t : Session) : Prop where
  output : s.output <:+ t.output
  places : s.debugger.places ⊆ t.debugger.places
  silent : t.silent = s.silent

/-- What `Session.ContinuedBy` looks at. -/
def Session.record (s : Session) : List Output × List (String × Int) × Bool :=
  (s.output, s.debugger.places, s.silent)

namespace Session.ContinuedBy

variable {s t u : Session}

theorem of_record_eq (h : t.record = s.record) : s.ContinuedBy t := by
  simp only [Session.record, Prod.mk.injEq] at h
  obtain ⟨houtput, hplaces, hsilent⟩ := h
  exact ⟨houtput ▸ List.suffix_refl _, fun _ hp => hplaces ▸ hp, hsilent⟩

theorem refl (s : Session) : s.ContinuedBy s :=
  of_record_eq rfl

theorem trans (h : s.ContinuedBy t) (h' : t.ContinuedBy u) : s.ContinuedBy u :=
  ⟨h.output.trans h'.output, List.Subset.trans h.places h'.places, h'.silent.trans h.silent⟩

theorem write (s : Session) (text : String) : s.ContinuedBy (s.write text) := by
  unfold Session.write
  split
  · exact refl s
  · exact ⟨List.suffix_cons _ _, List.Subset.refl _, rfl⟩

end Session.ContinuedBy

namespace Run

/-- Wherever the run starts, it ends in a session that continues that one. -/
def Continues (m : Run α) : Prop :=
  ∀ s : Session, s.ContinuedBy (m s).2

namespace Continues

theorem of_keeps {m : Run α} (h : Keeps Session.record m) : Continues m :=
  fun s => .of_record_eq (h s)

theorem pure (a : α) : Continues (Pure.pure a : Run α) :=
  .of_keeps (.pure a)

theorem fail (f : Fault) : Continues (Run.fail f : Run α) :=
  .of_keeps (.fail f)

theorem ofResult (r : Result α) : Continues (Run.ofResult r) :=
  .of_keeps (.ofResult r)

theorem get : Continues Run.get :=
  .of_keeps .get

theorem modify {f : Session → Session} (h : ∀ s, (f s).record = s.record) : Continues (Run.modify f) :=
  .of_keeps (.modify h)

theorem bind {m : Run α} {k : α → Run β} (h : Continues m) (hk : ∀ a, Continues (k a)) :
    Continues (m >>= k) := by
  intro s
  have hm := h s
  change s.ContinuedBy (Run.bind m k s).2
  unfold Run.bind
  split <;> rename_i hms <;> rw [hms] at hm
  · exact hm.trans (hk _ _)
  · exact hm
  · exact hm

theorem attempt {m : Run α} (h : Continues m) : Continues m.attempt := by
  intro s
  have hm := h s
  unfold Run.attempt
  split <;> rename_i hms <;> rw [hms] at hm <;> exact hm

theorem sequential : Sequential fun {_} m => Continues m where
  pure := .pure
  fail := .fail
  get := .get
  bind := .bind

end Continues

end Run

/-! ## The dialogue -/

theorem write_continues (text : String) : Continues (write text) :=
  fun s => .write s text

/-- A change of the debugger that takes no place away. -/
theorem modifyDebugger_continues {f : Debugger → Debugger} (h : ∀ d, d.places ⊆ (f d).places) :
    Continues (modifyDebugger f) :=
  fun s => ⟨List.suffix_refl _, h s.debugger, rfl⟩

theorem Debugger.places_addLine (d : Debugger) (line : Int) : d.places ⊆ (d.addLine line).places := by
  unfold Debugger.addLine
  split <;> exact List.Subset.refl _

theorem Debugger.places_addPlace (d : Debugger) (source : String) (line : Int) :
    d.places ⊆ (d.addPlace source line).places := by
  unfold Debugger.addPlace
  split
  · exact List.Subset.refl _
  · exact List.subset_append_left _ _

/-- No step of a dialogue takes anything back: a deletion removes line numbers only, no places. -/
theorem debugging_continues : Debugging fun {_} m => Continues m where
  toTalking := (Printing.mk Continues.sequential write_continues).talking .attempt fun _ _ =>
    .modify fun _ => rfl
  addLine := fun n => modifyDebugger_continues fun d => d.places_addLine n
  addPlace := fun source n => modifyDebugger_continues fun d => d.places_addPlace source n
  removeLine := fun _ => modifyDebugger_continues fun _ => List.Subset.refl _
  addWatch := fun _ => modifyDebugger_continues fun _ => List.Subset.refl _
  removeWatch := fun _ => modifyDebugger_continues fun _ => List.Subset.refl _

theorem readable_continues (name : String) : Readable (fun {_} m _ => Continues m) name where
  lookup := fun s => Continues.ofResult (s.lookup name) s
  lookupText := fun s => .refl s

section Pause

variable {call : Caller}

theorem pauseAt_continues (heval : ∀ text, Continues (evalText call text)) (source : String) (n : Int)
    (line : String) : Continues (pauseAt call source n line) := by
  refine .bind (debugging_continues.printLine _) fun _ => .bind .get fun s => ?_
  refine .bind (debugging_continues.listWatches heval _) fun _ => ?_
  exact .bind .get fun t => debugging_continues.dialogue _

theorem Debugger.places_act (d : Debugger) (depth : Int) (action : Action) :
    (d.act depth action).places = d.places := by
  cases action <;> rfl

theorem act_continues (action : Action) :
    Continues (Run.modify fun s => { s with debugger := s.debugger.act s.callDepth action }) :=
  .modify fun s => by simp only [Session.record, Debugger.places_act]

theorem pauseIfAsked_continues (heval : ∀ text, Continues (evalText call text)) (p : Place)
    (line : String) : Continues (pauseIfAsked call p line) := by
  refine .bind .get fun s => ?_
  split
  · exact .bind (pauseAt_continues heval _ _ line) act_continues
  · exact .pure _

end Pause

/-! ## Calls and lines -/

theorem callBuiltin_continues (name : String) (args : List Value) :
    Continues (callBuiltin .standard name args) :=
  debugging_continues.callBuiltin rfl (fun _ => .modify fun _ => rfl) name args

section Lines

variable {call : Caller}

theorem evalText_continues (hcall : ∀ name args, Continues (call name args)) (text : String) :
    Continues (evalText call text) :=
  @evalText_congr _ call call debugging_continues.congruence text (fun id _ => readable_continues id)
    fun name _ => hcall name

/-- If the calls go on, so do the lines. -/
theorem linesCongruence_continues (hcall : ∀ name args, Continues (call name args)) :
    LinesCongruence (fun {_} m _ => Continues m) (fun _ => True) .standard .standard call call where
  toCongruence := debugging_continues.congruence
  assign := fun _ _ => .modify fun _ => rfl
  print := fun v => debugging_continues.printValues [v]
  text := fun _ text _ => evalText_continues hcall text
  define := fun _ _ _ _ _ => .modify fun _ => rfl
  before := pauseIfAsked_continues (evalText_continues hcall)

theorem callBody_continues (hcall : ∀ name args, Continues (call name args)) (name : String)
    (f : Function) (args : List Value) : Continues (callBody .standard call name f args) := by
  by_cases harity : args.length = f.params.length
  · rw [callBody_of_length_eq name harity]
    intro s
    have hbody := (linesCongruence_continues hcall).runBody (f := f) (fun _ _ => trivial) name
      (s.enter f args)
    -- Entering and leaving the call change the variables and the depth only.
    have henter : s.ContinuedBy (s.enter f args) := .of_record_eq rfl
    exact henter.trans (hbody.trans (.of_record_eq rfl))
  · rw [callBody_of_length_ne name harity]
    exact .fail _

end Lines

theorem callNamed_continues (depth : Nat) (name : String) (args : List Value) :
    Continues (callNamed .standard depth name args) := by
  induction depth generalizing name args with
  | zero =>
    rw [callNamed_zero]
    intro s
    cases hf : s.funcs.get? name with
    | some f =>
      rw [callWith_of_some hf]
      exact .refl s
    | none =>
      rw [callWith_of_none hf]
      exact callBuiltin_continues name args s
  | succ depth ih =>
    rw [callNamed_succ]
    intro s
    cases hf : s.funcs.get? name with
    | some f =>
      rw [callWith_of_some hf]
      exact callBody_continues ih name f args s
    | none =>
      rw [callWith_of_none hf]
      exact callBuiltin_continues name args s

end LineScript
