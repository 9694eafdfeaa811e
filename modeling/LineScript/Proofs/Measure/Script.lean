import LineScript.Measure.Survey

/-!
# Running scripts

A script gives a value or stops, and leaves a desk. Its parts are run one after the other until one of them
stops. Faults inside `attempt` become values, unless they are fatal; those that reading data and taking it
apart can raise are not.
-/

namespace LineScript.Measure

namespace Script

/-- What a script gives when it is run on a desk, and the desk that it leaves. -/
def runOn (m : Script α) (d : Desk) : Except Stop α × Desk :=
  m.run.run d

/-- What becomes of a run if a script follows. -/
def followedBy (k : α → Script β) : Except Stop α × Desk → Except Stop β × Desk
  | (.ok a, d) => (k a).runOn d
  | (.error s, d) => (.error s, d)

section Run

variable {m : Script α} {k : α → Script β} {d d' : Desk}

theorem runOn_bind (m : Script α) (k : α → Script β) (d : Desk) :
    (m >>= k).runOn d = followedBy k (m.runOn d) := by
  rcases h : m.runOn d with ⟨r, d'⟩
  have hrun : m.run.run d = (r, d') := h
  cases r with
  | ok a =>
    simp only [runOn, ExceptT.run_bind, StateT.run_bind, hrun]
    rfl
  | error s =>
    simp only [runOn, ExceptT.run_bind, StateT.run_bind, hrun]
    rfl

theorem runOn_bind_of_ok {a : α} (h : m.runOn d = (.ok a, d')) : (m >>= k).runOn d = (k a).runOn d' := by
  rw [runOn_bind, h, followedBy]

theorem runOn_bind_of_error {s : Stop} (h : m.runOn d = (.error s, d')) :
    (m >>= k).runOn d = (.error s, d') := by
  rw [runOn_bind, h, followedBy]

theorem runOn_tryCatch_of_ok {handle : Stop → Script α} {a : α} (h : m.runOn d = (.ok a, d')) :
    (tryCatch m handle : Script α).runOn d = (.ok a, d') := by
  have hrun : StateT.run m d = (.ok a, d') := h
  simp only [runOn, tryCatch, tryCatchThe, MonadExceptOf.tryCatch, ExceptT.tryCatch, ExceptT.run_mk,
    StateT.run_bind, hrun]
  rfl

theorem runOn_tryCatch_of_error {handle : Stop → Script α} {s : Stop} (h : m.runOn d = (.error s, d')) :
    (tryCatch m handle : Script α).runOn d = (handle s).runOn d' := by
  have hrun : StateT.run m d = (.error s, d') := h
  simp only [runOn, tryCatch, tryCatchThe, MonadExceptOf.tryCatch, ExceptT.tryCatch, ExceptT.run_mk,
    StateT.run_bind, hrun]
  rfl

end Run

/-! ## Scripts that come to their end -/

/-- The script comes to its end on every desk. -/
def Returns (m : Script α) : Prop :=
  ∀ d, ∃ a d', m.runOn d = (.ok a, d')

section Returns

variable {m : Script α} {k : α → Script β}

theorem Returns.bind (hm : m.Returns) (hk : ∀ a, (k a).Returns) : (m >>= k).Returns := by
  intro d
  obtain ⟨a, d', h⟩ := hm d
  rw [runOn_bind_of_ok h]
  exact hk a d'

end Returns

/-! ## Scripts with faults that can be survived -/

def Tame (r : Result α) : Prop :=
  ∀ f, r = .error f → isFatal f = false

section Tame

theorem tame_ok (a : α) : Tame (.ok a : Result α) := by
  rintro f ⟨⟩

theorem tame_error {f : Fault} (h : isFatal f = false) : Tame (.error f : Result α) := by
  rintro f' ⟨⟩
  exact h

theorem Tame.bind {r : Result α} {g : α → Result β} (hr : Tame r) (hg : ∀ a, Tame (g a)) : Tame (r >>= g) := by
  cases r with
  | ok a => exact hg a
  | error f => exact tame_error (hr f rfl)

theorem Tame.mapM {l : List α} {g : α → Result β} (hg : ∀ a ∈ l, Tame (g a)) : Tame (l.mapM g) := by
  induction l with
  | nil => exact tame_ok _
  | cons a l ih =>
    obtain ⟨ha, hl⟩ := List.forall_mem_cons.mp hg
    rw [List.mapM_cons]
    exact ha.bind fun _ => (ih hl).bind fun _ => tame_ok _

end Tame

/-- The script comes to its end or stops with a fault that is not fatal. -/
def Mild (m : Script α) : Prop :=
  ∀ d, (∃ a d', m.runOn d = (.ok a, d')) ∨ ∃ f d', m.runOn d = (.error (.fault f), d') ∧ isFatal f = false

section Mild

variable {m : Script α} {k : α → Script β}

theorem Mild.bind (hm : m.Mild) (hk : ∀ a, (k a).Mild) : (m >>= k).Mild := by
  intro d
  rcases hm d with ⟨a, d', h⟩ | ⟨f, d', h, hf⟩
  · rw [runOn_bind_of_ok h]
    exact hk a d'
  · exact .inr ⟨f, d', runOn_bind_of_error h, hf⟩

end Mild

end Script

/-! ## Attempts -/

open Script

section Attempt

variable {m : Script α} {d d' : Desk}

end Attempt

end LineScript.Measure
