import LineScript.Proofs.Frame
import LineScript.Proofs.Loop
import LineScript.Proofs.Number
import Mathlib

/-!
# What can be listed

Every value has a text but the integers with too many digits. Printing values fails at the first one without a
text, and a list of variables is printed only as a whole. If printing is turned off, nothing is asked for its
text. Whatever happens, nothing but the output changes.
-/

namespace LineScript

open Run

/-! ## Texts of values and tables -/

/-- No variable holds an integer with more digits than a text may have. -/
def Table.Listable (vars : Table Value) : Prop :=
  ∀ name n, (name, Value.int n) ∈ vars → n.natAbs < 10 ^ Number.digitLimit

theorem Value.isSome_shown?_iff {v : Value} :
    v.shown?.isSome = true ↔ ∀ n, v = .int n → n.natAbs < 10 ^ Number.digitLimit := by
  cases v with
  | int n =>
    simp only [Value.shown?, Value.int.injEq, forall_eq', ← Number.hasText_iff]
    split <;> simp_all
  | _ => simp [Value.shown?]

theorem isSome_mapM (f : α → Option β) (xs : List α) :
    (xs.mapM f).isSome = xs.all fun a => (f a).isSome := by
  induction xs with
  | nil => rfl
  | cons a xs ih =>
    rw [List.mapM_cons, List.all_cons, ← ih]
    cases f a with
    | none => rfl
    | some b => cases xs.mapM f <;> rfl

theorem Table.isSome_shown?_iff {vars : Table Value} : vars.shown?.isSome = true ↔ vars.Listable := by
  have hparts : vars.shown?.isSome = vars.all fun entry => entry.2.shown?.isSome := by
    simp only [Table.shown?, bind_pure_comp, Option.map_eq_map, Option.isSome_map, isSome_mapM]
  simp only [hparts, List.all_eq_true, Value.isSome_shown?_iff, Table.Listable]
  constructor
  · exact fun h name n hmem => h (name, .int n) hmem n rfl
  · rintro h ⟨name, _⟩ hmem n rfl
    exact h name n hmem

/-! ## Printing values -/

theorem Session.exists_write (s : Session) (text : String) :
    ∃ output, s.write text = { s with output := output } := by
  unfold Session.write
  split
  · exact ⟨s.output, rfl⟩
  · exact ⟨_, rfl⟩

def Session.muted (s : Session) : Session :=
  { s with output := [] }

theorem printing_keeps_muted : Printing fun {_} m => Keeps Session.muted m where
  toSequential := Keeps.sequential Session.muted
  write := by
    intro text s
    obtain ⟨output, hwrite⟩ := s.exists_write text
    change (s.write text).muted = s.muted
    rw [hwrite]
    rfl

/-- The list of the variables leaves nothing but output behind. -/
theorem printVars_eq (words : List Value) (s : Session) :
    ∃ output, (printVars words s).2 = { s with output := output } := by
  have hmuted : (printVars words s).2.muted = s.muted := printing_keeps_muted.printVars words s
  refine ⟨(printVars words s).2.output, ?_⟩
  exact congrArg (fun u : Session => { u with output := (printVars words s).2.output }) hmuted

section Listing

variable {vs : List Value} {s : Session}

theorem printValues_go_of_texts (h : ∀ v ∈ vs, v.text?.isSome = true) (gap : String) (s : Session) :
    ∃ t, printValues.go gap vs s = (.done (), t) := by
  induction vs generalizing gap s with
  | nil => exact ⟨s, rfl⟩
  | cons v vs ih =>
    obtain ⟨text, htext⟩ := Option.isSome_iff_exists.mp (h v (.head _))
    simp only [printValues.go, htext]
    exact ih (fun w hw => h w (.tail _ hw)) " " _

theorem printValues_go_of_textless (h : ∃ v ∈ vs, v.text? = none) (gap : String) (s : Session) :
    ∃ f t, printValues.go gap vs s = (.failed f, t) := by
  induction vs generalizing gap s with
  | nil => simp at h
  | cons v vs ih =>
    cases htext : v.text? with
    | none =>
      simp only [printValues.go, htext]
      exact ⟨_, _, rfl⟩
    | some text =>
      simp only [printValues.go, htext]
      refine ih ?_ " " _
      obtain ⟨w, hw, hnone⟩ := h
      rcases List.mem_cons.mp hw with rfl | hw
      · rw [htext] at hnone
        cases hnone
      · exact ⟨w, hw, hnone⟩

theorem printValues_of_silent (h : s.silent = true) (vs : List Value) : printValues vs s = (.done (), s) := by
  simp only [printValues, Bind.bind, Run.bind, Run.get, h]
  rfl

theorem printValues_of_audible (h : s.silent = false) (vs : List Value) :
    printValues vs s = (printValues.go "" vs >>= fun _ => write "\n") s := by
  simp only [printValues, Bind.bind, Run.bind, Run.get, h]
  rfl

theorem printVars_returns (words : List Value)
    (h : s.silent = false → s.vars.Listable ∧ ∀ w ∈ words, w.text?.isSome = true) :
    ∃ output, printVars words s = (.done (), { s with output := output }) := by
  have hdone : (printVars words s).1 = .done () := by
    simp only [printVars, Bind.bind, Run.bind, Run.get]
    cases hsilent : s.silent with
    | true =>
      cases s.vars.shown? with
      | some text =>
        dsimp only
        rw [printValues_of_silent hsilent]
      | none => rfl
    | false =>
      obtain ⟨hlistable, hwords⟩ := h hsilent
      obtain ⟨text, htext⟩ := Option.isSome_iff_exists.mp (Table.isSome_shown?_iff.mpr hlistable)
      have hall : ∀ w ∈ words ++ [.str text], w.text?.isSome = true := by
        intro w hw
        rcases List.mem_append.mp hw with hw | hw
        · exact hwords w hw
        · rw [List.mem_singleton.mp hw]
          rfl
      obtain ⟨t, ht⟩ := printValues_go_of_texts hall "" s
      simp only [htext]
      rw [printValues_of_audible hsilent, Run.bind_of_done ht]
      rfl
  obtain ⟨output, houtput⟩ := printVars_eq words s
  exact ⟨output, Prod.ext hdone houtput⟩

theorem printVars_fails (words : List Value) (hsilent : s.silent = false)
    (h : ¬ (s.vars.Listable ∧ ∀ w ∈ words, w.text?.isSome = true)) :
    ∃ f t, printVars words s = (.failed f, t) := by
  cases htext : s.vars.shown? with
  | none =>
    simp only [printVars, Bind.bind, Run.bind, Run.get, htext, hsilent]
    cases words with
    | nil => exact ⟨_, _, rfl⟩
    | cons w words => exact ⟨_, _, rfl⟩
  | some text =>
    have hlistable : s.vars.Listable := Table.isSome_shown?_iff.mp (by rw [htext]; rfl)
    have hword : ∃ w ∈ words ++ [.str text], w.text? = none := by
      by_contra hall
      refine h ⟨hlistable, fun w hw => Option.isSome_iff_ne_none.mpr fun hnone => ?_⟩
      exact hall ⟨w, List.mem_append_left _ hw, hnone⟩
    obtain ⟨f, t, ht⟩ := printValues_go_of_textless hword "" s
    refine ⟨f, t, ?_⟩
    simp only [printVars, Bind.bind, Run.bind, Run.get, htext]
    rw [printValues_of_audible hsilent, Run.bind_of_failed ht]

end Listing

end LineScript
