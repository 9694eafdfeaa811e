import LineScript.Measure.Survey
import Mathlib

/-!
# When measuring may stop

Every round counts the benchmarks below the target. The plateau of a sequence of counts is the least of
them, with the number of rounds behind the first one that has it. Measuring may stop when no benchmark is
below the target, or when none of the last three rounds was better than all rounds before it.
-/

namespace LineScript.Measure

namespace Plateau

/-- The plateau of a sequence: the first of the least counts, and the rounds behind it. -/
structure Of (seq : List Int) (p : Plateau) (front back : List Int) : Prop where
  seq_eq : seq = front ++ p.best :: back
  lt_front : ∀ m ∈ front, p.best < m
  le_back : ∀ m ∈ back, p.best ≤ m
  since_eq : p.since = back.length

variable {seq front back : List Int} {p : Plateau}

theorem ofRounds_append (seq : List Int) (n : Int) : ofRounds (seq ++ [n]) = step (ofRounds seq) n := by
  simp [ofRounds]

namespace Of

/-- One more round starts a plateau, or it belongs to the one that there is. -/
theorem step (h : Of seq p front back) (n : Int) :
    ∃ p' front' back', Plateau.step (some p) n = some p' ∧ Of (seq ++ [n]) p' front' back' := by
  by_cases hlt : n < p.best
  · refine ⟨⟨n, 0⟩, seq, [], by simp [Plateau.step, hlt], rfl, fun m hm => ?_, by simp, rfl⟩
    rw [h.seq_eq, List.mem_append, List.mem_cons] at hm
    rcases hm with hm | rfl | hm
    · exact hlt.trans (h.lt_front m hm)
    · exact hlt
    · exact lt_of_lt_of_le hlt (h.le_back m hm)
  · refine ⟨⟨p.best, p.since + 1⟩, front, back ++ [n], by simp [Plateau.step, hlt], ?_, h.lt_front, ?_, ?_⟩
    · simp [h.seq_eq]
    · intro m hm
      rw [List.mem_append, List.mem_singleton] at hm
      rcases hm with hm | rfl
      · exact h.le_back m hm
      · exact not_lt.mp hlt
    · simp [h.since_eq]

theorem min?_eq (h : Of seq p front back) : seq.min? = some p.best := by
  rw [List.min?_eq_some_iff, h.seq_eq]
  refine ⟨by simp, fun m hm => ?_⟩
  rw [List.mem_append, List.mem_cons] at hm
  rcases hm with hm | rfl | hm
  · exact (h.lt_front m hm).le
  · exact le_rfl
  · exact h.le_back m hm

theorem since_eq_sub (h : Of seq p front back) : p.since = seq.length - (seq.idxOf p.best + 1) := by
  have hnew : p.best ∉ front := fun hmem => lt_irrefl _ (h.lt_front _ hmem)
  have hindex : seq.idxOf p.best = front.length := by
    rw [h.seq_eq, List.idxOf_append_of_notMem hnew, List.idxOf_cons_self, Nat.add_zero]
  rw [hindex, h.since_eq, h.seq_eq]
  simp
  omega

end Of

/-- A sequence of rounds has a plateau as soon as there is one round. -/
theorem exists_of (seq : List Int) (n : Int) :
    ∃ p front back, ofRounds (seq ++ [n]) = some p ∧ Of (seq ++ [n]) p front back := by
  -- Induction from the right, since the rounds are added there.
  induction seq using List.reverseRecOn generalizing n with
  | nil => exact ⟨⟨n, 0⟩, [], [], rfl, rfl, by simp, by simp, rfl⟩
  | append_singleton seq m ih =>
    obtain ⟨p, front, back, hp, hof⟩ := ih m
    obtain ⟨p', front', back', hstep, hof'⟩ := hof.step n
    exact ⟨p', front', back', by rw [ofRounds_append, hp, hstep], hof'⟩

end Plateau

/-! ## Rounds without progress -/

/-- None of the last rounds, as many as are waited for, was better than all rounds before it. -/
def Stalled (seq : List Int) : Prop :=
  patience < seq.length ∧
    ∀ front n back, seq = front ++ n :: back → back.length < patience → ¬ ∀ m ∈ front, n < m

theorem Plateau.Of.patience_le_iff {seq front back : List Int} {p : Plateau} (h : p.Of seq front back) :
    patience ≤ p.since ↔ Stalled seq := by
  have hlength : seq.length = front.length + 1 + back.length := by
    rw [h.seq_eq]
    simp
    omega
  rw [h.since_eq]
  constructor
  · intro hle
    refine ⟨by omega, fun front' n back' hseq hshort hbetter => ?_⟩
    -- The first of the least counts comes before the round in question.
    have hlt : front.length < front'.length := by
      rw [hseq] at hlength
      simp at hlength
      omega
    have hbest : p.best ∈ front' := by
      have hget : (front' ++ n :: back')[front.length]? = some p.best := by
        rw [← hseq, h.seq_eq]
        simp
      rw [List.getElem?_append_left hlt] at hget
      exact List.mem_of_getElem? hget
    have hn : n ∈ back := by
      have hget : back[front'.length - (front.length + 1)]? = some n := by
        have hat : seq[front'.length]? = some n := by
          rw [hseq]
          simp
        rw [h.seq_eq, List.getElem?_append_right hlt.le] at hat
        rw [← hat, List.getElem?_cons]
        have hne : front'.length - front.length ≠ 0 := by omega
        simp only [hne, if_false]
        congr 1
      exact List.mem_of_getElem? hget
    exact absurd (hbetter _ hbest) (not_lt.mpr (h.le_back n hn))
  · rintro ⟨-, hlast⟩
    by_contra hfew
    exact hlast front p.best back h.seq_eq (not_le.mp hfew) h.lt_front

/-! ## What is said -/

theorem sayConverged_eq {history : List Int} {r : Round} {below : Nat} (hbelow : r.below = some below)
    (hcoverage : enoughCoverage ≤ sortKey r.percent) (d : Desk) :
    ((sayConverged history r).run.run d).2.printed =
      ((converged? history below).toList.map fun c => .text (c.line ++ "\n")) ++ d.printed := by
  unfold sayConverged
  simp only [hbelow, hcoverage, decide_true, if_true]
  cases converged? history below with
  | none => rfl
  | some c => rfl

theorem line_eq_iff {c c' : Converged} : c.line = c'.line ↔ c.text = c'.text := by
  unfold Converged.line
  generalize "\n>>> STOP: repo_time converged (" = front
  generalize "). Finalize microbench.py now. <<<" = back
  rw [String.append_left_inj, String.append_right_inj]

/-- The two reasons to stop are told apart by their words. -/
theorem text_noneBelow_ne (rounds : Nat) (best : Int) :
    Converged.noneBelow.text ≠ (Converged.noProgress rounds best).text := by
  intro h
  have hzero : "0 below".length = 7 := by decide +kernel
  have hfront : "no improvement in ".length = 18 := by decide +kernel
  have hlength := congrArg String.length h
  unfold Converged.text at hlength
  simp only [String.length_append, toString, hzero, hfront] at hlength
  omega

theorem converged?_eq_noneBelow_iff {history : List Int} {below : Nat} :
    converged? history below = some .noneBelow ↔ below = 0 := by
  unfold converged?
  by_cases hzero : below = 0
  · simp [hzero]
  · simp only [beq_iff_eq, hzero, if_false, iff_false]
    split
    · split <;> simp
    · simp

theorem converged?_eq_noProgress_iff {history : List Int} {below : Nat} :
    (∃ rounds best, converged? history below = some (.noProgress rounds best)) ↔
      below ≠ 0 ∧ Stalled (history ++ [(below : Int)]) := by
  obtain ⟨p, front, back, hp, hof⟩ := Plateau.exists_of history below
  rw [← hof.patience_le_iff]
  unfold converged?
  by_cases hzero : below = 0
  · simp [hzero]
  · simp only [beq_iff_eq, hzero, if_false, hp, ne_eq, not_false_eq_true, true_and]
    by_cases hle : patience ≤ p.since
    · simp [hle]
    · simp [hle]

/-- At the end of a round that knows how many benchmarks are below the target and has covered enough lines: the
plateau of the history with this round is the least count, and the number of rounds behind the first one that
has it. It is said that measuring may stop because no benchmark is below the target exactly if this is so, and
because there is no progress exactly if some are and the rounds are stalled. -/
theorem stop_said_iff (history : List Int) (below : Nat) (r : Round) (hbelow : r.below = some below)
    (hcoverage : enoughCoverage ≤ sortKey r.percent) (d : Desk) :
    let seq := history ++ [(below : Int)]
    let said := ((sayConverged history r).run.run d).2.printed
    (∃ p, Plateau.ofRounds seq = some p ∧ seq.min? = some p.best ∧
      p.since = seq.length - (seq.idxOf p.best + 1)) ∧
    (said = .text (Converged.noneBelow.line ++ "\n") :: d.printed ↔ below = 0) ∧
    ((∃ rounds best, said = .text ((Converged.noProgress rounds best).line ++ "\n") :: d.printed) ↔
      below ≠ 0 ∧ Stalled seq) := by
  intro seq said
  obtain ⟨p, front, back, hp, hof⟩ := Plateau.exists_of history below
  have hsaid : ∀ c : Converged, said = .text (c.line ++ "\n") :: d.printed ↔
      ∃ c', converged? history below = some c' ∧ c'.text = c.text := by
    intro c
    change ((sayConverged history r).run.run d).2.printed = _ ↔ _
    rw [sayConverged_eq hbelow hcoverage]
    cases converged? history below with
    | none => simp
    | some c' =>
      simp only [Option.toList_some, List.map_cons, List.map_nil, List.cons_append, List.nil_append,
        List.cons.injEq, Output.text.injEq, and_true, Option.some.injEq, exists_eq_left']
      rw [String.append_left_inj, line_eq_iff]
  refine ⟨⟨p, hp, hof.min?_eq, hof.since_eq_sub⟩, ?_, ?_⟩
  · rw [hsaid, ← @converged?_eq_noneBelow_iff history]
    constructor
    · rintro ⟨c, hc, htext⟩
      cases c with
      | noneBelow => exact hc
      | noProgress rounds best => exact absurd htext.symm (text_noneBelow_ne rounds best)
    · exact fun h => ⟨_, h, rfl⟩
  · rw [← converged?_eq_noProgress_iff]
    constructor
    · rintro ⟨rounds, best, h⟩
      obtain ⟨c, hc, htext⟩ := (hsaid _).mp h
      cases c with
      | noneBelow => exact absurd htext (text_noneBelow_ne rounds best)
      | noProgress rounds' best' => exact ⟨rounds', best', hc⟩
    · rintro ⟨rounds, best, hc⟩
      exact ⟨rounds, best, (hsaid _).mpr ⟨_, hc, rfl⟩⟩

/-- A round with the given count of benchmarks below the target, which covers enough lines. -/
def roundWith (below : Nat) : Round :=
  { number := 1, time := 0.0, sinceLast := 0.0, percent := .int 75, covered := .int 3, statements := .int 4,
    benches := 1, errors := 0, measured := 0.0, shares := [], below := some below, verdicts := [],
    notChecking := 0 }

theorem stop_said_after_later_best :
    Plateau.ofRounds [5, 3, 4, 3, 3] = some ⟨3, 3⟩ ∧ Stalled [5, 3, 4, 3, 3] ∧
    ∃ rounds best, ((sayConverged [5, 3, 4, 3] (roundWith 3)).run.run ⟨.empty Files.work, [], "", []⟩).2.printed =
      [.text ((Converged.noProgress rounds best).line ++ "\n")] := by
  have hplateau : Plateau.ofRounds [5, 3, 4, 3, 3] = some ⟨3, 3⟩ := by decide
  obtain ⟨p, front, back, hp, hof⟩ := Plateau.exists_of [5, 3, 4, 3] 3
  obtain rfl : p = ⟨3, 3⟩ := Option.some.inj (hp.symm.trans hplateau)
  have hstalled : Stalled [5, 3, 4, 3, 3] := hof.patience_le_iff.mp (by decide)
  obtain ⟨-, -, hsaid⟩ := stop_said_iff [5, 3, 4, 3] 3 (roundWith 3) rfl (by decide +kernel)
    ⟨.empty Files.work, [], "", []⟩
  exact ⟨hplateau, hstalled, hsaid.mpr ⟨by decide, hstalled⟩⟩

end LineScript.Measure
