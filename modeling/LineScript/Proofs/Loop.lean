import LineScript.Proofs.Blocks

/-!
# The loop over lines

A loop executes a line, and goes on with the next one or after the line that it jumps to. The block of a
header is what `splitBlock` finds behind it. `Arrives` follows a loop from index to index, and says that it
comes to a line in some session: the rest of the run is then the run of the lines from there on.
-/

namespace LineScript

namespace Run

variable {m : Run α} {k : α → Run β} {s t : Session}

theorem bind_assoc (m : Run α) (k : α → Run β) (k' : β → Run γ) :
    (m >>= k) >>= k' = m >>= fun a => k a >>= k' := by
  funext s
  simp only [Bind.bind, Run.bind]
  rcases m s with ⟨o, t⟩
  cases o <;> rfl

theorem bind_of_done {a : α} (h : m s = (.done a, t)) : (m >>= k) s = k a t := by
  simp only [Bind.bind, Run.bind, h]

theorem bind_of_failed {f : Fault} (h : m s = (.failed f, t)) : (m >>= k) s = (.failed f, t) := by
  simp only [Bind.bind, Run.bind, h]

/-- What would follow a run without a value makes no difference. -/
theorem bind_of_not_done (h : ∀ a t, m s ≠ (.done a, t)) (k k' : α → Run β) :
    (m >>= k) s = (m >>= k') s := by
  simp only [Bind.bind, Run.bind]
  rcases hm : m s with ⟨o, t⟩
  cases o with
  | done a => exact absurd hm (h a t)
  | failed f => rfl
  | unfinished => rfl

theorem pure_bind (a : α) (k : α → Run β) : (Pure.pure a : Run α) >>= k = k a :=
  rfl

theorem bind_pure (m : Run α) : m >>= Pure.pure = m := by
  funext s
  simp only [Bind.bind, Run.bind]
  rcases m s with ⟨o, t⟩
  cases o <;> rfl

theorem bind_congr_at {m' : Run α} (h : m s = m' t) (k : α → Run β) : (m >>= k) s = (m' >>= k) t := by
  simp only [Bind.bind, Run.bind, h]

theorem bind_eq_done {b : β} (h : (m >>= k) s = (.done b, t)) :
    ∃ a u, m s = (.done a, u) ∧ k a u = (.done b, t) := by
  simp only [Bind.bind, Run.bind] at h
  rcases hm : m s with ⟨o, u⟩
  rw [hm] at h
  cases o with
  | done a => exact ⟨a, u, rfl, h⟩
  | failed f => simp at h
  | unfinished => simp at h

theorem ofResult_eq_done {r : Result α} {a : α} (h : Run.ofResult r s = (.done a, t)) :
    r = .ok a ∧ t = s := by
  cases r with
  | ok b =>
    simp only [Run.ofResult, Pure.pure, Run.pure, Prod.mk.injEq, Outcome.done.injEq] at h
    exact ⟨congrArg _ h.1, h.2.symm⟩
  | error f => simp [Run.ofResult, Run.fail] at h

theorem ofResult_eq_done_iff {r : Result α} {a : α} : Run.ofResult r s = (.done a, s) ↔ r = .ok a := by
  refine ⟨fun h => (ofResult_eq_done h).1, ?_⟩
  rintro rfl
  rfl

theorem ofResult_bind_eq_done {r : Result α} {b : β} (h : (Run.ofResult r >>= k) s = (.done b, t)) :
    ∃ a, r = .ok a ∧ k a s = (.done b, t) := by
  obtain ⟨a, u, hr, hk⟩ := bind_eq_done h
  obtain ⟨rfl, rfl⟩ := ofResult_eq_done hr
  exact ⟨a, rfl, hk⟩

end Run

def Outcome.isDone : Outcome α → Bool
  | .done _ => true
  | .failed _ => false
  | .unfinished => false

theorem Outcome.exists_of_isDone {α : Type} {o : Outcome α × Session} (h : o.1.isDone = true) :
    ∃ a s, o = (.done a, s) := by
  obtain ⟨o, s⟩ := o
  cases o with
  | done a => exact ⟨a, s, rfl⟩
  | failed f => cases h
  | unfinished => cases h

theorem Outcome.eq_of_fst {α : Type} {o : Outcome α × Session} {a : α} (h : o.1 = .done a) :
    o = (.done a, o.2) :=
  Prod.ext h rfl

/-! ## Steps -/

/-- Go on after a line at index `i`. -/
def LineResult.follow (go : Nat → Run (Option Value)) (i : Nat) : LineResult → Run (Option Value)
  | .next => go 0
  | .jump j => go (j - i).toNat
  | .returned v => pure (some v)

theorem runFrom_cons (exec : Nat → String → Run LineResult) (i : Nat) (line : String)
    (rest : List String) :
    runFrom exec 0 i (line :: rest) =
      exec i line >>= LineResult.follow (fun skip => runFrom exec skip (i + 1) rest) i := by
  rw [runFrom]
  rfl

theorem runFrom_skip (exec : Nat → String → Run LineResult) (skip i : Nat) (lines : List String) :
    runFrom exec skip i lines = runFrom exec 0 (i + skip) (lines.drop skip) := by
  induction lines generalizing skip i with
  | nil => simp [runFrom]
  | cons line rest ih =>
    cases skip with
    | zero => rfl
    | succ skip =>
      rw [runFrom, ih, List.drop_succ_cons]
      congr 1
      omega

theorem follow_jump (go : Nat → Run (Option Value)) (i n : Nat) :
    LineResult.follow go i (.jump ((i : Int) + 1 + n)) = go (n + 1) := by
  have hskip : ((i : Int) + 1 + n - i).toNat = n + 1 := by omega
  rw [LineResult.follow, hskip]

/-! ## Blocks -/

section Block

variable {lines block : List String} {i n : Nat}

theorem linesFrom_succ (lines : List String) (i : Nat) :
    linesFrom lines ((i : Int) + 1) = .ok (lines.drop (i + 1)) := by
  have hindex : ((i : Int) + 1).toNat = i + 1 := by omega
  rw [linesFrom, if_pos (by omega), hindex]

theorem Place.block_of_splitBlock (h : splitBlock (lines.drop (i + 1)) = some (block, n))
    (source : String) :
    Place.block ⟨some lines, some i, source⟩ = .ok (block, (i : Int) + 1 + n) := by
  simp only [Place.block, parseBlock, linesFrom_succ, bind, Except.bind, h]
  rfl

theorem Place.block_of_splitBlock_none (h : splitBlock (lines.drop (i + 1)) = none)
    (source : String) : Place.block ⟨some lines, some i, source⟩ = .error .missingEnd := by
  simp only [Place.block, parseBlock, linesFrom_succ, bind, Except.bind, h]
  rfl

/-- A block ends behind its header. -/
theorem Place.lt_of_block {source : String} {stop : Int}
    (h : Place.block ⟨some lines, some i, source⟩ = .ok (block, stop)) : (i : Int) < stop := by
  cases hsplit : splitBlock (lines.drop (i + 1)) with
  | none =>
    rw [Place.block_of_splitBlock_none hsplit] at h
    cases h
  | some b =>
    rw [Place.block_of_splitBlock hsplit] at h
    simp only [Except.ok.injEq, Prod.mk.injEq] at h
    omega

end Block

section Jumps

variable {call : Caller} {run : List String → Run (Option Value)} {p : Place} {s t : Session}
  {stop : Int}

/-- What a statement with a result leads to. A header has found its block, and jumps to the end of it
unless the block has given a value back; no other statement jumps. -/
theorem Statement.result_cases {st : Statement} {r : LineResult}
    (h : st.exec call run p s = (.done r, t)) :
    (∃ block stop, p.block = .ok (block, stop) ∧ (r = .jump stop ∨ ∃ v, r = .returned v)) ∨
    (st.takesBlock = false ∧ ∀ stop, r ≠ .jump stop) := by
  -- The steps of the statement are taken apart until its last one, which says where to go on.
  cases st with
  | assign name expr =>
    obtain ⟨v, u, -, h⟩ := Run.bind_eq_done h
    obtain ⟨_, _, -, h⟩ := Run.bind_eq_done h
    cases h
    exact .inr ⟨rfl, by simp⟩
  | print expr =>
    obtain ⟨v, u, -, h⟩ := Run.bind_eq_done h
    obtain ⟨_, _, -, h⟩ := Run.bind_eq_done h
    cases h
    exact .inr ⟨rfl, by simp⟩
  | giveBack expr =>
    obtain ⟨v, u, -, h⟩ := Run.bind_eq_done h
    cases h
    exact .inr ⟨rfl, by simp⟩
  | define name params =>
    obtain ⟨b, u, hb, h⟩ := Run.bind_eq_done h
    obtain ⟨_, _, -, h⟩ := Run.bind_eq_done h
    cases h
    exact .inl ⟨b.1, b.2, (Run.ofResult_eq_done hb).1, .inl rfl⟩
  | branch condition =>
    obtain ⟨c, _, -, h⟩ := Run.bind_eq_done h
    obtain ⟨b, u, hb, h⟩ := Run.bind_eq_done h
    refine .inl ⟨b.1, b.2, (Run.ofResult_eq_done hb).1, ?_⟩
    dsimp only at h
    split at h
    · obtain ⟨given, _, -, h⟩ := Run.bind_eq_done h
      cases given with
      | some v =>
        cases h
        exact .inr ⟨v, rfl⟩
      | none =>
        cases h
        exact .inl rfl
    · cases h
      exact .inl rfl

/-- A statement jumps to the end of its block only. -/
theorem Statement.block_of_jump {st : Statement}
    (h : st.exec call run p s = (.done (.jump stop), t)) : ∃ block, p.block = .ok (block, stop) := by
  rcases Statement.result_cases h with ⟨block, stop', hblock, hjump | ⟨v, hgiven⟩⟩ | ⟨-, hother⟩
  · cases hjump
    exact ⟨block, hblock⟩
  · cases hgiven
  · exact absurd rfl (hother stop)

/-- A line that jumps is a statement that does, after what happens before it. -/
theorem exists_of_execLineWith_jump {host : Host} {line : String}
    (h : execLineWith host call run p line s = (.done (.jump stop), t)) :
    ∃ st u, Statement.ofLine? (Text.strip line) = some st ∧
      host.beforeLine call p line s = (.done (), u) ∧
      st.exec call run p u = (.done (.jump stop), t) := by
  simp only [execLineWith] at h
  split at h
  · cases h
  · obtain ⟨_, u, hbefore, h⟩ := Run.bind_eq_done h
    cases hst : Statement.ofLine? (Text.strip line) with
    | none =>
      rw [hst] at h
      cases h
    | some st =>
      rw [hst] at h
      exact ⟨st, u, rfl, hbefore, h⟩

theorem block_of_execLineWith_jump {host : Host} {line : String}
    (h : execLineWith host call run p line s = (.done (.jump stop), t)) :
    ∃ block, p.block = .ok (block, stop) := by
  obtain ⟨st, u, -, -, hjump⟩ := exists_of_execLineWith_jump h
  exact Statement.block_of_jump hjump

/-- A jump leads forward. -/
theorem lt_of_execLineWith_jump {host : Host} {lines : List String} {i : Nat} {source line : String}
    (h : execLineWith host call run ⟨some lines, some i, source⟩ line s = (.done (.jump stop), t)) :
    (i : Int) < stop := by
  obtain ⟨block, hblock⟩ := block_of_execLineWith_jump h
  exact Place.lt_of_block hblock

end Jumps

/-! ## Arriving at a line -/

/-- The loop over lines comes from index `i` in session `s` to index `j` in session `t`. -/
inductive Arrives (exec : Nat → String → Run LineResult) (lines : List String) :
    Nat → Session → Nat → Session → Prop where
  | here (i : Nat) (s : Session) : Arrives exec lines i s i s
  | next {i j : Nat} {s t u : Session} {line : String} (hline : lines[i]? = some line)
      (hnext : exec i line s = (.done .next, t)) (hrest : Arrives exec lines (i + 1) t j u) :
      Arrives exec lines i s j u
  | jump {i j : Nat} {s t u : Session} {line : String} {stop : Int} (hline : lines[i]? = some line)
      (hjump : exec i line s = (.done (.jump stop), t))
      (hrest : Arrives exec lines (stop.toNat + 1) t j u) : Arrives exec lines i s j u

theorem drop_eq_cons {lines : List String} {i : Nat} {line : String} (h : lines[i]? = some line) :
    lines.drop i = line :: lines.drop (i + 1) := by
  obtain ⟨hi, rfl⟩ := List.getElem?_eq_some_iff.mp h
  exact List.drop_eq_getElem_cons hi

/-- What every line preserves holds wherever the loop arrives. -/
theorem Arrives.preserves {exec : Nat → String → Run LineResult} {lines : List String} {i j : Nat}
    {s t : Session} (Inv : Session → Prop) (h : Arrives exec lines i s j t)
    (hexec : ∀ i, ∀ line ∈ lines, ∀ s, Inv s → Inv (exec i line s).2) (hs : Inv s) : Inv t := by
  induction h with
  | here => exact hs
  | @next i _ s _ _ line hline hnext _ ih =>
    have hafter := hexec i line (List.mem_of_getElem? hline) s hs
    rw [hnext] at hafter
    exact ih hafter
  | @jump i _ s _ _ line _ hline hjump _ ih =>
    have hafter := hexec i line (List.mem_of_getElem? hline) s hs
    rw [hjump] at hafter
    exact ih hafter

/-- The loop does not go back. -/
theorem Arrives.le {exec : Nat → String → Run LineResult} {lines : List String} {i j : Nat}
    {s t : Session} (h : Arrives exec lines i s j t)
    (hforward : ∀ i line s stop t, exec i line s = (.done (.jump stop), t) → (i : Int) < stop) :
    i ≤ j := by
  induction h with
  | here => exact Nat.le_refl _
  | next _ _ _ ih => omega
  | jump _ hjump _ ih =>
    have hstop := hforward _ _ _ _ _ hjump
    omega

/-- Where the loop arrives, it goes on with the lines from there. -/
theorem Arrives.runFrom_eq {exec : Nat → String → Run LineResult} {lines : List String} {i j : Nat}
    {s t : Session} (h : Arrives exec lines i s j t)
    (hforward : ∀ i line s stop t, exec i line s = (.done (.jump stop), t) → (i : Int) < stop) :
    runFrom exec 0 i (lines.drop i) s = runFrom exec 0 j (lines.drop j) t := by
  induction h with
  | here => rfl
  | next hline hnext _ ih =>
    rw [drop_eq_cons hline, runFrom_cons, Run.bind_of_done hnext]
    exact ih
  | @jump i _ _ _ _ _ stop hline hjump _ ih =>
    rw [drop_eq_cons hline, runFrom_cons, Run.bind_of_done hjump, LineResult.follow, runFrom_skip,
      List.drop_drop]
    have hstop := hforward _ _ _ _ _ hjump
    -- The lines that are left out are those up to the one that is jumped to.
    have hindex : i + 1 + (stop - i).toNat = stop.toNat + 1 := by omega
    rw [hindex]
    exact ih

end LineScript
