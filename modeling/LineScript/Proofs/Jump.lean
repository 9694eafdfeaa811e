import LineScript.Proofs.Body
import LineScript.Proofs.Statement

/-!
# Jumps lead to the nearest end

A header jumps to the nearest `end` behind it, and what it stores or runs are the lines strictly in between.
The condition of a branch may call functions and its block has indices of its own, but none of these gets out:
where a line jumps to depends on the lines around it alone.

The loop over lines runs over what is left of them, and so it has no way back. `Visits` is the loop that keeps
an index instead and takes it wherever a line sends it: to earlier lines, behind the last one, or below zero,
where indices count from the end. Since jumps lead forward and stay among the lines, the two are one loop.
-/

namespace LineScript

open Run

/-! ## The nearest end -/

/-- The nearest `end` behind the line at index `i` is the line at index `j`. -/
structure NearestEnd (lines : List String) (i j : Nat) : Prop where
  behind : i < j
  inside : j < lines.length
  stop : lines[j]?.any closesBlock = true
  first : ∀ k < j, i < k → lines[k]?.any closesBlock = false

instance (lines : List String) (i j : Nat) : Decidable (NearestEnd lines i j) :=
  decidable_of_iff (i < j ∧ j < lines.length ∧ lines[j]?.any closesBlock = true ∧
      ∀ k < j, i < k → lines[k]?.any closesBlock = false)
    ⟨fun h => ⟨h.1, h.2.1, h.2.2.1, h.2.2.2⟩, fun h => ⟨h.behind, h.inside, h.stop, h.first⟩⟩

section Nearest

variable {lines block : List String} {i j n : Nat} {source : String}

theorem between_eq_take (lines : List String) (i n : Nat) :
    between lines i (i + 1 + n) = (lines.drop (i + 1)).take n := by
  rw [between, List.drop_take, Nat.add_sub_cancel_left]

/-- The block behind a line, and the length of it, say where the nearest `end` is. -/
theorem nearestEnd_of_splitBlock (h : splitBlock (lines.drop (i + 1)) = some (block, n)) :
    NearestEnd lines i (i + 1 + n) ∧ between lines i (i + 1 + n) = block := by
  have hends : Endless block := endless_of_splitBlock h
  obtain ⟨stop, back, hdrop, hstop, rfl⟩ := append_of_splitBlock h
  -- An index among the lines behind the header is an index among all lines, moved by `i + 1`.
  have hat : ∀ m, lines[i + 1 + m]? = (block ++ stop :: back)[m]? := by
    intro m
    rw [← hdrop, List.getElem?_drop]
  have hfound : lines[i + 1 + block.length]? = some stop := by simp [hat]
  refine ⟨⟨by omega, (List.getElem?_eq_some_iff.mp hfound).1, by simp [hfound, hstop], ?_⟩, ?_⟩
  · intro k hk hik
    obtain ⟨m, rfl⟩ : ∃ m, k = i + 1 + m := ⟨k - (i + 1), by omega⟩
    rw [hat, List.getElem?_append_left (by omega)]
    cases hline : block[m]? with
    | none => rfl
    | some line => exact hends line (List.mem_of_getElem? hline)
  · rw [between_eq_take, hdrop, List.take_left]

theorem NearestEnd.endless (h : NearestEnd lines i j) : Endless (between lines i j) := by
  intro line hline
  obtain ⟨m, hm⟩ := List.mem_iff_getElem?.mp hline
  rw [between, List.getElem?_drop, List.getElem?_take] at hm
  split at hm
  · rename_i hlt
    have hfirst := h.first _ hlt (by omega)
    rwa [hm] at hfirst
  · cases hm

theorem NearestEnd.splitBlock_eq (h : NearestEnd lines i (i + 1 + n)) :
    splitBlock (lines.drop (i + 1)) = some (between lines i (i + 1 + n), n) := by
  obtain ⟨stop, hline, hstop⟩ := (Option.any_eq_true _ _).mp h.stop
  have hinside := h.inside
  have hlength : (between lines i (i + 1 + n)).length = n := by
    rw [between_eq_take, List.length_take, List.length_drop]
    omega
  have hdrop : lines.drop (i + 1) = between lines i (i + 1 + n) ++ stop :: lines.drop (i + 1 + n + 1) := by
    rw [between_eq_take, ← drop_eq_cons hline, ← @List.drop_drop _ n (i + 1), List.take_append_drop]
  rw [hdrop, splitBlock_append h.endless hstop, hlength]

/-- The block of a line is made of the lines up to the nearest `end`. -/
theorem Place.block_eq_ok_iff {r : Int} :
    Place.block ⟨some lines, some i, source⟩ = .ok (block, r) ↔
      ∃ j : Nat, r = j ∧ NearestEnd lines i j ∧ between lines i j = block := by
  constructor
  · intro h
    cases hsplit : splitBlock (lines.drop (i + 1)) with
    | none =>
      rw [Place.block_of_splitBlock_none hsplit] at h
      cases h
    | some b =>
      rw [Place.block_of_splitBlock hsplit] at h
      obtain ⟨rfl, rfl⟩ : b.1 = block ∧ (i : Int) + 1 + b.2 = r := by simpa using h
      exact ⟨i + 1 + b.2, by omega, nearestEnd_of_splitBlock hsplit⟩
  · rintro ⟨j, rfl, hnearest, rfl⟩
    have hbehind := hnearest.behind
    obtain ⟨n, rfl⟩ : ∃ n, j = i + 1 + n := ⟨j - (i + 1), by omega⟩
    rw [Place.block_of_splitBlock hnearest.splitBlock_eq]
    congr 2

end Nearest

/-! ## Lines that jump -/

/-- What a header does with its block between two sessions: a definition stores it as the body of a function,
and a branch runs it if its condition counts as true, and passes it over if it does not. -/
inductive UsesBlock (call : Caller) (run : List String → Run (Option Value)) (block : List String) :
    Statement → Session → Session → Prop where
  | stores (name : String) (params : List String) (s : Session) :
      UsesBlock call run block (.define name params) s
        { s with funcs := s.funcs.set name ⟨params, block⟩ }
  | runs {condition : String} {c : Value} {s t u : Session}
      (hvalue : evalText call condition s = (.done c, t)) (htaken : c.truthy = true)
      (hrun : run block t = (.done none, u)) : UsesBlock call run block (.branch condition) s u
  | passes {condition : String} {c : Value} {s t : Session}
      (hvalue : evalText call condition s = (.done c, t)) (hpassed : c.truthy = false) :
      UsesBlock call run block (.branch condition) s t

section Jumps

variable {call : Caller} {run : List String → Run (Option Value)} {p : Place} {s t : Session} {r : Int}
  {host : Host} {line : String}

/-- A statement jumps exactly if it is a header that has found its block and is through with it. -/
theorem Statement.exec_eq_jump_iff {st : Statement} :
    st.exec call run p s = (.done (.jump r), t) ↔
      ∃ block, p.block = .ok (block, r) ∧ UsesBlock call run block st s t := by
  constructor
  · intro h
    -- The steps are taken apart up to the last one, which says what the statement leads to.
    cases st with
    | assign name expr =>
      obtain ⟨v, u, -, h⟩ := bind_eq_done h
      obtain ⟨_, _, -, h⟩ := bind_eq_done h
      cases h
    | print expr =>
      obtain ⟨v, u, -, h⟩ := bind_eq_done h
      obtain ⟨_, _, -, h⟩ := bind_eq_done h
      cases h
    | giveBack expr =>
      obtain ⟨v, u, -, h⟩ := bind_eq_done h
      cases h
    | define name params =>
      obtain ⟨b, hb, h⟩ := ofResult_bind_eq_done h
      cases h
      exact ⟨b.1, hb, .stores name params s⟩
    | branch condition =>
      rw [Statement.exec_branch] at h
      obtain ⟨c, u, hvalue, h⟩ := bind_eq_done h
      obtain ⟨b, hb, h⟩ := ofResult_bind_eq_done h
      split at h
      · rename_i htaken
        obtain ⟨given, u', hrun, h⟩ := bind_eq_done h
        -- A value that the block gives back is passed on, and no jump.
        cases given with
        | some v => cases h
        | none =>
          cases h
          exact ⟨b.1, hb, .runs hvalue htaken hrun⟩
      · rename_i hpassed
        cases h
        exact ⟨b.1, hb, .passes hvalue (by simpa using hpassed)⟩
  · rintro ⟨block, hblock, huse⟩
    cases huse with
    | stores name params =>
      rw [Statement.exec, hblock]
      rfl
    | runs hvalue htaken hrun =>
      rw [Statement.exec_branch, bind_of_done hvalue, hblock]
      change (if _ then _ else _ : Run LineResult) _ = _
      rw [if_pos htaken, Run.orJump, bind_of_done hrun]
      rfl
    | passes hvalue hpassed =>
      rw [Statement.exec_branch, bind_of_done hvalue, hblock]
      change (if _ then _ else _ : Run LineResult) _ = _
      rw [if_neg (by simp [hpassed])]
      rfl

/-- A line jumps exactly if it is a header with an `end` behind it, and then to the nearest one. It stores or
runs the lines in between, unless its condition does not hold. -/
theorem execLineWith_eq_jump_iff {lines : List String} {i : Nat} {source : String} :
    execLineWith host call run ⟨some lines, some i, source⟩ line s = (.done (.jump r), t) ↔
      ∃ (j : Nat) (st : Statement) (u : Session), r = j ∧ NearestEnd lines i j ∧
        Statement.ofLine? (Text.strip line) = some st ∧
        host.beforeLine call ⟨some lines, some i, source⟩ line s = (.done (), u) ∧
        UsesBlock call run (between lines i j) st u t := by
  constructor
  · intro h
    obtain ⟨st, u, hst, hbefore, hjump⟩ := exists_of_execLineWith_jump h
    obtain ⟨block, hblock, huse⟩ := Statement.exec_eq_jump_iff.mp hjump
    obtain ⟨j, hr, hnearest, rfl⟩ := Place.block_eq_ok_iff.mp hblock
    exact ⟨j, st, u, hr, hnearest, hst, hbefore, huse⟩
  · rintro ⟨j, st, u, hr, hnearest, hst, hbefore, huse⟩
    have hblock : Place.block ⟨some lines, some i, source⟩ = .ok (between lines i j, r) :=
      Place.block_eq_ok_iff.mpr ⟨j, hr, hnearest, rfl⟩
    rw [execLineWith_of_statement hst hbefore]
    exact Statement.exec_eq_jump_iff.mpr ⟨_, hblock, huse⟩

end Jumps

/-! ## The loop with an index -/

/-- The line at an index. An index below zero counts from the end. -/
def lineAt (lines : List String) (i : Int) : Result String := do
  match ← linesFrom lines i with
  | line :: _ => return line
  | [] => throw .index

/-- Where the line at index `i` leads: on to an index, or to the end of the loop. -/
def Outcome.leadsTo (i : Int) : Outcome LineResult → Int ⊕ Outcome (Option Value)
  | .done .next => .inl (i + 1)
  | .done (.jump r) => .inl (r + 1)
  | .done (.returned v) => .inr (.done (some v))
  | .failed f => .inr (.failed f)
  | .unfinished => .inr .unfinished

/-- One turn of the loop, at an index: the line there is executed. -/
def turnAt (exec : Int → String → Run LineResult) (lines : List String) (i : Int) (s : Session) :
    (Int ⊕ Outcome (Option Value)) × Session :=
  match lineAt lines i with
  | .ok line => ((exec i line s).1.leadsTo i, (exec i line s).2)
  | .error f => (.inr (.failed f), s)

/-- The loop that keeps an index, and takes turns while the index is below the number of lines. From an index
in a session, it visits a list of indices and ends with an outcome in a session. -/
inductive Visits (exec : Int → String → Run LineResult) (lines : List String) :
    Int → Session → List Int → Outcome (Option Value) × Session → Prop where
  | past {i : Int} {s : Session} (hi : ¬ i < lines.length) : Visits exec lines i s [] (.done none, s)
  | goesOn {i j : Int} {s t : Session} {visited : List Int} {o : Outcome (Option Value) × Session}
      (hi : i < lines.length) (hturn : turnAt exec lines i s = (.inl j, t))
      (hrest : Visits exec lines j t visited o) : Visits exec lines i s (i :: visited) o
  | ends {i : Int} {s t : Session} {o : Outcome (Option Value)} (hi : i < lines.length)
      (hturn : turnAt exec lines i s = (.inr o, t)) : Visits exec lines i s [i] (o, t)

/-- From the first line on, the loop with an index ends as `o` says and in no other way. The indices that it
visits are indices of lines, and each is above those before it. -/
def LoopsInOrder (exec : Int → String → Run LineResult) (lines : List String) (s : Session)
    (o : Outcome (Option Value) × Session) : Prop :=
  ∃ visited, Visits exec lines 0 s visited o ∧ visited.Pairwise (· < ·) ∧
    (∀ i ∈ visited, 0 ≤ i ∧ i < lines.length) ∧
    ∀ visited' o', Visits exec lines 0 s visited' o' → visited' = visited ∧ o' = o

/-- Jumps from lines lead to lines behind them. -/
def LeadsForward (exec : Int → String → Run LineResult) (lines : List String) : Prop :=
  ∀ (i : Nat) line s r t, exec i line s = (.done (.jump r), t) → ∃ j : Nat, r = j ∧ i < j ∧ j < lines.length

section Loop

variable {exec : Int → String → Run LineResult} {lines : List String} {s t : Session} {i : Nat}

/-- The lines from an index on begin with the one that is executed there. -/
theorem exists_turnAt (exec : Int → String → Run LineResult) (hi : i < lines.length) (s : Session) :
    ∃ line, lines.drop i = line :: lines.drop (i + 1) ∧
      turnAt exec lines i s = ((exec i line s).1.leadsTo i, (exec i line s).2) := by
  have hdrop := List.drop_eq_getElem_cons hi
  have hfrom : linesFrom lines i = .ok (lines.drop i) := by
    rw [linesFrom, if_pos (by omega), Int.toNat_natCast]
  refine ⟨lines[i], hdrop, ?_⟩
  simp only [turnAt, lineAt, hfrom, hdrop, bind, Except.bind]
  rfl

/-- A turn leads forward, and not past the end of the lines. -/
theorem LeadsForward.lt_of_turnAt (h : LeadsForward exec lines) {j : Int} (hi : i < lines.length)
    (hturn : turnAt exec lines i s = (.inl j, t)) : ∃ k : Nat, j = k ∧ i < k ∧ k ≤ lines.length := by
  obtain ⟨line, -, hline⟩ := exists_turnAt exec hi s
  rw [hline] at hturn
  have hlead : (exec i line s).1.leadsTo i = .inl j := congrArg Prod.fst hturn
  rcases hexec : exec i line s with ⟨o, u⟩
  rw [hexec] at hlead
  cases o with
  | done r =>
    cases r with
    | next =>
      cases hlead
      exact ⟨i + 1, by omega, by omega, by omega⟩
    | jump r =>
      cases hlead
      obtain ⟨k, rfl, hlt, hinside⟩ := h i line s r u hexec
      exact ⟨k + 1, by omega, by omega, by omega⟩
    | returned v => cases hlead
  | failed f => cases hlead
  | unfinished => cases hlead

/-- The loop over what is left of the lines takes the same turns. -/
theorem LeadsForward.runFrom_eq (h : LeadsForward exec lines) (hi : i < lines.length) (s : Session) :
    runFrom (fun n => exec n) 0 i (lines.drop i) s =
      Sum.elim (fun j => runFrom (fun n => exec n) 0 j.toNat (lines.drop j.toNat)) Prod.mk
        (turnAt exec lines i s).1 (turnAt exec lines i s).2 := by
  obtain ⟨line, hdrop, hturn⟩ := exists_turnAt exec hi s
  rw [hturn, hdrop, runFrom_cons]
  rcases hexec : exec i line s with ⟨o, t⟩
  cases o with
  | done r =>
    rw [bind_of_done hexec]
    cases r with
    | next => rfl
    | jump r =>
      obtain ⟨k, rfl, hlt, -⟩ := h i line s r t hexec
      -- The lines that are left out are those up to the one that is jumped to.
      have hindex : i + 1 + ((k : Int) - i).toNat = ((k : Int) + 1).toNat := by omega
      rw [LineResult.follow, runFrom_skip, List.drop_drop, hindex]
      rfl
    | returned v => rfl
  | failed f => exact bind_of_failed hexec
  | unfinished =>
    simp only [Bind.bind, Run.bind, hexec]
    rfl

namespace Visits

variable {visited visited' : List Int} {o o' : Outcome (Option Value) × Session}

/-- The loop goes one way. -/
theorem unique {i : Int} (h : Visits exec lines i s visited o) (h' : Visits exec lines i s visited' o') :
    visited' = visited ∧ o' = o := by
  induction h generalizing visited' o' with
  | past hi =>
    cases h' with
    | past => exact ⟨rfl, rfl⟩
    | goesOn hi' => exact absurd hi' hi
    | ends hi' => exact absurd hi' hi
  | goesOn hi hturn _ ih =>
    cases h' with
    | past hi' => exact absurd hi hi'
    | goesOn _ hturn' hrest' =>
      rw [hturn] at hturn'
      cases hturn'
      obtain ⟨rfl, rfl⟩ := ih hrest'
      exact ⟨rfl, rfl⟩
    | ends _ hturn' =>
      rw [hturn] at hturn'
      cases hturn'
  | ends hi hturn =>
    cases h' with
    | past hi' => exact absurd hi hi'
    | goesOn _ hturn' =>
      rw [hturn] at hturn'
      cases hturn'
    | ends _ hturn' =>
      rw [hturn] at hturn'
      cases hturn'
      exact ⟨rfl, rfl⟩

/-- The visited indices increase, and are indices of lines. -/
theorem increasing (hforward : LeadsForward exec lines) {i : Int} (h : Visits exec lines i s visited o)
    (hi : 0 ≤ i) : visited.Pairwise (· < ·) ∧ ∀ k ∈ visited, i ≤ k ∧ k < lines.length := by
  induction h with
  | past => simp
  | goesOn hlt hturn _ ih =>
    obtain ⟨n, rfl⟩ := Int.eq_ofNat_of_zero_le hi
    obtain ⟨k, rfl, hnk, -⟩ := hforward.lt_of_turnAt (by omega) hturn
    obtain ⟨hpairwise, hinside⟩ := ih (by omega)
    -- All that is visited later is at least `k`, and that is above the index of this turn.
    refine ⟨List.pairwise_cons.mpr ⟨fun m hm => ?_, hpairwise⟩, fun m hm => ?_⟩
    · have hkm := (hinside m hm).1
      omega
    · rcases List.mem_cons.mp hm with rfl | hm
      · omega
      · have hkm := hinside m hm
        omega
  | ends hlt => simpa using hlt

/-- The loop with an index ends as the loop over what is left of the lines does. -/
theorem eq_runFrom (hforward : LeadsForward exec lines) (h : Visits exec lines i s visited o) :
    o = runFrom (fun n => exec n) 0 i (lines.drop i) s := by
  -- The loop may have any index, but while jumps lead forward it is never below zero.
  generalize hindex : (i : Int) = index at h
  induction h generalizing i with
  | past hi =>
    rw [List.drop_of_length_le (by omega)]
    rfl
  | goesOn hi hturn _ ih =>
    subst hindex
    obtain ⟨k, rfl, -, -⟩ := hforward.lt_of_turnAt (by omega) hturn
    rw [hforward.runFrom_eq (by omega), hturn]
    exact ih rfl
  | ends hi hturn =>
    subst hindex
    rw [hforward.runFrom_eq (by omega), hturn]
    rfl

end Visits

/-- The loop with an index ends, since every turn leads forward. -/
theorem LeadsForward.exists_visits (h : LeadsForward exec lines) (hi : i ≤ lines.length) (s : Session) :
    ∃ visited o, Visits exec lines i s visited o := by
  -- The induction is on the number of lines that are left.
  induction hleft : lines.length - i using Nat.strong_induction_on generalizing i s with
  | _ left ih =>
    rcases Nat.lt_or_eq_of_le hi with hlt | rfl
    · rcases hturn : turnAt exec lines i s with ⟨next | o, t⟩
      · obtain ⟨k, rfl, hik, hk⟩ := h.lt_of_turnAt hlt hturn
        obtain ⟨visited, o, hrest⟩ := ih (lines.length - k) (by omega) hk t rfl
        exact ⟨i :: visited, o, .goesOn (by omega) hturn hrest⟩
      · exact ⟨[(i : Int)], (o, t), .ends (by omega) hturn⟩
    · exact ⟨[], (.done none, s), .past (by omega)⟩

/-- If jumps lead forward, the loop over lines is the loop with an index, which goes through them in order. -/
theorem LeadsForward.loopsInOrder (h : LeadsForward exec lines) (s : Session) :
    LoopsInOrder exec lines s (runFrom (fun n => exec n) 0 0 lines s) := by
  obtain ⟨visited, o, hvisits⟩ := h.exists_visits (Nat.zero_le _) s
  have hend : o = runFrom (fun n => exec n) 0 0 lines s := hvisits.eq_runFrom h
  subst hend
  obtain ⟨hpairwise, hinside⟩ := hvisits.increasing h (Int.le_refl 0)
  exact ⟨visited, hvisits, hpairwise, hinside, fun _ _ h' => hvisits.unique h'⟩

end Loop

/-! ## The three loops -/

section Loops

variable {host : Host} {call : Caller}

theorem leadsForward_execLineWith (host : Host) (call : Caller) (run : List String → Run (Option Value))
    (source : String) (lines : List String) :
    LeadsForward (fun i => execLineWith host call run ⟨some lines, some i, source⟩) lines := by
  intro i line s r t h
  obtain ⟨j, -, -, hr, hnearest, -⟩ := execLineWith_eq_jump_iff.mp h
  exact ⟨j, hr, hnearest.behind, hnearest.inside⟩

theorem runLines_loopsInOrder (host : Host) (call : Caller) (source : String) (lines : List String)
    (s : Session) :
    LoopsInOrder (fun i => execLine host call ⟨some lines, some i, source⟩) lines s
      (runLines host call source lines s) :=
  (leadsForward_execLineWith host call (runBlock host call) source lines).loopsInOrder s

/-- A line without a block runs none. -/
theorem execLineWith_eq_of_block_error {p : Place} {f : Fault} (h : p.block = .error f)
    (run run' : List String → Run (Option Value)) :
    execLineWith host call run p = execLineWith host call run' p := by
  have hstatement : ∀ st : Statement, st.exec call run p = st.exec call run' p := by
    intro st
    cases st with
    | branch condition =>
      simp only [Statement.exec, h]
      rfl
    | _ => rfl
  funext line
  simp only [execLineWith, hstatement]

/-- Lines without an `end` hold no blocks, so they run as the block of a branch as they do elsewhere. -/
theorem Endless.runBlock_eq_runLines {lines : List String} (h : Endless lines) (host : Host)
    (call : Caller) : runBlock host call lines = runLines host call unnamedSource lines := by
  have hexec : ∀ i : Nat,
      execLineWith host call (fun _ => Run.fail .missingEnd) ⟨some lines, some i, unnamedSource⟩ =
        execLineWith host call (runBlock host call) ⟨some lines, some i, unnamedSource⟩ := by
    intro i
    have hnone := (h.drop (i + 1)).splitBlock_eq_none
    exact execLineWith_eq_of_block_error (Place.block_of_splitBlock_none hnone unnamedSource) _ _
  rw [runBlock, runLines, runLinesWith, runLinesWith, funext hexec]

end Loops

/-- Jumps lead to the nearest `end`. At every depth of calls and in every session, a line at an index jumps
exactly if it is a header that has an `end` behind it and is through with its block after the debugger has let
it pass. It jumps to the nearest such `end`, and its block is made of the lines strictly in between: a
definition stores them, and a branch whose condition counts as true runs them. So the loops over the lines of
a file, of the body of a function and of the block of a branch are loops that keep an index and take it where
the lines lead. They visit indices of lines only, each above the one before it, and end in one way. -/
theorem jumps_lead_to_nearest_end (depth : Nat) :
    let call := callNamed .standard depth
    let exec := fun (source : String) (lines : List String) (i : Int) =>
      execLine .standard call ⟨some lines, some i, source⟩
    (∀ (source line : String) (lines : List String) (i : Nat) (r : Int) (s t : Session),
      exec source lines i line s = (.done (.jump r), t) ↔
        ∃ (j : Nat) (header : Statement) (u : Session), r = j ∧ NearestEnd lines i j ∧
          Statement.ofLine? (Text.strip line) = some header ∧
          pauseIfAsked call ⟨some lines, some i, source⟩ line s = (.done (), u) ∧
          UsesBlock call (runBlock .standard call) (between lines i j) header u t) ∧
    (∀ (path : String) (lines : List String) (s : Session), s.files.readLines path = .ok lines →
      LoopsInOrder (exec path lines) lines s (Host.standard.runFile depth path s)) ∧
    (∀ (name : String) (f : Function) (args : List Value) (s : Session),
      args.length = f.params.length →
      ∃ o, LoopsInOrder (exec ("<func " ++ name ++ ">") f.body) f.body (s.enter f args) o ∧
        callBody .standard call name f args s = (o.1.map (·.getD .none), o.2.leave s)) ∧
    ∀ (p : Place) (block : List String) (stop : Int) (s : Session), p.block = .ok (block, stop) →
      LoopsInOrder (exec unnamedSource block) block s (runBlock .standard call block s) := by
  intro call exec
  refine ⟨?_, ?_, ?_, ?_⟩
  · intro source line lines i r s t
    exact execLineWith_eq_jump_iff
  · intro path lines s hlines
    rw [Host.runFile_of_readLines hlines]
    exact runLines_loopsInOrder .standard call path lines s
  · intro name f args s hlength
    refine ⟨_, runLines_loopsInOrder .standard call ("<func " ++ name ++ ">") f.body (s.enter f args), ?_⟩
    rw [callBody_of_length_eq name hlength]
    change ((runBody .standard call name f (s.enter f args)).1,
      (runBody .standard call name f (s.enter f args)).2.leave s) = _
    rw [runBody, Run.bind_pure_eq]
  · intro p block stop s hblock
    rw [(Place.endless_of_block hblock).runBlock_eq_runLines]
    exact runLines_loopsInOrder .standard call unnamedSource block s

/-- The definition stores the line before its `end`. The block of the branch ends at the first `end` as well, and
the header inside of it is left without one. -/
theorem tangled_jumps_and_loops :
    let lines := tangledLines.map (· ++ "\n")
    let call := callNamed .standard 3
    let exec := fun (source : String) (lines : List String) (i : Int) =>
      execLine .standard call ⟨some lines, some i, source⟩
    exec "p" lines 0 "def f(n):\n" tangled =
      (.done (.jump 2), { tangled with funcs := tangled.funcs.set "f" ⟨["n"], ["return n + 1\n"]⟩ }) ∧
    LoopsInOrder (exec "p" lines) lines tangled (Host.standard.runFile 3 "p" tangled) ∧
    (∃ o, LoopsInOrder (exec ("<func " ++ "main" ++ ">") lines) lines (tangled.enter ⟨[], lines⟩ []) o ∧
      callBody .standard call "main" ⟨[], lines⟩ [] tangled = (o.1.map (·.getD .none), o.2.leave tangled)) ∧
    LoopsInOrder (exec unnamedSource ["stryprint x\n", "if (x):\n", "return 1\n"])
      ["stryprint x\n", "if (x):\n", "return 1\n"] tangled
      (runBlock .standard call ["stryprint x\n", "if (x):\n", "return 1\n"] tangled) := by
  intro lines call exec
  obtain ⟨hjumps, hfile, hbody, hbranch⟩ := jumps_lead_to_nearest_end 3
  have hread : Statement.ofLine? (Text.strip "def f(n):\n") = some (.define "f" ["n"]) := by decide +kernel
  have hnearest : NearestEnd lines 0 2 := by decide +kernel
  have hblock : Place.block ⟨some lines, some (4 : Nat), "p"⟩ =
      .ok (["stryprint x\n", "if (x):\n", "return 1\n"], (8 : Nat)) :=
    Place.block_eq_ok_iff.mpr ⟨8, rfl, by decide +kernel, rfl⟩
  refine ⟨?_, hfile "p" lines tangled tangled_lines, hbody "main" ⟨[], lines⟩ [] tangled rfl,
    hbranch _ _ _ tangled hblock⟩
  exact (hjumps "p" "def f(n):\n" lines 0 2 tangled _).mpr ⟨2, _, tangled, rfl, hnearest, hread,
    pauseIfAsked_of_off ⟨rfl, rfl, rfl⟩ _ _ _, .stores "f" ["n"] tangled⟩

end LineScript
