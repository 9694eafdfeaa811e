import LineScript.Proofs.Straight
import Mathlib

/-!
# Termination

Runs are bounded by the depth of calls, and a run that is not given up at some depth has its end there.
Rank the functions, so that every body calls functions of smaller rank only. Calls then nest at most as
deeply as there are ranks: from some depth on, no run is given up, and all runs are the same.
`Run.Settles` says this of two runs at different depths. It is a congruence, so that only calls and
definitions have to be looked at: calls by induction on the rank, and definitions because the functions
that a script defines are among those that are ranked.
-/

namespace LineScript

namespace Run

/-! ## Runs that finish -/

def Finishes (m : Run α) : Prop :=
  ∀ s, (m s).1 ≠ .unfinished

namespace Finishes

theorem pure (a : α) : Finishes (Pure.pure a : Run α) := by
  intro s h
  cases h

theorem fail (f : Fault) : Finishes (Run.fail f : Run α) := by
  intro s h
  cases h

theorem get : Finishes Run.get := by
  intro s h
  cases h

theorem modify (f : Session → Session) : Finishes (Run.modify f) := by
  intro s h
  cases h

theorem bind {m : Run α} {k : α → Run β} (h : Finishes m) (hk : ∀ a, Finishes (k a)) :
    Finishes (m >>= k) := by
  intro s
  have hm := h s
  simp only [Bind.bind, Run.bind]
  rcases hms : m s with ⟨o, t⟩
  rw [hms] at hm
  cases o with
  | done a => exact hk a t
  | failed f => simp
  | unfinished => exact absurd rfl hm

theorem attempt {m : Run α} (h : Finishes m) : Finishes m.attempt := by
  intro s
  have hm := h s
  simp only [Run.attempt]
  rcases hms : m s with ⟨o, t⟩
  rw [hms] at hm
  cases o with
  | done a => simp
  | failed f => simp
  | unfinished => exact absurd rfl hm

theorem sequential : Sequential fun {_} m => Finishes m where
  pure := .pure
  fail := .fail
  get := .get
  bind := .bind

end Finishes

/-- Where `Inv` holds, the runs are the same, are not given up, and end where it holds. -/
def Settles (Inv : Session → Prop) (m₁ m₂ : Run α) : Prop :=
  ∀ s, Inv s → (m₁ s).1 ≠ .unfinished ∧ m₁ s = m₂ s ∧ Inv (m₁ s).2

section Settles

variable {Inv : Session → Prop}

theorem Settles.of_preserves {m : Run α} (hfinishes : Finishes m) (h : Preserves Inv m) :
    Settles Inv m m :=
  fun s hs => ⟨hfinishes s, rfl, h s hs⟩

theorem Settles.bind {m₁ m₂ : Run α} {k₁ k₂ : α → Run β} (h : Settles Inv m₁ m₂)
    (hk : ∀ a, Settles Inv (k₁ a) (k₂ a)) : Settles Inv (m₁ >>= k₁) (m₂ >>= k₂) := by
  intro s hs
  obtain ⟨hfinished, hsame, hafter⟩ := h s hs
  simp only [Bind.bind, Run.bind, ← hsame]
  rcases hm : m₁ s with ⟨o, t⟩
  rw [hm] at hfinished hafter
  cases o with
  | done a => exact hk a t hafter
  | failed f => exact ⟨by simp, rfl, hafter⟩
  | unfinished => exact absurd rfl hfinished

theorem congruence_settles (Inv : Session → Prop) : Congruence fun {_} => Settles Inv where
  pure := fun a => .of_preserves (.pure a) (.pure a)
  fail := fun f => .of_preserves (.fail f) (.fail f)
  bind := Settles.bind

theorem inCall_settles (hInv : HidesLines Inv) {m₁ m₂ : Run α} (h : Settles Inv m₁ m₂) (f : Function)
    (args : List Value) : Settles Inv (m₁.inCall f args) (m₂.inCall f args) := by
  intro s hs
  have henter : Inv (s.enter f args) := (hInv.scope s _ _).symm ▸ hs
  obtain ⟨hfinished, hsame, hafter⟩ := h _ henter
  refine ⟨hfinished, ?_, ?_⟩
  · simp only [Run.inCall, Run.ensuring, hsame]
  · change Inv ((m₁ (s.enter f args)).2.leave s)
    exact (hInv.scope _ _ _).symm ▸ hafter

end Settles

end Run

open Run

/-! ## Builtins -/

theorem talking_finishes : Talking fun {_} m => Finishes m :=
  (Printing.mk Finishes.sequential fun _ => .modify _).talking .attempt fun _ _ => .modify _

theorem callBuiltin_finishes (name : String) (args : List Value) :
    Finishes (callBuiltin .quiet name args) :=
  talking_finishes.callBuiltin rfl (fun _ => .modify _) name args

theorem HidesLines.lineCongruence_settles {Inv : Session → Prop} (hInv : HidesLines Inv) :
    LineCongruence fun {_} => Settles Inv where
  toCongruence := congruence_settles Inv
  assign := fun name v => .of_preserves (.modify _) (hInv.lineCongruence.assign name v)
  print := fun v => .of_preserves (talking_finishes.printValues [v]) (hInv.lineCongruence.print v)

/-! ## Ranks -/

/-- The functions that a statement defines before the lines `rest`, and those that follow. -/
def Statement.definitionsAhead (rest : List String) (go : Nat → Table Function) :
    Statement → Table Function
  | .define name params =>
    match splitBlock rest with
    | some (block, n) => (name, ⟨params, block⟩) :: go (n + 1)
    | none => []
  | .branch _ =>
    match splitBlock rest with
    | some (_, n) => go (n + 1)
    | none => []
  | _ => go 0

/-- The functions that lines define, after `skip` of them. Inside of blocks nothing is defined. -/
def definitionsFrom : Nat → List String → Table Function
  | _, [] => []
  | skip + 1, _ :: rest => definitionsFrom skip rest
  | 0, line :: rest =>
    match Statement.ofLine? (Text.strip line) with
    | some st => st.definitionsAhead rest fun skip => definitionsFrom skip rest
    | none => definitionsFrom 0 rest

/-- The functions of a session, and those that a script defines. -/
def allFunctions (s : Session) (lines : List String) : Table Function :=
  s.funcs ++ definitionsFrom 0 lines

/-- What the body of a function may call: functions of smaller rank, and names that are no functions. -/
def Below (rank : String → Nat) (functions : Table Function) (name callee : String) : Prop :=
  rank callee < rank name ∨ callee ∉ functions.map Prod.fst

instance (rank : String → Nat) (functions : Table Function) (name callee : String) :
    Decidable (Below rank functions name callee) :=
  inferInstanceAs (Decidable (_ ∨ _))

/-- Every function calls only what is below it. -/
def RankedBy (rank : String → Nat) (functions : Table Function) : Prop :=
  functions.All fun name f => CallsOnly (Below rank functions name) f.body

instance (rank : String → Nat) (functions : Table Function) : Decidable (RankedBy rank functions) :=
  inferInstanceAs (Decidable (functions.All _))

/-! ## Calls -/

section Calls

variable {Inv : Session → Prop} {call₁ call₂ : Caller} {text : String}

theorem readable_settles (Inv : Session → Prop) (name : String) :
    Readable (fun {_} => Settles Inv) name where
  lookup := .of_preserves (fun s => Finishes.sequential.ofResult (s.lookup name) s)
    (readable_preserves Inv name).lookup
  lookupText := .of_preserves (fun _ h => by cases h) (readable_preserves Inv name).lookupText

theorem evalText_settles
    (hcall : ∀ name ∈ textCallees text, ∀ args, Settles Inv (call₁ name args) (call₂ name args)) :
    Settles Inv (evalText call₁ text) (evalText call₂ text) :=
  evalText_congr (congruence_settles Inv) (fun name _ => readable_settles Inv name) hcall

theorem callBodyStraight_settles (hInv : HidesLines Inv) {name : String} {f : Function}
    (hcall : CallsOnly (fun callee => ∀ args, Settles Inv (call₁ callee args) (call₂ callee args)) f.body)
    (args : List Value) :
    Settles Inv (callBodyStraight call₁ name f args) (callBodyStraight call₂ name f args) := by
  have hP := hInv.lineCongruence_settles
  unfold callBodyStraight
  split
  · exact hP.fail _
  · refine inCall_settles hInv (hP.bind ?_ fun _ => hP.pure _) f args
    refine runStraight_congr hP fun line hline text htext => ?_
    exact evalText_settles fun name hname => hcall line hline name (mem_lineCallees htext hname)

/-- All functions of the session are ranked, and no body holds an `end`. -/
def Session.Ranked (rank : String → Nat) (functions : Table Function) (s : Session) : Prop :=
  s.funcs.All fun name f => name ∈ functions.map Prod.fst ∧ Endless f.body ∧
    LineScript.CallsOnly (Below rank functions name) f.body

variable {rank : String → Nat} {functions : Table Function}

theorem hidesLines_ranked : HidesLines (Session.Ranked rank functions) where
  dialogue := fun _ _ _ _ _ => rfl
  scope := fun _ _ _ => rfl

/-- Above its rank, a call does not depend on the depth and is not given up. -/
theorem callNamed_settles (n : Nat) {d₁ d₂ : Nat} (h₁ : n ≤ d₁) (h₂ : n ≤ d₂) {name : String}
    (hname : rank name < n ∨ name ∉ functions.map Prod.fst) (args : List Value) :
    Settles (Session.Ranked rank functions) (callNamed .quiet d₁ name args)
      (callNamed .quiet d₂ name args) := by
  induction n using Nat.strongRecOn generalizing d₁ d₂ name args with
  | _ n ih =>
    intro s hs
    cases hf : s.funcs.get? name with
    | none =>
      rw [callNamed_of_none hf, callNamed_of_none hf]
      -- The depth bounds calls of functions, not of builtins.
      have hkeeps : Preserves (Session.Ranked rank functions) (callBuiltin .quiet name args) :=
        .of_keeps (callBuiltin_keeps hidesLines_ranked.dialogue (fun _ _ => rfl) name args)
      exact Settles.of_preserves (callBuiltin_finishes name args) hkeeps s hs
    | some f =>
      obtain ⟨hknown, hbody, hcalls⟩ := hs.get? hf
      have hrank : rank name < n := hname.resolve_right (not_not_intro hknown)
      -- One level is used up by the call itself, and its body needs no more than its rank.
      obtain ⟨e₁, rfl⟩ : ∃ e, d₁ = e + 1 := ⟨d₁ - 1, by omega⟩
      obtain ⟨e₂, rfl⟩ : ∃ e, d₂ = e + 1 := ⟨d₂ - 1, by omega⟩
      rw [callNamed_succ, callNamed_succ, callWith_of_some hf, callWith_of_some hf, callBody_quiet hbody,
        callBody_quiet hbody]
      refine callBodyStraight_settles hidesLines_ranked (hcalls.mono fun callee hbelow => ?_) args s hs
      exact fun args => ih (rank name) hrank (by omega) (by omega) hbelow args

end Calls

/-! ## Lines -/

section Lines

variable {Inv : Session → Prop} {call₁ call₂ : Caller} {run₁ run₂ : List String → Run (Option Value)}
  {line : String}

theorem definitionsFrom_of_statement {st : Statement} (h : Statement.ofLine? (Text.strip line) = some st)
    (rest : List String) :
    definitionsFrom 0 (line :: rest) = st.definitionsAhead rest fun skip => definitionsFrom skip rest := by
  rw [definitionsFrom.eq_def]
  simp only [h]

theorem definitionsFrom_of_none (h : Statement.ofLine? (Text.strip line) = none) (rest : List String) :
    definitionsFrom 0 (line :: rest) = definitionsFrom 0 rest := by
  rw [definitionsFrom.eq_def]
  simp only [h]

theorem Statement.definitionsAhead_of_plain {st : Statement} (h : st.takesBlock = false)
    (rest : List String) (go : Nat → Table Function) : st.definitionsAhead rest go = go 0 := by
  cases st with
  | define name params => cases h
  | branch condition => cases h
  | _ => rfl

/-- Behind a header, the definitions behind its block count. -/
theorem Statement.mem_definitionsAhead {st : Statement} (h : st.takesBlock = true)
    {rest block : List String} {n : Nat} (hsplit : splitBlock rest = some (block, n))
    {go : Nat → Table Function} {entry : String × Function} (hentry : entry ∈ go (n + 1)) :
    entry ∈ st.definitionsAhead rest go := by
  cases st with
  | define name params =>
    rw [Statement.definitionsAhead, hsplit]
    exact List.mem_cons_of_mem _ hentry
  | branch condition =>
    rw [Statement.definitionsAhead, hsplit]
    exact hentry
  | _ => cases h

theorem runStraight_settles (hInv : HidesLines Inv)
    (hcall : ∀ name args, Settles Inv (call₁ name args) (call₂ name args)) (lines : List String) :
    Settles Inv (runStraight call₁ lines) (runStraight call₂ lines) :=
  runStraight_congr hInv.lineCongruence_settles fun _ _ _ _ => evalText_settles fun name _ => hcall name

/-- Lines settle if the calls and the blocks do, and if the functions that they define may be stored. -/
theorem runAhead_settles (hInv : HidesLines Inv)
    (hcall : ∀ name args, Settles Inv (call₁ name args) (call₂ name args))
    (hrun : ∀ block, Endless block → Settles Inv (run₁ block) (run₂ block)) {skip : Nat}
    {lines : List String} (hdefine : (definitionsFrom skip lines).All fun name f => Endless f.body →
      Preserves Inv (Run.modify fun s => { s with funcs := s.funcs.set name f })) :
    Settles Inv (runAhead call₁ run₁ skip lines) (runAhead call₂ run₂ skip lines) := by
  have hP := hInv.lineCongruence_settles
  induction lines generalizing skip with
  | nil =>
    cases skip with
    | zero => exact hP.pure _
    | succ skip => exact hP.pure _
  | cons line rest ih =>
    cases skip with
    | succ skip => exact ih hdefine
    | zero =>
      cases hst : Statement.ofLine? (Text.strip line) with
      | none =>
        rw [definitionsFrom_of_none hst] at hdefine
        rw [runAhead_of_none hst, runAhead_of_none hst]
        exact ih hdefine
      | some st =>
        rw [definitionsFrom_of_statement hst] at hdefine
        rw [runAhead_of_statement hst, runAhead_of_statement hst]
        refine Statement.execAhead_congr hP (fun text _ => evalText_settles fun name _ => hcall name) ?_ ?_
        · -- After any other statement the next line follows.
          intro hplain
          rw [Statement.definitionsAhead_of_plain hplain] at hdefine
          exact ih hdefine
        · intro hheader
          cases hsplit : splitBlock rest with
          | none => exact .missing hsplit hsplit
          | some b =>
            have hblock := endless_of_splitBlock hsplit
            refine .found hsplit hsplit (hrun b.1 hblock) (fun name params hst => ?_)
              (ih fun entry hentry => ?_)
            · -- The definition itself comes first among those ahead.
              refine .of_preserves (.modify _) (hdefine (name, ⟨params, b.1⟩) ?_ hblock)
              rw [hst, Statement.definitionsAhead, hsplit]
              exact List.mem_cons_self
            · exact hdefine entry (Statement.mem_definitionsAhead hheader hsplit hentry)

/-- All lines settle: inside of a block, lines are executed straight on. -/
theorem runAll_settles (hInv : HidesLines Inv)
    (hcall : ∀ name args, Settles Inv (call₁ name args) (call₂ name args)) {lines : List String}
    (hdefine : (definitionsFrom 0 lines).All fun name f => Endless f.body →
      Preserves Inv (Run.modify fun s => { s with funcs := s.funcs.set name f })) :
    Settles Inv (runAll call₁ lines) (runAll call₂ lines) := by
  refine runAhead_settles hInv hcall (fun block hblock => ?_) hdefine
  rw [hblock.runAhead_eq, hblock.runAhead_eq]
  exact runStraight_settles hInv hcall block

end Lines

/-! ## Scripts -/

theorem exists_rank_bound (rank : String → Nat) (names : List String) :
    ∃ n, ∀ name ∈ names, rank name < n := by
  induction names with
  | nil => exact ⟨0, by simp⟩
  | cons name names ih =>
    obtain ⟨n, hn⟩ := ih
    refine ⟨max (rank name + 1) n, List.forall_mem_cons.mpr ⟨by omega, fun other hother => ?_⟩⟩
    have hlt := hn other hother
    omega

/-- Lines of ranked functions end the same way at every depth that is large enough. -/
theorem runLines_settles {rank : String → Nat} {s : Session} {lines : List String} (closed : s.Closed)
    (off : s.debugger.Off) (ranked : RankedBy rank (allFunctions s lines)) (source : String) :
    ∃ n, ∀ depth, n ≤ depth →
      (runLines .standard (callNamed .standard depth) source lines s).1 ≠ .unfinished ∧
      runLines .standard (callNamed .standard depth) source lines s =
        runLines .standard (callNamed .standard n) source lines s := by
  obtain ⟨n, hn⟩ := exists_rank_bound rank ((allFunctions s lines).map Prod.fst)
  -- The functions of the session and those that the lines define make up what is ranked.
  have hstart : s.Ranked rank (allFunctions s lines) := by
    intro entry hentry
    have hmem : entry ∈ allFunctions s lines := List.mem_append_left _ hentry
    exact ⟨List.mem_map_of_mem hmem, closed entry hentry, ranked entry hmem⟩
  have hdefine : (definitionsFrom 0 lines).All fun name f => Endless f.body →
      Preserves (Session.Ranked rank (allFunctions s lines))
        (Run.modify fun s => { s with funcs := s.funcs.set name f }) := by
    intro entry hentry hbody t ht
    have hmem : entry ∈ allFunctions s lines := List.mem_append_right _ hentry
    exact Table.All.set ht ⟨List.mem_map_of_mem hmem, hbody, ranked entry hmem⟩
  refine ⟨n, fun depth hdepth => ?_⟩
  have hcall : ∀ name args, Settles (Session.Ranked rank (allFunctions s lines))
      (callNamed .quiet depth name args) (callNamed .quiet n name args) := by
    intro name args
    refine callNamed_settles n hdepth (Nat.le_refl n) ?_ args
    -- A line may call any function, but all ranks are below `n`.
    by_cases hname : name ∈ (allFunctions s lines).map Prod.fst
    · exact .inl (hn name hname)
    · exact .inr hname
  obtain ⟨hfinished, hsame, -⟩ := runAll_settles hidesLines_ranked hcall hdefine s hstart
  rw [runLines_eq_quiet off, runLines_eq_quiet off, runLines_quiet, runLines_quiet]
  exact ⟨hfinished, hsame⟩

/-- A script whose functions can be ranked, so that each calls only functions of smaller rank, terminates:
from some depth of calls on, it ends in one and the same way, with a value or with a fault. On the way,
a line leads to a line behind it. -/
theorem ranked_script_terminates (rank : String → Nat) (path : String) (s : Session) (closed : s.Closed)
    (off : s.debugger.Off)
    (ranked : ∀ lines, s.files.readLines path = .ok lines → RankedBy rank (allFunctions s lines)) :
    (∃ n r, (∀ depth, n ≤ depth → Host.standard.runFile depth path s = r) ∧
      ((∃ v, r.1 = .done v) ∨ ∃ f, r.1 = .failed f)) ∧
    ∀ depth source lines (i : Nat) line t stop u,
      execLine .standard (callNamed .standard depth) ⟨some lines, some i, source⟩ line t =
        (.done (.jump stop), u) → (i : Int) < stop := by
  constructor
  · cases hlines : s.files.readLines path with
    | error f =>
      refine ⟨0, _, fun depth _ => Host.runFile_of_readLines_error hlines depth, ?_⟩
      cases s.files.pathIsFile path with
      | true => exact .inr ⟨f, rfl⟩
      | false => exact .inl ⟨none, rfl⟩
    | ok lines =>
      obtain ⟨n, hn⟩ := runLines_settles closed off (ranked lines hlines) path
      refine ⟨n, runLines .standard (callNamed .standard n) path lines s, fun depth hdepth => ?_, ?_⟩
      · rw [Host.runFile_of_readLines hlines]
        exact (hn depth hdepth).2
      · have hfinished := (hn n (Nat.le_refl n)).1
        cases hr : (runLines .standard (callNamed .standard n) path lines s).1 with
        | done v => exact .inl ⟨v, rfl⟩
        | failed f => exact .inr ⟨f, rfl⟩
        | unfinished => exact absurd hr hfinished
  · intro depth source lines i line t stop u hjump
    obtain ⟨block, hblock⟩ := block_of_execLineWith_jump hjump
    exact Place.lt_of_block hblock

/-- A script that defines a function, which calls a function of the session. -/
def layeredLines : List String :=
  ["def twice(n):", "return double(n) + double(1)", "end", "if (twice(0)):", "stryset y (max(twice(2), 3))",
    "end", "return twice(y)"]

/-- The script at the path `p`, and the function that it relies on. -/
def layered : Session :=
  { Session.fresh with
    funcs := [("double", ⟨["n"], ["stryset m (n)", "return n + m"]⟩)]
    files := (Files.FileTree.empty Files.work).put ["work", "p"]
      (.file (Text.Utf8.encode (String.join (layeredLines.map (· ++ "\n"))))) }

theorem layered_lines : layered.files.readLines "p" = .ok (layeredLines.map (· ++ "\n")) := by
  have htarget : (Files.FileTree.empty Files.work).target "p" = .ok ["work", "p"] := by cbv
  exact Files.FileTree.readLines_of_read (by decide +kernel)
    (Files.FileTree.read_of_write (Files.FileTree.write_of_target htarget _))

theorem layered_terminates :
    ∃ n r, (∀ depth, n ≤ depth → Host.standard.runFile depth "p" layered = r) ∧
      ((∃ v, r.1 = .done v) ∨ ∃ f, r.1 = .failed f) := by
  have hranked : ∀ lines, layered.files.readLines "p" = .ok lines →
      RankedBy (fun name => if name = "twice" then 1 else 0) (allFunctions layered lines) := by
    intro lines h
    rw [layered_lines] at h
    cases h
    decide +kernel
  exact (ranked_script_terminates _ "p" layered (by decide +kernel) ⟨rfl, rfl, rfl⟩ hranked).1

end LineScript
