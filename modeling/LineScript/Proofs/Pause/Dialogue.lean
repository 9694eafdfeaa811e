import LineScript.Proofs.Pause.Commands
import LineScript.Proofs.Turns
import Mathlib

/-!
# The dialogue of a pause

At a pause, commands are carried out one after the other until a line answers it. A command fails if it is to set
a breakpoint and names none, or if it lists variables and one of them has no text; the dialogue fails with it.
Otherwise the dialogue returns the answer, and it has set and removed breakpoints as its lines say, but for
those at places, which stay.
-/

namespace LineScript

open Run

/-! ## Carrying out commands -/

/-- A line can be carried out as a command: what `b` is given names a breakpoint, and what is listed has a
text. -/
structure Session.Carries (s : Session) (line : String) : Prop where
  named : ∀ arg, argumentOf? "b" (Text.strip line) = some arg → (Breakpoint.named? arg).isSome = true
  listed : Text.strip line ∈ ["vars", "bt", "stack"] → s.silent = false → s.vars.Listable
  counted : Text.strip line ∈ ["bt", "stack"] → s.silent = false →
    s.callDepth.natAbs < 10 ^ Number.digitLimit

/-- What a line leaves behind that has been carried out: nothing but the debugger and the output has changed. -/
def Session.Carried (s : Session) (line : String) (t : Session) : Prop :=
  ∃ d output, t = { s with debugger := d, output := output } ∧
    ∀ b, d.Has b ↔ b ∈ marked lineRemovedBy? s.debugger.breakpoints line

/-- What a line is that answers no pause, by the first case that applies. -/
inductive Command.Reads (text : String) : Command → Prop where
  | breakAt {arg : String} (h : argumentOf? "b" text = some arg) : Reads text (.breakAt arg)
  | delete {arg : String} (h : argumentOf? "del" text = some arg) : Reads text (.delete arg)
  | stack (h : text ∈ ["bt", "stack"]) : Reads text .stack
  | vars (h : text = "vars") : Reads text .vars
  | other {c : Command} (hb : argumentOf? "b" text = none) (hdel : argumentOf? "del" text = none)
      (hlist : text ∉ ["vars", "bt", "stack"])
      (hc : (∃ expr, c = .watch expr) ∨ (∃ expr, c = .unwatch expr) ∨ c = .help ∨ c = .unknown) :
      Reads text c

theorem Command.reads_ofLine {text : String} (h : answers.lookup text = none) :
    Command.Reads text (Command.ofLine text) := by
  have hno : ∀ p ∈ answers, (text == p.1) = false := by
    simpa [List.lookup_eq_none_iff] using h
  simp only [answers, List.forall_mem_cons, List.not_mem_nil] at hno
  obtain ⟨hc, hcontinue, hs, hstep, hn, hnext, -⟩ := hno
  simp only [Command.ofLine, hc, hcontinue, hs, hstep, hn, hnext, Bool.or_self, Bool.false_eq_true,
    if_false]
  split
  · exact .breakAt ‹_›
  rename_i hb
  split
  · exact .delete ‹_›
  rename_i hdel
  split
  · rename_i hstack
    exact .stack (by simpa using hstack)
  rename_i hstack
  -- What is left is the list of the variables, and commands that list nothing.
  by_cases hvars : text = "vars"
  · subst hvars
    exact .vars rfl
  · have hlist : text ∉ ["vars", "bt", "stack"] := by
      simp only [Bool.or_eq_true, beq_iff_eq, not_or] at hstack
      simp [hvars, hstack]
    refine .other hb hdel hlist ?_
    split
    · exact .inl ⟨_, rfl⟩
    split
    · exact .inr (.inl ⟨_, rfl⟩)
    rw [if_neg (by simpa using hvars)]
    split
    · exact .inr (.inr (.inl rfl))
    · exact .inr (.inr (.inr rfl))

theorem Command.ofLine_of_answer {text : String} {action : Action} (h : answers.lookup text = some action) :
    Command.ofLine text = .go action := by
  have hmem : (text, action) ∈ answers := by
    obtain ⟨front, back, heq, -⟩ := List.lookup_eq_some_iff.mp h
    simp [heq]
  simp only [answers, List.mem_cons, List.not_mem_nil, or_false, Prod.mk.injEq] at hmem
  rcases hmem with ⟨rfl, rfl⟩ | ⟨rfl, rfl⟩ | ⟨rfl, rfl⟩ | ⟨rfl, rfl⟩ | ⟨rfl, rfl⟩ | ⟨rfl, rfl⟩ <;> rfl

section Perform

variable {s : Session} {line arg : String} {b : Breakpoint}

/-- A `b` sets the breakpoint that its argument names, and fails if the argument names none. -/
theorem setBreakpoint_cases (arg : String) (s : Session) :
    (∃ b d output, Breakpoint.named? arg = some b ∧
      setBreakpoint arg s = (.done (), { s with debugger := d, output := output }) ∧
      ∀ b', d.Has b' ↔ s.debugger.Has b' ∨ b' = b) ∨
    Breakpoint.named? arg = none ∧ ∃ f, setBreakpoint arg s = (.failed f, s) := by
  unfold Breakpoint.named? setBreakpoint
  cases splitColon? arg with
  | some pair =>
    obtain ⟨source, number⟩ := pair
    dsimp only
    cases readInteger number with
    | error f => exact .inr ⟨rfl, f, rfl⟩
    | ok n =>
      obtain ⟨output, hwrite⟩ := { s with debugger := s.debugger.addPlace source n }.exists_write
        ("[debug] unknown debug command" ++ "\n")
      exact .inl ⟨.place source n, s.debugger.addPlace source n, output, rfl,
        congrArg (Prod.mk _) hwrite, fun _ => Debugger.has_addPlace⟩
  | none =>
    cases readInteger arg with
    | error f => exact .inr ⟨rfl, f, rfl⟩
    | ok n =>
      obtain ⟨output, hwrite⟩ := { s with debugger := s.debugger.addLine n }.exists_write
        ("[debug] breakpoint set " ++ arg ++ "\n")
      exact .inl ⟨.line n, s.debugger.addLine n, output, rfl, congrArg (Prod.mk _) hwrite,
        fun _ => Debugger.has_addLine⟩

theorem deleteBreakpoint_eq (arg : String) (s : Session) :
    ∃ d output, deleteBreakpoint arg s = (.done (), { s with debugger := d, output := output }) ∧
      ∀ b, d.Has b ↔ s.debugger.Has b ∧ (readInteger arg).toOption.map Breakpoint.line ≠ some b := by
  unfold deleteBreakpoint
  cases readInteger arg with
  | error f =>
    obtain ⟨output, hwrite⟩ := s.exists_write ("[debug] breakpoint removed " ++ arg ++ "\n")
    exact ⟨s.debugger, output, congrArg (Prod.mk _) hwrite, fun _ => by simp [Except.toOption]⟩
  | ok n =>
    obtain ⟨output, hwrite⟩ := { s with debugger := s.debugger.removeLine n }.exists_write
      ("[debug] breakpoint removed " ++ arg ++ "\n")
    refine ⟨s.debugger.removeLine n, output, congrArg (Prod.mk _) hwrite, fun b => ?_⟩
    rw [Debugger.has_removeLine]
    simp [Except.toOption, eq_comm]

/-- A line that neither sets nor removes a breakpoint is carried out if the breakpoints are left alone. -/
theorem Session.carried_of_same {d : Debugger} {output : List Output} (hd : ∀ b, d.Has b ↔ s.debugger.Has b)
    (hset : setBy? line = none) (hremoved : lineRemovedBy? line = none) :
    s.Carried line { s with debugger := d, output := output } := by
  refine ⟨d, output, rfl, fun b => ?_⟩
  rw [mem_marked, hset, hremoved, hd]
  simp [Debugger.breakpoints]

/-- The words that list something have no argument. -/
theorem argumentOf?_of_listing {text : String} (h : text ∈ ["vars", "bt", "stack"]) :
    argumentOf? "b" text = none ∧ argumentOf? "del" text = none := by
  simp only [List.mem_cons, List.not_mem_nil, or_false] at h
  rcases h with rfl | rfl | rfl <;> exact ⟨rfl, rfl⟩

theorem setBy?_of_no_argument (h : argumentOf? "b" (Text.strip line) = none) : setBy? line = none := by
  rw [setBy?, h, Option.bind_none]

theorem lineRemovedBy?_of_no_argument (h : argumentOf? "del" (Text.strip line) = none) :
    lineRemovedBy? line = none := by
  rw [lineRemovedBy?, h, Option.bind_none]

/-- A line that lists nothing can be carried out, if the breakpoint that it sets has a name. -/
theorem Session.carries_of_not_listing (hlist : Text.strip line ∉ ["vars", "bt", "stack"])
    (hnamed : ∀ arg, argumentOf? "b" (Text.strip line) = some arg → (Breakpoint.named? arg).isSome = true) :
    s.Carries line where
  named := hnamed
  listed := fun h => absurd h hlist
  counted := fun h => absurd (.tail _ h) hlist

theorem Session.carries_of_listing (hlist : Text.strip line ∈ ["vars", "bt", "stack"])
    (hlisted : s.silent = false → s.vars.Listable)
    (hcounted : Text.strip line ∈ ["bt", "stack"] → s.silent = false →
      s.callDepth.natAbs < 10 ^ Number.digitLimit) : s.Carries line where
  named := by
    intro arg harg
    rw [(argumentOf?_of_listing hlist).1] at harg
    cases harg
  listed := fun _ => hlisted
  counted := hcounted

/-- The words before the list of the variables have a text if the depth of calls has one. -/
theorem isSome_text?_stackWords {depth : Int} :
    (∀ w ∈ [Value.str "Call depth:", .int depth, .str "Vars snapshot:"], w.text?.isSome = true) ↔
      depth.natAbs < 10 ^ Number.digitLimit := by
  have hdepth : (Value.int depth).text?.isSome = true ↔ depth.natAbs < 10 ^ Number.digitLimit := by
    change (Value.int depth).shown?.isSome = true ↔ _
    rw [Value.isSome_shown?_iff]
    simp
  simp only [List.forall_mem_cons, hdepth, List.not_mem_nil]
  simp [Value.text?]

theorem perform_stack (s : Session) :
    Command.stack.perform s =
      printVars [.str "Call depth:", .int s.callDepth, .str "Vars snapshot:"] s := by
  rw [Command.perform]
  exact Run.bind_of_done (rfl : Run.get s = (.done s, s))

/-- A command is carried out if it can be, and fails otherwise. -/
theorem perform_cases (s : Session) (hline : answer? line = none) :
    (s.Carries line ∧
      ∃ t, (Command.ofLine (Text.strip line)).perform s = (.done (), t) ∧ s.Carried line t) ∨
    ¬ s.Carries line ∧ ∃ f t, (Command.ofLine (Text.strip line)).perform s = (.failed f, t) := by
  have hreads := Command.reads_ofLine hline
  generalize Command.ofLine (Text.strip line) = c at hreads
  cases hreads with
  | breakAt harg =>
    rename_i arg
    obtain ⟨b, d, output, hb, hdone, hd⟩ | ⟨hb, f, hfail⟩ := setBreakpoint_cases arg s
    · refine .inl ⟨Session.carries_of_not_listing ?_ ?_, _, hdone, d, output, rfl, fun b' => ?_⟩
      · intro hlist
        rw [(argumentOf?_of_listing hlist).1] at harg
        cases harg
      · intro arg' harg'
        cases harg.symm.trans harg'
        rw [hb]
        rfl
      · have hset : setBy? line = some b := by rw [setBy?, harg, Option.bind_some, hb]
        rw [hd, mem_marked, hset, lineRemovedBy?_of_no_argument (argumentOf?_del_of_b harg)]
        simp [Debugger.breakpoints, eq_comm]
    · refine .inr ⟨fun hcarries => ?_, f, s, hfail⟩
      have hnamed := hcarries.named arg harg
      rw [hb] at hnamed
      cases hnamed
  | delete harg =>
    rename_i arg
    obtain ⟨d, output, hdone, hd⟩ := deleteBreakpoint_eq arg s
    refine .inl ⟨Session.carries_of_not_listing ?_ ?_, _, hdone, d, output, rfl, fun b' => ?_⟩
    · intro hlist
      rw [(argumentOf?_of_listing hlist).2] at harg
      cases harg
    · intro arg' harg'
      rw [argumentOf?_b_of_del harg] at harg'
      cases harg'
    · rw [hd, mem_marked, setBy?_of_no_argument (argumentOf?_b_of_del harg), lineRemovedBy?, harg,
        Option.bind_some]
      simp [Debugger.breakpoints]
  | stack htext =>
    have hlisting : Text.strip line ∈ ["vars", "bt", "stack"] := .tail _ htext
    obtain ⟨hb, hdel⟩ := argumentOf?_of_listing hlisting
    rw [perform_stack]
    by_cases hlists : s.silent = false →
        s.vars.Listable ∧ s.callDepth.natAbs < 10 ^ Number.digitLimit
    · obtain ⟨output, hdone⟩ := printVars_returns [.str "Call depth:", .int s.callDepth, .str "Vars snapshot:"]
        fun hsilent => (hlists hsilent).imp_right isSome_text?_stackWords.mpr
      refine .inl ⟨Session.carries_of_listing hlisting (fun h => (hlists h).1) fun _ h => (hlists h).2,
        _, hdone, ?_⟩
      exact Session.carried_of_same (fun _ => Iff.rfl) (setBy?_of_no_argument hb)
        (lineRemovedBy?_of_no_argument hdel)
    · obtain ⟨hsilent, hunlisted⟩ := Classical.not_imp.mp hlists
      refine .inr ⟨fun hcarries => ?_, printVars_fails _ hsilent fun h => ?_⟩
      · exact hunlisted ⟨hcarries.listed hlisting hsilent, hcarries.counted htext hsilent⟩
      · exact hunlisted (h.imp_right isSome_text?_stackWords.mp)
  | vars htext =>
    have hlisting : Text.strip line ∈ ["vars", "bt", "stack"] := htext ▸ .head _
    have huncounted : Text.strip line ∉ ["bt", "stack"] := by simp [htext]
    obtain ⟨hb, hdel⟩ := argumentOf?_of_listing hlisting
    by_cases hlists : s.silent = false → s.vars.Listable
    · obtain ⟨output, hdone⟩ := printVars_returns [] fun hsilent => ⟨hlists hsilent, by simp⟩
      refine .inl ⟨Session.carries_of_listing hlisting hlists fun h => absurd h huncounted, _, hdone, ?_⟩
      exact Session.carried_of_same (fun _ => Iff.rfl) (setBy?_of_no_argument hb)
        (lineRemovedBy?_of_no_argument hdel)
    · obtain ⟨hsilent, hunlisted⟩ := Classical.not_imp.mp hlists
      refine .inr ⟨fun hcarries => ?_, printVars_fails _ hsilent fun h => ?_⟩
      · exact hunlisted (hcarries.listed hlisting hsilent)
      · exact hunlisted h.1
  | other hb hdel hlist hc =>
    -- The commands that are left change at most the watches.
    obtain ⟨d, output, hdone, hd⟩ : ∃ d output,
        c.perform s = (.done (), { s with debugger := d, output := output }) ∧
          ∀ b, d.Has b ↔ s.debugger.Has b := by
      rcases hc with ⟨expr, rfl⟩ | ⟨expr, rfl⟩ | rfl | rfl
      · obtain ⟨output, hwrite⟩ := { s with debugger := s.debugger.addWatch expr }.exists_write
          ("[debug] watch added: " ++ expr ++ "\n")
        exact ⟨s.debugger.addWatch expr, output, congrArg (Prod.mk _) hwrite, fun b => by cases b <;> rfl⟩
      · exact ⟨s.debugger.removeWatch expr, s.output, rfl, fun b => by cases b <;> rfl⟩
      · obtain ⟨output, hwrite⟩ := s.exists_write (commandHelp ++ "\n")
        exact ⟨s.debugger, output, congrArg (Prod.mk _) hwrite, fun _ => Iff.rfl⟩
      · obtain ⟨output, hwrite⟩ := s.exists_write ("[debug] unknown debug command" ++ "\n")
        exact ⟨s.debugger, output, congrArg (Prod.mk _) hwrite, fun _ => Iff.rfl⟩
    refine .inl ⟨Session.carries_of_not_listing hlist ?_, _, hdone, ?_⟩
    · intro arg harg
      rw [hb] at harg
      cases harg
    · exact Session.carried_of_same hd (setBy?_of_no_argument hb) (lineRemovedBy?_of_no_argument hdel)

end Perform

/-! ## The dialogue -/

section Dialogue

variable {s t : Session} {line : String} {rest : List String} {fuel : Nat}

/-- Whether a line can be carried out depends on the variables and the depth of calls only. -/
theorem Session.carries_iff (s : Session) (d : Debugger) (input : List String) (streams : Streams)
    (output : List Output) :
    { s with debugger := d, input := input, streams := streams, output := output }.Carries line ↔
      s.Carries line :=
  ⟨fun ⟨hnamed, hlisted, hcounted⟩ => ⟨hnamed, hlisted, hcounted⟩,
    fun ⟨hnamed, hlisted, hcounted⟩ => ⟨hnamed, hlisted, hcounted⟩⟩

theorem Session.afterRead_eq (s : Session) (prompt : String) (rest : List String) :
    ∃ output, s.afterRead prompt rest =
      { s with input := rest, streams := { s.streams with buffered := true }, output := output } := by
  obtain ⟨output, hwrite⟩ := s.exists_write prompt
  refine ⟨output, ?_⟩
  rw [Session.afterRead, hwrite]

/-- A dialogue at this point comes to an answer, or to the end of an input that is not closed. -/
def Session.Answered (s : Session) : Prop :=
  s.streams.opens 0 = true ∨ ∃ line ∈ s.input, (answer? line).isSome = true

theorem dialogue_of_nil (h : s.input = []) (hopen : s.streams.opens 0 = true) (fuel : Nat) :
    dialogue (fuel + 1) s = (.done .continue, s.write "(stry-debug) ") := by
  have hread : Run.attempt (readLine "(stry-debug) ") s =
      (.done (.error .endOfInput), s.write "(stry-debug) ") := by
    simp only [Run.attempt, readLine_of_nil h, Streams.ended, hopen, if_true]
  rw [dialogue, Run.bind_of_done hread]
  rfl

theorem dialogue_of_closed (h : s.input = []) (hclosed : s.streams.opens 0 = false) (fuel : Nat) :
    dialogue (fuel + 1) s = (.failed .descriptor, s.write "(stry-debug) ") := by
  have hread : Run.attempt (readLine "(stry-debug) ") s =
      (.done (.error .descriptor), s.write "(stry-debug) ") := by
    simp only [Run.attempt, readLine_of_nil h, Streams.ended, hclosed, Bool.false_eq_true, if_false]
  rw [dialogue, Run.bind_of_done hread]
  rfl

theorem attempt_readLine_of_cons (h : s.input = line :: rest) :
    Run.attempt (readLine "(stry-debug) ") s = (.done (.ok line), s.afterRead "(stry-debug) " rest) := by
  simp only [Run.attempt, readLine_of_cons h]

theorem dialogue_of_answer {action : Action} (h : s.input = line :: rest)
    (hanswer : answer? line = some action) (fuel : Nat) :
    dialogue (fuel + 1) s = (.done action, s.afterRead "(stry-debug) " rest) := by
  rw [dialogue, Run.bind_of_done (attempt_readLine_of_cons h)]
  simp only [Command.ofLine_of_answer hanswer]
  rfl

theorem dialogue_of_command (h : s.input = line :: rest) (hcommand : answer? line = none) (fuel : Nat) :
    dialogue (fuel + 1) s = ((Command.ofLine (Text.strip line)).perform >>= fun _ => dialogue fuel)
      (s.afterRead "(stry-debug) " rest) := by
  rw [dialogue, Run.bind_of_done (attempt_readLine_of_cons h)]
  have hreads := Command.reads_ofLine hcommand
  dsimp only
  generalize Command.ofLine (Text.strip line) = c at hreads
  cases c with
  | go action =>
    cases hreads with
    | other _ _ _ hc => simp at hc
  | _ => rfl

/-- A dialogue that comes to an answer and whose commands can be carried out ends with this answer, and every
other one fails. -/
theorem dialogue_cases (hfuel : s.input.length < fuel) :
    ((s.Answered ∧ ∀ line ∈ commandsOf s.input, s.Carries line) ∧
      ∃ t, dialogue fuel s = (.done (replyOf s.input), t) ∧ t.input = unreadOf s.input ∧
        t.debugger.breakpoints =
          processed lineRemovedBy? s.debugger.breakpoints (commandsOf s.input)) ∨
    (¬ (s.Answered ∧ ∀ line ∈ commandsOf s.input, s.Carries line)) ∧ ∃ f t, dialogue fuel s = (.failed f, t) := by
  -- Every turn reads a line, so the fuel outlasts the input.
  induction fuel generalizing s with
  | zero => omega
  | succ fuel ih =>
    cases hinput : s.input with
    | nil =>
      cases hopen : s.streams.opens 0 with
      | true =>
        refine .inl ⟨⟨.inl hopen, by simp [commandsOf]⟩, _, dialogue_of_nil hinput hopen fuel, ?_, ?_⟩
        · rw [Session.write_input, hinput]
          rfl
        · rw [Session.write_debugger]
          rfl
      | false =>
        refine .inr ⟨?_, _, _, dialogue_of_closed hinput hopen fuel⟩
        rintro ⟨hanswered, -⟩
        simp [Session.Answered, hopen, hinput] at hanswered
    | cons line rest =>
      obtain ⟨output, hread⟩ := s.afterRead_eq "(stry-debug) " rest
      cases hanswer : answer? line with
      | some action =>
        rw [commandsOf_of_answer hanswer, replyOf_of_answer hanswer, unreadOf_of_answer hanswer]
        have hanswered : s.Answered := .inr ⟨line, by simp [hinput], by simp [hanswer]⟩
        refine .inl ⟨⟨hanswered, by simp⟩, _, dialogue_of_answer hinput hanswer fuel, ?_, ?_⟩
        · rw [hread]
        · rw [hread]
          rfl
      | none =>
        -- A command changes nothing on which it depends how the dialogue goes on.
        have hanswered : ∀ d output', s.Answered ↔
            { s with debugger := d, input := rest, streams := { s.streams with buffered := true },
                     output := output' }.Answered := by
          intro d output'
          simp only [Session.Answered, Streams.opens, hinput, List.exists_mem_cons_iff, hanswer, Option.isSome_none,
            Bool.false_eq_true, false_or]
        rw [commandsOf_of_command hanswer, replyOf_of_command hanswer, unreadOf_of_command hanswer,
          dialogue_of_command hinput hanswer, hread, List.forall_mem_cons,
          ← s.carries_iff s.debugger rest { s.streams with buffered := true } output]
        obtain ⟨hcarries, _, hdone, d, output', rfl, hd⟩ | ⟨hnot, f, t, hfail⟩ :=
          perform_cases { s with input := rest, streams := { s.streams with buffered := true },
                                 output := output } hanswer
        · rw [Run.bind_of_done hdone, hanswered d output']
          have hmarked : d.breakpoints = marked lineRemovedBy? s.debugger.breakpoints line := Set.ext hd
          have hshort : rest.length < fuel := by
            rw [hinput] at hfuel
            exact Nat.lt_of_succ_lt_succ hfuel
          have hrest := @ih { s with input := rest, streams := { s.streams with buffered := true },
                                     output := output', debugger := d } hshort
          simp only [fun l => @Session.carries_iff l s d rest { s.streams with buffered := true } output',
            hmarked, ← processed_cons] at hrest
          exact hrest.imp (fun h => ⟨⟨h.1.1, hcarries, h.1.2⟩, h.2⟩)
            fun h => ⟨fun hall => h.1 ⟨hall.1, hall.2.2⟩, h.2⟩
        · exact .inr ⟨fun hall => hnot hall.2.1, f, t, Run.bind_of_failed hfail⟩

end Dialogue

/-! ## The pause -/

/-- The first part of a pause: it is announced, and the watched expressions are shown. -/
def announce (call : Caller) (source : String) (n : Int) (line : String) : Run Unit := do
  write (pauseText source n line)
  listWatches call (← Run.get).debugger.watches

theorem pauseAt_eq_announce (call : Caller) (source : String) (n : Int) (line : String) :
    pauseAt call source n line =
      announce call source n line >>= fun _ => Run.get >>= fun t => dialogue (t.input.length + 1) := by
  funext s
  rw [pauseAt_eq, ← Session.write_debugger s (pauseText source n line)]
  rfl

namespace Run

def Unfailing (m : Run α) : Prop :=
  ∀ s f t, m s ≠ (.failed f, t)

theorem Unfailing.bind {m : Run α} {k : α → Run β} (h : Unfailing m) (hk : ∀ a, Unfailing (k a)) :
    Unfailing (m >>= k) := by
  intro s f t hfail
  simp only [Bind.bind, Run.bind] at hfail
  rcases hm : m s with ⟨o, u⟩
  rw [hm] at hfail
  cases o with
  | done a => exact hk a u f t hfail
  | failed g => exact h s g u hm
  | unfinished => cases hfail

theorem unfailing_attempt (m : Run α) : Unfailing m.attempt := by
  intro s f t hfail
  simp only [Run.attempt] at hfail
  rcases hm : m s with ⟨o, u⟩
  rw [hm] at hfail
  cases o with
  | done a => cases hfail
  | failed g => cases hfail
  | unfinished => cases hfail

theorem unfailing_modify (f : Session → Session) : Unfailing (Run.modify f) :=
  fun _ _ _ h => by cases h

end Run

/-- A watch that fails is shown as such. -/
theorem unfailing_showWatches (call : Caller) (watches : List String) :
    Unfailing (showWatches call watches) := by
  induction watches with
  | nil => exact fun _ _ _ h => by cases h
  | cons w ws ih =>
    refine Unfailing.bind (Unfailing.bind (unfailing_attempt _) fun shown => ?_) fun _ => ih
    cases shown with
    | ok _ => exact fun _ _ _ h => by cases h
    | error f => exact unfailing_modify _

theorem unfailing_announce (call : Caller) (source : String) (n : Int) (line : String) :
    Unfailing (announce call source n line) := by
  refine Unfailing.bind (unfailing_modify _) fun _ => Unfailing.bind (fun _ _ _ h => by cases h) fun t => ?_
  unfold listWatches
  split
  · exact fun _ _ _ h => by cases h
  · exact Unfailing.bind (unfailing_modify _) fun _ => unfailing_showWatches call _

/-- A dialogue that starts in the session `s` does what its lines say: it ends with the first answer, and the
commands before it have set and removed breakpoints one after the other. -/
def Heeds (s : Session) (result : Outcome Action × Session) : Prop :=
  ∃ t, result = (.done (replyOf s.input), t) ∧ t.input = unreadOf s.input ∧
    t.debugger.breakpoints = processed removedBy? s.debugger.breakpoints (commandsOf s.input)

/-- Nothing fails before the dialogue of a pause. From the session in which the dialogue starts, it returns
exactly if it comes to an answer or to the end of the input, unless the script has closed it, and every command
before that can be carried out. It has then read the lines up to this answer; a `del` has removed no breakpoint but those at line numbers. So the dialogue does what its lines say
exactly if, besides, no breakpoint at a place is to be removed for good while it is set. -/
theorem commands_heeded_iff (call : Caller) (source : String) (n : Int) (line : String) (s : Session) :
    (∀ f t, announce call source n line s ≠ (.failed f, t)) ∧
    ∀ start, announce call source n line s = (.done (), start) →
      ((∃ action t, pauseAt call source n line s = (.done action, t)) ↔
        start.Answered ∧ ∀ command ∈ commandsOf start.input, start.Carries command) ∧
      (∀ action t, pauseAt call source n line s = (.done action, t) →
        action = replyOf start.input ∧ t.input = unreadOf start.input ∧
        t.debugger.breakpoints =
          processed lineRemovedBy? start.debugger.breakpoints (commandsOf start.input)) ∧
      (Heeds start (pauseAt call source n line s) ↔
        (start.Answered ∧ ∀ command ∈ commandsOf start.input, start.Carries command) ∧
        SetAgain start.debugger.breakpoints (commandsOf start.input)) := by
  refine ⟨unfailing_announce call source n line s, fun start hstart => ?_⟩
  have hpause : pauseAt call source n line s = dialogue (start.input.length + 1) start := by
    rw [pauseAt_eq_announce, Run.bind_of_done hstart]
    rfl
  rw [hpause]
  obtain ⟨hcarries, t, ht, hinput, hbreakpoints⟩ | ⟨hcarries, f, t, ht⟩ :=
    dialogue_cases (Nat.lt_succ_self start.input.length)
  · rw [ht]
    refine ⟨⟨fun _ => hcarries, fun _ => ⟨_, t, rfl⟩⟩, ?_, ?_⟩
    · intro action t' heq
      cases heq
      exact ⟨rfl, hinput, hbreakpoints⟩
    · rw [← processed_eq_iff, ← hbreakpoints]
      constructor
      · rintro ⟨_, ⟨⟩, -, hmeant⟩
        exact ⟨hcarries, hmeant⟩
      · rintro ⟨-, hmeant⟩
        exact ⟨t, rfl, hinput, hmeant⟩
  · rw [ht]
    refine ⟨⟨?_, fun h => absurd h hcarries⟩, ?_, ⟨?_, fun h => absurd h.1 hcarries⟩⟩
    · rintro ⟨_, _, ⟨⟩⟩
    · rintro _ _ ⟨⟩
    · rintro ⟨_, ⟨⟩, -⟩

/-! ## A breakpoint at a place -/

/-- A session with a breakpoint at a place, a watch that fails, and lines to be read at a pause. -/
def pausedWith (lines : List String) : Session :=
  { Session.fresh with debugger := ⟨[4], [("f", 3)], false, none, ["y"]⟩, input := lines }

def pauseWith (lines : List String) : Outcome Action × Session :=
  pauseAt (callNamed .standard 0) "p" 1 "x" (pausedWith lines)

/-- The breakpoint at the place is removed and set again. -/
def settingAgain : List String :=
  ["b 7", "del f:3", " b f: 3", "n", "c"]

theorem setAgain_settingAgain (bs : Set Breakpoint) : SetAgain bs (commandsOf settingAgain) := by
  have hcommands : commandsOf settingAgain = ["b 7", "del f:3", " b f: 3"] := by decide +kernel
  have hsets : setBy? " b f: 3" = some (.place "f" 3) := by decide +kernel
  have hremoves : removedBy? "b 7" = none ∧ removedBy? "del f:3" = some (.place "f" 3) ∧
      removedBy? " b f: 3" = none := by decide +kernel
  obtain ⟨hfirst, hsecond, hthird⟩ := hremoves
  rw [hcommands]
  intro front line back source n hlines hremoved _
  rcases front with _ | ⟨_, _ | ⟨_, _ | ⟨_, front⟩⟩⟩
  · obtain ⟨rfl, -⟩ := List.cons.inj hlines
    cases hfirst.symm.trans hremoved
  · obtain ⟨-, hlines⟩ := List.cons.inj hlines
    obtain ⟨rfl, rfl⟩ := List.cons.inj hlines
    cases hsecond.symm.trans hremoved
    exact ⟨" b f: 3", .head _, hsets⟩
  · obtain ⟨-, hlines⟩ := List.cons.inj hlines
    obtain ⟨-, hlines⟩ := List.cons.inj hlines
    obtain ⟨rfl, -⟩ := List.cons.inj hlines
    cases hthird.symm.trans hremoved
  · simp at hlines

theorem settingAgain_heeded :
    ∃ start, announce (callNamed .standard 0) "p" 1 "x" (pausedWith settingAgain) = (.done (), start) ∧
      Heeds start (pauseWith settingAgain) ∧ (pauseWith settingAgain).1 = .done .next := by
  have hshown : (announce (callNamed .standard 0) "p" 1 "x" (pausedWith settingAgain)).1 = .done () := by
    decide +kernel
  have hinput : (announce (callNamed .standard 0) "p" 1 "x" (pausedWith settingAgain)).2.input =
      settingAgain := by
    decide +kernel
  have hdone : (pauseWith settingAgain).1 = .done .next := by decide +kernel
  have hpause := (commands_heeded_iff (callNamed .standard 0) "p" 1 "x" (pausedWith settingAgain)).2 _
    (Outcome.eq_of_fst hshown)
  obtain ⟨hreturns, -, hheeds⟩ := hpause
  have hcarries := hreturns.mp ⟨_, _, Outcome.eq_of_fst hdone⟩
  refine ⟨_, Outcome.eq_of_fst hshown, hheeds.mpr ⟨hcarries, ?_⟩, hdone⟩
  rw [hinput]
  exact setAgain_settingAgain _

/-- A `b` without a number ends the run, and a breakpoint at a place is not removed. -/
theorem commands_not_heeded :
    (∃ f, (pauseWith ["b x", "c"]).1 = .failed f) ∧
    (pauseWith ["del f:3", "c"]).1 = .done .continue ∧
    .place "f" 3 ∈ (pauseWith ["del f:3", "c"]).2.debugger.breakpoints ∧
    .place "f" 3 ∉ processed removedBy? (pausedWith ["del f:3", "c"]).debugger.breakpoints ["del f:3"] := by
  have hremoves : removedBy? "del f:3" = some (.place "f" 3) := by decide +kernel
  have hplaces : (pauseWith ["del f:3", "c"]).2.debugger.places = [("f", 3)] := by decide +kernel
  refine ⟨⟨.value (.notAnInteger 10 "'x'"), by decide +kernel⟩, by decide +kernel, ?_, ?_⟩
  · rw [Debugger.place_mem_breakpoints, hplaces]
    exact .head _
  · exact fun hmem => hmem.2 hremoves

end LineScript
