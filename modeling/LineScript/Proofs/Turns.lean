import LineScript.Proofs.Listing
import LineScript.Proofs.Repl
import LineScript.Proofs.Text.Line
import Mathlib

/-!
# Turns of the dialogue

The dialogue with a user goes from prompt to prompt. `Repl.Turn` is what happens between two prompts, and
the loop does nothing but take turns, until it ends or a command fails. A dialogue that starts afresh has no
functions and no breakpoints, so its lines call builtins only: executing one ends with a result or with a
fault, and the fault is reported. What remains are the commands, of which only the list of the variables
looks at what earlier lines have left behind.
-/

namespace LineScript

open Run

deriving instance DecidableEq for Outcome

/-! ## Calm sessions -/

/-- No function is defined and nothing pauses, printing is on, and the registers are as at the start. -/
structure Session.Calm (s : Session) : Prop where
  funcs : s.funcs = []
  off : s.debugger.Off
  audible : s.silent = false
  globals : s.globals = Session.fresh.globals

namespace Run

/-- A run from the session `s` is not given up. It leaves a calm session, and of the input what it did not
read. -/
structure EndsCalm (s : Session) (result : Outcome α × Session) : Prop where
  finished : result.1 ≠ .unfinished
  calm : result.2.Calm
  input : result.2.input <:+ s.input

/-- In a calm session, the run ends calmly. -/
def StaysCalm (m : Run α) : Prop :=
  ∀ s : Session, s.Calm → EndsCalm s (m s)

section EndsCalm

variable {s t : Session}

theorem EndsCalm.done (a : α) (ht : t.Calm) (hinput : t.input <:+ s.input) : EndsCalm s (.done a, t) :=
  ⟨by simp, ht, hinput⟩

theorem EndsCalm.failed (f : Fault) (ht : t.Calm) (hinput : t.input <:+ s.input) :
    EndsCalm s ((.failed f, t) : Outcome α × Session) :=
  ⟨by simp, ht, hinput⟩

end EndsCalm

namespace StaysCalm

theorem pure (a : α) : StaysCalm (Pure.pure a : Run α) :=
  fun _ hs => .done a hs (List.suffix_refl _)

theorem fail (f : Fault) : StaysCalm (Run.fail f : Run α) :=
  fun _ hs => .failed f hs (List.suffix_refl _)

theorem modify {f : Session → Session} (hcalm : ∀ s, s.Calm → (f s).Calm)
    (hinput : ∀ s, (f s).input <:+ s.input) : StaysCalm (Run.modify f) :=
  fun s hs => .done () (hcalm s hs) (hinput s)

theorem bind {m : Run α} {k : α → Run β} (h : StaysCalm m) (hk : ∀ a, StaysCalm (k a)) :
    StaysCalm (m >>= k) := by
  intro s hs
  obtain ⟨hfinished, hcalm, hinput⟩ := h s hs
  simp only [Bind.bind, Run.bind]
  rcases hm : m s with ⟨o, t⟩
  rw [hm] at hfinished hcalm hinput
  cases o with
  | done a =>
    obtain ⟨hfinished', hcalm', hinput'⟩ := hk a t hcalm
    exact ⟨hfinished', hcalm', hinput'.trans hinput⟩
  | failed f => exact .failed f hcalm hinput
  | unfinished => exact absurd rfl hfinished

theorem attempt {m : Run α} (h : StaysCalm m) : StaysCalm m.attempt := by
  intro s hs
  obtain ⟨hfinished, hcalm, hinput⟩ := h s hs
  simp only [Run.attempt]
  rcases hm : m s with ⟨o, t⟩
  rw [hm] at hfinished hcalm hinput
  cases o with
  | done a => exact .done _ hcalm hinput
  | failed f => exact .done _ hcalm hinput
  | unfinished => exact absurd rfl hfinished

end StaysCalm

end Run

@[simp] theorem Session.write_input (s : Session) (text : String) : (s.write text).input = s.input := by
  unfold Session.write
  split <;> rfl

@[simp] theorem Session.write_streams (s : Session) (text : String) : (s.write text).streams = s.streams := by
  unfold Session.write
  split <;> rfl

theorem Session.Calm.write {s : Session} (hs : s.Calm) (text : String) : (s.write text).Calm := by
  unfold Session.write
  split
  · exact hs
  · exact ⟨hs.funcs, hs.off, hs.audible, hs.globals⟩

section ReadLine

variable {s : Session} {prompt : String}

/-- The session after the first line has been read at a prompt. -/
def Session.afterRead (s : Session) (prompt : String) (rest : List String) : Session :=
  { s.write prompt with input := rest, streams := { s.streams with buffered := true } }

theorem readLine_of_nil (h : s.input = []) :
    readLine prompt s = (.failed s.streams.ended, s.write prompt) := by
  have hwritten : (s.write prompt).input = [] := by rw [Session.write_input, h]
  simp only [readLine, write, Bind.bind, Run.bind, Run.modify, Run.get, hwritten, Session.write_streams]
  rfl

theorem readLine_of_cons {line : String} {rest : List String} (h : s.input = line :: rest) :
    readLine prompt s = (.done line, s.afterRead prompt rest) := by
  have hwritten : (s.write prompt).input = line :: rest := by rw [Session.write_input, h]
  simp only [readLine, write, setInput, Bind.bind, Run.bind, Run.modify, Run.get, hwritten,
    Session.write_streams]
  rfl

theorem Session.Calm.afterRead (hs : s.Calm) (prompt : String) (rest : List String) :
    (s.afterRead prompt rest).Calm :=
  ⟨(hs.write prompt).funcs, (hs.write prompt).off, (hs.write prompt).audible, (hs.write prompt).globals⟩

end ReadLine

theorem Session.Calm.setInput {s : Session} (hs : s.Calm) (input : List String) (streams : Streams) :
    { s with input := input, streams := streams }.Calm :=
  ⟨hs.funcs, hs.off, hs.audible, hs.globals⟩

theorem openStream_staysCalm (number : Nat) : StaysCalm (openStream number) := by
  intro s hs
  rw [openStream_eq]
  split
  · exact .done () (hs.setInput _ _) (List.suffix_refl _)
  · exact .failed _ hs (List.suffix_refl _)

/-- The lines that are read from the stream of the input are not read again. -/
theorem readStream_staysCalm (number : Nat) : StaysCalm (readStream number) := by
  refine .bind (openStream_staysCalm number) fun _ => ?_
  split
  · intro s hs
    refine .done _ (hs.setInput _ _) ?_
    change (if s.streams.buffered then s.input else []) <:+ s.input
    split
    · exact List.suffix_refl _
    · exact List.nil_suffix
  · exact .fail _

theorem talking_staysCalm : Talking fun {_} m => StaysCalm m where
  pure := .pure
  fail := .fail
  get := fun s hs => .done s hs (List.suffix_refl _)
  bind := .bind
  attempt := .attempt
  write := fun text => .modify (fun s hs => hs.write text) fun s => by simp
  readLine := fun prompt s hs => by
    cases hinput : s.input with
    | nil =>
      rw [readLine_of_nil hinput]
      exact .failed _ (hs.write prompt) (by simp)
    | cons line rest =>
      rw [readLine_of_cons hinput]
      exact .done _ (hs.afterRead prompt rest) (hinput ▸ List.suffix_cons line rest)
  openStream := openStream_staysCalm
  readStream := readStream_staysCalm

/-! ## Lines in a calm session -/

theorem callNamed_staysCalm (depth : Nat) (name : String) (args : List Value) :
    StaysCalm (callNamed .standard depth name args) := by
  intro s hs
  have hnone : s.funcs.get? name = none := by rw [hs.funcs]; rfl
  -- Without functions every name is that of a builtin.
  rw [callNamed_of_none hnone]
  refine talking_staysCalm.callBuiltin rfl (fun files => ?_) name args s hs
  exact .modify (fun _ ht => ⟨ht.funcs, ht.off, ht.audible, ht.globals⟩) fun _ => List.suffix_refl _

theorem readable_staysCalm (name : String) : Readable (fun {_} m _ => StaysCalm m) name where
  lookup := fun s hs => talking_staysCalm.ofResult (s.lookup name) s hs
  lookupText := fun _ hs => .done _ hs (List.suffix_refl _)

theorem evalText_staysCalm (depth : Nat) (text : String) :
    StaysCalm (evalText (callNamed .standard depth) text) :=
  @evalText_congr _ (callNamed .standard depth) (callNamed .standard depth) talking_staysCalm.congruence text
    (fun id _ => readable_staysCalm id) fun name _ => callNamed_staysCalm depth name

theorem lineCongruence_staysCalm : LineCongruence fun {_} m _ => StaysCalm m where
  toCongruence := talking_staysCalm.congruence
  assign := fun _ _ =>
    .modify (fun _ hs => ⟨hs.funcs, hs.off, hs.audible, hs.globals⟩) fun _ => List.suffix_refl _
  print := fun v => talking_staysCalm.printValues [v]

/-- A line outside of any script has no block: it defines nothing and runs no other line. -/
theorem Statement.exec_staysCalm (depth : Nat) (run : List String → Run (Option Value)) (source : String)
    (st : Statement) : StaysCalm (st.exec (callNamed .standard depth) run ⟨none, none, source⟩) := by
  refine @Statement.exec_congr _ (callNamed .standard depth) (callNamed .standard depth) run run _
    lineCongruence_staysCalm st (fun text _ => evalText_staysCalm depth text) ?_ ?_
  · intro _ _ _ _ hblock
    cases hblock
  · intro _ _ hblock
    cases hblock

theorem execute_staysCalm (line : String) : StaysCalm (execute ⟨none, none, unnamedSource⟩ line) := by
  unfold execute execLine
  generalize runBlock .standard callAny = run
  refine @execLineWith_congr (fun {_} m _ => StaysCalm m) callAny callAny run run _ .standard .standard
    talking_staysCalm.congruence line ?_ fun st _ => Statement.exec_staysCalm maxCallDepth run _ st
  intro s hs
  change EndsCalm s (pauseIfAsked callAny _ line s)
  rw [pauseIfAsked_of_off hs.off]
  exact .done () hs (List.suffix_refl _)

namespace Repl

/-! ## Commands in a calm session -/

/-- Whether a command keeps to the session: it compiles and installs no file, and starts no tests. -/
def Command.keepsInside : Command → Bool
  | .exit => true
  | .help => true
  | .vars => true
  | .funcs => true
  | .modules => true
  | .compile _ => false
  | .install _ => false
  | .tests => false
  | .line _ => true

/-- A line that, without the blanks at its ends, neither starts the tests nor compiles or installs a file. -/
def KeepsInside (line : String) : Prop :=
  Text.strip line ≠ "tests run" ∧ Text.startsWith (Text.strip line) "compile " = false ∧
    Text.startsWith (Text.strip line) "stinstall " = false

instance (line : String) : Decidable (KeepsInside line) :=
  inferInstanceAs (Decidable (_ ∧ _))

theorem argumentOf?_of_not_startsWith (word : String) {text : String}
    (h : Text.startsWith text (word ++ " ") = false) : argumentOf? word text = none := by
  simp only [Text.startsWith, Option.isSome_eq_false_iff, Option.isNone_iff_eq_none] at h
  rw [argumentOf?, h, Option.map_none]

theorem KeepsInside.command {line : String} (h : KeepsInside line) :
    (Command.ofLine (Text.strip line)).keepsInside = true := by
  obtain ⟨htests, hcompile, hinstall⟩ := h
  have hcompile := argumentOf?_of_not_startsWith "compile" hcompile
  have hinstall := argumentOf?_of_not_startsWith "stinstall" hinstall
  have htests : (Text.strip line == "tests run") = false := beq_eq_false_iff_ne.mpr htests
  simp only [Command.ofLine, hcompile, hinstall, htests, Bool.false_eq_true, if_false]
  split_ifs <;> rfl

theorem perform_staysCalm {c : Command} (hinside : c.keepsInside = true) : StaysCalm c.perform := by
  have htalk := talking_staysCalm
  cases c with
  | exit => exact htalk.pure _
  | help => exact htalk.printLine _
  | vars => exact htalk.printVars []
  | funcs => exact htalk.bind htalk.get fun s => htalk.printLine _
  | modules =>
    refine htalk.bind (fun s hs => ?_) fun v => htalk.printValues [v]
    exact htalk.ofResult (s.lookupGlobal "__modules__") s hs
  | compile path => cases hinside
  | install path => cases hinside
  | tests => cases hinside
  | line text =>
    refine htalk.bind (execute_staysCalm text).attempt fun r => ?_
    cases r with
    | ok _ => exact htalk.pure _
    | error f =>
      exact .modify (fun _ hs => ⟨hs.funcs, hs.off, hs.audible, hs.globals⟩) fun _ => List.suffix_refl _

theorem printValues_of_text {v : Value} {text : String} (h : v.text? = some text) (s : Session) :
    (printValues [v] s).1 = .done () := by
  simp only [printValues, printValues.go, h, Bind.bind, Run.bind, Run.get]
  split <;> rfl

/-- The next line asks for a command. `u` is the session after the line has been read. -/
def Asks (s : Session) (c : Command) (u : Session) : Prop :=
  ∃ line rest, s.input = line :: rest ∧ (Text.strip line).isEmpty = false ∧
    Command.ofLine (Text.strip line) = c ∧ u = s.afterRead "stry> " rest

/-- From one prompt to the next: a blank line is passed over, and a command is carried out. -/
inductive Turn (s : Session) : Session → Prop where
  | blank {line : String} {rest : List String} (hinput : s.input = line :: rest)
      (hblank : (Text.strip line).isEmpty = true) : Turn s (s.afterRead "stry> " rest)
  | command {c : Command} {u t : Session} (hasks : Asks s c u) (hstays : c ≠ .exit)
      (hdone : c.perform u = (.done (), t)) : Turn s t

/-- The dialogue ends at a prompt, because there is no line left or because the user leaves. -/
inductive Ends (s : Session) : Session → Prop where
  | exhausted (hinput : s.input = []) (hopen : s.streams.opens 0 = true) :
      Ends s ((s.write "stry> ").write "\n")
  | left {u : Session} (hasks : Asks s .exit u) : Ends s u

/-- A prompt that the dialogue comes to. -/
abbrev Reaches : Session → Session → Prop :=
  Relation.ReflTransGen Turn

section Loop

variable {s t u : Session} {line : String} {rest : List String}

/-- A calm session whose lines keep to the session. -/
structure Ready (s : Session) : Prop where
  calm : s.Calm
  inside : ∀ line ∈ s.input, KeepsInside line

/-- A line that is read asks for a command that keeps to the session, and the lines behind it do too. -/
theorem Asks.ready {c : Command} (h : Asks s c u) (hs : Ready s) :
    Ready u ∧ c.keepsInside = true ∧ u.input.length < s.input.length := by
  obtain ⟨line, rest, hinput, -, rfl, rfl⟩ := h
  have hlines := hs.inside
  rw [hinput, List.forall_mem_cons] at hlines
  refine ⟨⟨hs.calm.afterRead _ rest, hlines.2⟩, hlines.1.command, ?_⟩
  rw [hinput]
  exact Nat.lt_succ_self _

theorem Turn.ready (h : Turn s t) (hs : Ready s) : Ready t ∧ t.input.length < s.input.length := by
  cases h with
  | blank hinput _ =>
    have hlines := hs.inside
    rw [hinput, List.forall_mem_cons] at hlines
    refine ⟨⟨hs.calm.afterRead _ _, hlines.2⟩, ?_⟩
    rw [hinput]
    exact Nat.lt_succ_self _
  | command hasks _ hdone =>
    obtain ⟨hu, hinside, hlt⟩ := hasks.ready hs
    obtain ⟨-, hcalm, hinput⟩ := perform_staysCalm hinside _ hu.calm
    rw [hdone] at hcalm hinput
    -- What the command reads of the input comes before what is left.
    refine ⟨⟨hcalm, fun line hline => hu.inside line (hinput.subset hline)⟩, ?_⟩
    exact Nat.lt_of_le_of_lt hinput.length_le hlt

theorem Reaches.ready (h : Reaches s t) (hs : Ready s) : Ready t := by
  induction h with
  | refl => exact hs
  | tail _ hturn ih => exact (hturn.ready ih).1

end Loop

/-- What the dialogue shows at its start. -/
def greeting : String :=
  "Stryke v" ++ version ++ " REPL — type 'help' for commands" ++ "\n"

theorem run_eq (s : Session) : run s = loop (s.input.length + 1) (s.write greeting) := by
  simp only [run, printLine, write, Bind.bind, Run.bind, Run.modify, Run.get, Session.write_input, greeting]

/-- The session in which a dialogue starts afresh, with the lines that the user will type. -/
def opening (files : Files.FileTree) (lines : List String) : Session :=
  { Session.fresh with input := lines, files := files }

example : (run (opening (.empty Files.work) ["stryprint readfile(0)"])).1 = .failed .descriptor := by
  decide +kernel

end Repl

end LineScript
