import LineScript.Proofs.Frame
import LineScript.Repl

/-!
# What the dialogue with a user leaves alone

The commands of the dialogue talk to the user and change files; only the lines that it executes do more.
So the dialogue preserves every property that executing a line preserves, if the property shows nothing of
the debugger, the input, the output and the files.
-/

namespace LineScript

open Run

variable {view : Session → γ}

/-! ## Commands on files -/

namespace Package

variable {store : Store}

/-- A step that is taken under a condition, and what follows in both cases. -/
theorem keeps_after_step {c : Prop} [Decidable c] {m : Run PUnit} {rest : PUnit → Run α}
    (hm : Keeps view m) (h : Keeps view (rest ⟨⟩)) :
    Keeps view (if c then m >>= rest else rest ⟨⟩) := by
  split
  · exact .bind hm fun _ => h
  · exact h

theorem changeFiles_keeps (hfiles : HidesFiles view)
    (f : Files.FileTree → Files.FileTree × Except Fault Unit) : Keeps view (changeFiles f) := by
  refine .bind .get fun s => ?_
  exact .bind (.modify fun s => hfiles s _) fun _ => .ofResult _

theorem writeContent_keeps (hfiles : HidesFiles view) (path content : String) :
    Keeps view (writeContent path content) := by
  refine .bind .get fun s => .bind (.ofResult _) fun files => ?_
  exact .modify fun s => hfiles s files

theorem prepare_keeps (hfiles : HidesFiles view) : Keeps view store.prepare := by
  -- The directory is made if it is missing, and then the register.
  refine .bind .get fun s => keeps_after_step (changeFiles_keeps hfiles _) ?_
  refine .bind .get fun s' => ?_
  split
  · exact writeContent_keeps hfiles _ _
  · exact .pure _

theorem load_keeps : Keeps view store.load :=
  .bind .get fun _ => .bind (.ofResult _) fun _ => .ofResult _

theorem save_keeps (hfiles : HidesFiles view) (v : Json) : Keeps view (store.save v) := by
  refine .bind .get fun s => ?_
  split
  · exact writeContent_keeps hfiles _ _
  · exact .pure _

theorem removeTree_keeps (hfiles : HidesFiles view) (path : String) : Keeps view (removeTree path) := by
  refine .bind .get fun s => ?_
  dsimp only
  split
  · exact .fail _
  · split
    · exact .modify fun s => hfiles s _
    · exact .fail _

theorem copyTree_keeps (hfiles : HidesFiles view) (folders : Nat) (source destination : String) :
    Keeps view (copyTree folders source destination) := by
  refine .bind .get fun s => ?_
  split
  · exact .fail _
  · refine .bind .get fun s' => keeps_after_step (.fail _) ?_
    refine .bind .get fun s'' => .bind (changeFiles_keeps hfiles _) fun _ => .bind .get fun t => ?_
    split
    · exact .fail _
    · split
      · exact .fail _
      · refine .bind (.modify fun s => hfiles s _) fun _ => ?_
        split
        · exact .fail _
        · exact .pure _

theorem copyFile_keeps (hfiles : HidesFiles view) (source destination : String) :
    Keeps view (copyFile source destination) := by
  refine .bind .get fun s => keeps_after_step (.fail _) ?_
  exact .bind (.ofResult _) fun content => .bind (.ofResult _) fun files =>
    .modify fun s => hfiles s files

theorem replaceTree_keeps (hfiles : HidesFiles view) (folders : Nat) (source destination : String) :
    Keeps view (replaceTree folders source destination) :=
  .bind .get fun _ => keeps_after_step (removeTree_keeps hfiles _) (copyTree_keeps hfiles _ _ _)

theorem addScript_keeps (hfiles : HidesFiles view) (source destination : String) :
    Keeps view (addScript source destination) :=
  .bind .get fun _ => keeps_after_step (changeFiles_keeps hfiles _) (copyFile_keeps hfiles _ _)

theorem enroll_keeps (hfiles : HidesFiles view) (name path : String) :
    Keeps view (store.enroll name path) :=
  .bind load_keeps fun _ => .bind (.ofResult _) fun _ => save_keeps hfiles _

theorem install_keeps (hview : HidesDialogue view) (hfiles : HidesFiles view) (path : String) :
    Keeps view (install store path) := by
  refine .bind (prepare_keeps hfiles) fun _ => .bind .get fun s => ?_
  split
  · exact .bind (printLine_keeps hview _) fun _ => .pure _
  · refine .bind .get fun s' => ?_
    split
    · refine .bind (replaceTree_keeps hfiles _ _ _) fun _ => ?_
      exact .bind (enroll_keeps hfiles _ _) fun _ => printLine_keeps hview _
    · split
      · exact .bind (printLine_keeps hview _) fun _ => .pure _
      · refine .bind (addScript_keeps hfiles _ _) fun _ => ?_
        exact .bind (enroll_keeps hfiles _ _) fun _ => printLine_keeps hview _

end Package

theorem Compile.compileFile_keeps (hview : HidesDialogue view) (hfiles : HidesFiles view)
    (path : String) (output : Option String) : Keeps view (compileFile path output) := by
  refine .bind .get fun s => ?_
  dsimp only
  split
  · exact .bind (printLine_keeps hview _) fun _ => .pure _
  · refine .bind (.ofResult _) fun lines => .bind (.ofResult _) fun written => ?_
    exact .bind (.modify fun s => hfiles s written) fun _ => printLine_keeps hview _

/-! ## The dialogue -/

namespace Repl

variable {Inv : Session → Prop}

theorem report_keeps (hview : HidesDialogue view) (f : Fault) : Keeps view (report f) :=
  .modify fun s => hview s s.debugger s.input s.streams _

theorem printModules_keeps (hview : HidesDialogue view) : Keeps view printModules :=
  .bind (fun s => Keeps.ofResult (s.lookupGlobal "__modules__") s) fun v => printValues_keeps hview [v]

/-- A line is executed as outside any script, and its fault is reported. -/
theorem executeLine_preserves (hInv : HidesDialogue Inv) {line : String}
    (hexec : Preserves Inv (execute ⟨none, none, unnamedSource⟩ line)) :
    Preserves Inv (executeLine line) := by
  refine .bind hexec.attempt fun r => ?_
  cases r with
  | ok _ => exact .pure _
  | error f => exact .of_keeps (report_keeps hInv f)

theorem perform_preserves (hInv : HidesDialogue Inv) (hfiles : HidesFiles Inv)
    (hexec : ∀ line, Preserves Inv (execute ⟨none, none, unnamedSource⟩ line)) (c : Command) :
    Preserves Inv c.perform := by
  cases c with
  | exit => exact .pure _
  | help => exact .of_keeps (printLine_keeps hInv _)
  | vars => exact .of_keeps (printVars_keeps hInv [])
  | funcs => exact .of_keeps (.bind .get fun s => printLine_keeps hInv _)
  | modules => exact .of_keeps (printModules_keeps hInv)
  | compile path => exact .of_keeps (Compile.compileFile_keeps hInv hfiles path none)
  | install path => exact .of_keeps (Package.install_keeps hInv hfiles path)
  | tests => exact .fail _
  | line text => exact executeLine_preserves hInv (hexec text)

theorem loop_preserves (hInv : HidesDialogue Inv) (hfiles : HidesFiles Inv)
    (hexec : ∀ line, Preserves Inv (execute ⟨none, none, unnamedSource⟩ line)) (fuel : Nat) :
    Preserves Inv (loop fuel) := by
  induction fuel with
  | zero => exact .pure _
  | succ fuel ih =>
    refine .bind (.of_keeps (hInv.debugging.readLine _).attempt) fun r => ?_
    split
    · exact .of_keeps (printLine_keeps hInv _)
    · exact .fail _
    · -- An empty line is passed over, and leaving the dialogue ends it.
      dsimp only
      split
      · exact ih
      · split
        · exact .pure _
        · exact .bind (perform_preserves hInv hfiles hexec _) fun _ => ih

/-- The dialogue preserves what its lines preserve, however it ends. -/
theorem run_preserves (hInv : HidesDialogue Inv) (hfiles : HidesFiles Inv)
    (hexec : ∀ line, Preserves Inv (execute ⟨none, none, unnamedSource⟩ line)) :
    Preserves Inv run := by
  refine .bind (.of_keeps (printLine_keeps hInv _)) fun _ => ?_
  exact .bind (.of_keeps .get) fun s => loop_preserves hInv hfiles hexec _

end Repl

end LineScript
