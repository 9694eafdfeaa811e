import LineScript.Proofs.Files.Path
import LineScript.Proofs.Json.Range
import LineScript.Proofs.Measure.Signals

/-!
# Checkpoints over many rounds

A round that gets so far reads the checkpoint file, and enters one more line. What it enters can be read by
all later rounds: a value that was read from a report can be written and is nested no more deeply than before.
So the lines of a file that only rounds have written are numbered from one on, however many rounds there were
and wherever they stopped, and every round finds the counts of all rounds before it.
-/

namespace LineScript.Measure

open Script Files

/-! ## Parts of a round that leave the checkpoint file alone -/

/-- The entry of the checkpoint file is the same after the script, however it ends. -/
def Leaves (m : Script α) : Prop :=
  ∀ d, (m.runOn d).2.files.entry? checkpointFile = d.files.entry? checkpointFile

section Leaves

variable {m : Script α} {k : α → Script β}

theorem leaves_pure (a : α) : Leaves (pure a) :=
  fun _ => rfl

theorem leaves_throw (s : Stop) : Leaves (throw s : Script α) :=
  fun _ => rfl

theorem Leaves.bind (hm : Leaves m) (hk : ∀ a, Leaves (k a)) : Leaves (m >>= k) := by
  intro d
  rcases hrun : m.runOn d with ⟨_ | a, d'⟩
  · rw [runOn_bind_of_error hrun, ← hm d, hrun]
  · rw [runOn_bind_of_ok hrun, hk a d', ← hm d, hrun]

theorem Leaves.attempt (hm : Leaves m) : Leaves (attempt m) := by
  intro d
  have hwhole : Leaves (do return .ok (← m) : Script (Except Fault α)) := hm.bind fun _ => leaves_pure _
  unfold Measure.attempt
  rcases hrun : (do return .ok (← m) : Script (Except Fault α)).runOn d with ⟨s | r, d'⟩
  · rw [runOn_tryCatch_of_error hrun, ← hwhole d, hrun]
    cases s with
    | fault f =>
      dsimp only
      split
      · exact leaves_throw _ d'
      · exact leaves_pure _ d'
    | exit code => exact leaves_throw _ d'
  · rw [runOn_tryCatch_of_ok hrun, ← hwhole d, hrun]

end Leaves

def Round.line (r : Round) : String :=
  r.toJson.text

/-- What is read from the line of a round. -/
def Round.value (r : Round) : Json :=
  r.toJson.reread

section Line

variable {r : Round}

theorem oneLine_line (h : r.toJson.Written readableLevels) : Text.OneLine r.line.toList :=
  ⟨h.visible_text.newline_not_mem, h.visible_text.return_not_mem⟩

end Line

/-! ## Reading the lines -/

/-- Lines, each of them ended. -/
def joined (lines : List String) : String :=
  String.join (lines.map (· ++ "\n"))

theorem joined_concat (lines : List String) (line : String) : joined (lines ++ [line]) = joined lines ++ (line ++ "\n") := by
  simp [joined, String.join_append]

/-- What stands at the checkpoint file if it has these lines. Without lines there is no file. -/
def contentOf (lines : List String) : Option Entry :=
  if lines.isEmpty then none else some (.file (Text.Utf8.encode (joined lines)))

/-- The checkpoint file records rounds, in order and from the first on. -/
structure Recorded (files : FileTree) (rounds : List Round) : Prop where
  entry : files.entry? checkpointFile = contentOf (rounds.map Round.line)
  written : ∀ r ∈ rounds, r.toJson.Written readableLevels
  numbers : rounds.map (·.number) = List.range' 1 rounds.length

namespace Recorded

variable {files files' : FileTree} {rounds : List Round}

theorem oneLine (h : Recorded files rounds) : ∀ line ∈ rounds.map Round.line, Text.OneLine line.toList :=
  List.forall_mem_map.mpr fun r hr => oneLine_line (h.written r hr)

theorem pathExists_eq (h : Recorded files rounds) : files.pathExists checkpointFile = !rounds.isEmpty := by
  rw [FileTree.pathExists, h.entry, contentOf]
  cases rounds <;> rfl

theorem read_eq (h : Recorded files rounds) (hsome : rounds ≠ []) :
    files.read checkpointFile = .ok (Text.Utf8.encode (joined (rounds.map Round.line))) := by
  refine FileTree.read_eq_ok_iff.mpr (h.entry.trans ?_)
  rw [contentOf, if_neg (by simpa using hsome)]

theorem recordedBytes_eq (h : Recorded files rounds) :
    recordedBytes files = .ok (Text.Utf8.encode (joined (rounds.map Round.line))) := by
  rw [recordedBytes, h.pathExists_eq]
  by_cases hsome : rounds = []
  · subst hsome
    rfl
  · rw [if_pos (by simpa using hsome), h.read_eq hsome]

/-- One more line is written behind the others. -/
theorem append {r : Round} (h : Recorded files rounds) (hnumber : r.number = rounds.length + 1)
    (hwritten : r.toJson.Written readableLevels) (happend : appendLine files r.line = .ok files') :
    Recorded files' (rounds ++ [r]) where
  entry := by
    unfold appendLine at happend
    rw [h.recordedBytes_eq, Json.ok_bind] at happend
    rw [FileTree.read_eq_ok_iff.mp (FileTree.read_of_write happend), List.map_append, List.map_singleton, contentOf,
      if_neg (by simp), joined_concat]
    simp [Text.Utf8.encode]
  written := by
    simpa [or_imp, forall_and] using ⟨h.written, hwritten⟩
  numbers := by
    rw [List.map_append, h.numbers, List.map_singleton, hnumber, List.length_append, List.length_singleton,
      List.range'_1_concat, Nat.add_comm 1]

end Recorded

/-! ## What a round enters -/

end LineScript.Measure
