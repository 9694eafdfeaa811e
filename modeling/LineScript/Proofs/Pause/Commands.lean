import LineScript.Debugger
import LineScript.Proofs.Text.Line
import Mathlib

/-!
# Commands at a pause

The lines that are read at a pause are commands, up to the first one that answers it. What they say about
breakpoints is a fold over these lines: `b` sets a breakpoint and `del` removes one, so that the last line about
a breakpoint decides. With a `del` that removes breakpoints at line numbers only, the result is another one
exactly if a breakpoint at a place was to be removed for good.
-/

namespace LineScript

/-! ## Numbers -/

section Numbers

open Value

/-- The characters of which a decimal number is written: blanks, signs, underscores and digits. -/
def isNumeralChar (c : Char) : Bool :=
  isPlainBlank c || c == '+' || c == '-' || c == '_' || Expr.isDigitOf 10 c

theorem mem_of_digitRun {isDigit : Char → Bool} {acc cs ds rest : List Char} {c : Char}
    (h : Expr.digitRun isDigit acc cs = some (ds, rest)) (hc : c ∈ cs) :
    c ∈ rest ∨ c = '_' ∨ isDigit c = true := by
  fun_induction Expr.digitRun isDigit acc cs with
  | case1 acc => cases hc
  | case2 acc d cs hd ih => grind
  | case3 => cases h
  | case4 => cases h
  | case5 => grind
  | case6 => grind

theorem mem_takeSign {cs : List Char} {c : Char} (hc : c ∈ cs) :
    c ∈ (takeSign cs).2 ∨ c = '+' ∨ c = '-' := by
  unfold takeSign
  split <;> grind

theorem mem_dropWhile_blank {cs : List Char} {c : Char} (hc : c ∈ cs) :
    c ∈ cs.dropWhile isPlainBlank ∨ isPlainBlank c = true := by
  rw [← List.takeWhile_append_dropWhile (p := isPlainBlank) (l := cs), List.mem_append] at hc
  exact hc.symm.imp_right List.mem_takeWhile_imp

/-- The mark of a base stands for other bases than ten. -/
theorem dropMark_ten (cs : List Char) : dropMark 10 cs = cs := by
  have hmark : markedBase? cs ≠ some 10 := by
    unfold markedBase?
    split <;> simp
  simp [dropMark, hmark]

/-- A text that is read as a number has nothing in it but the characters of numbers. -/
theorem isNumeralChar_of_readInteger {cs : List Char} {n : Int} {c : Char}
    (h : Value.readInteger 10 cs = .ok n) (hc : c ∈ cs) : isNumeralChar c = true := by
  simp only [Value.readInteger, dropMark_ten, Nat.reduceBEq, Bool.false_eq_true, if_false] at h
  split at h
  · cases h
  split at h
  · cases h
  rename_i ds rest hrun
  split at h
  · cases h
  split at h
  · cases h
  rename_i hshape
  have hrest : ∀ d ∈ rest, isPlainBlank d = true := by
    simp only [Bool.or_eq_true, not_or, Bool.not_eq_true, Bool.not_eq_false'] at hshape
    exact List.all_eq_true.mp hshape.2
  -- A character is passed over at the front, stands in the run of digits, or behind it.
  unfold isNumeralChar
  rcases mem_dropWhile_blank hc with hc | hblank
  · rcases mem_takeSign hc with hc | rfl | rfl
    · rcases mem_of_digitRun hrun hc with hc | rfl | hdigit
      · simp [hrest c hc]
      · simp
      · simp [hdigit]
    · simp
    · simp
  · simp [hblank]

theorem mem_plainDigits {cs : List Char} {c : Char} (hc : c ∈ cs) (hplain : c.toNat < 127) :
    c ∈ plainDigits cs ∨ '?' ∈ plainDigits cs := by
  induction cs with
  | nil => cases hc
  | cons d cs ih =>
    unfold plainDigits
    grind

/-- There is no colon in a number. -/
theorem colon_not_mem_of_readInteger {text : String} {n : Int} (h : LineScript.readInteger text = .ok n) :
    ':' ∉ text.toList := by
  intro hcolon
  obtain ⟨m, hread⟩ : ∃ m, Value.readInteger 10 (plainForm text) = .ok m := by
    simp only [LineScript.readInteger, toInteger, integerFrom, Bind.bind, Except.bind] at h
    cases hread : Value.readInteger 10 (plainForm text) with
    | ok m => exact ⟨m, rfl⟩
    | error f => cases f <;> simp [hread] at h
  have hplain : ':' ∈ plainForm text ∨ '?' ∈ plainForm text := by
    unfold plainForm
    dsimp only
    split
    · exact .inl hcolon
    · exact mem_plainDigits hcolon (by decide)
  rcases hplain with hc | hc
  · exact absurd (isNumeralChar_of_readInteger hread hc) (by decide)
  · exact absurd (isNumeralChar_of_readInteger hread hc) (by decide)

end Numbers

theorem splitColon?_eq_none {text : String} (h : ':' ∉ text.toList) : splitColon? text = none := by
  have hrest : text.toList.dropWhile (· != ':') = [] := by
    rw [List.dropWhile_eq_nil_iff]
    intro c hc
    have hne : c ≠ ':' := fun heq => h (heq ▸ hc)
    simpa using hne
  simp only [splitColon?, List.span_eq_takeWhile_dropWhile, hrest]

/-! ## Breakpoints -/

/-- A breakpoint is at a line number of every source, or at a line of one source. -/
inductive Breakpoint where
  | line (n : Int)
  | place (source : String) (n : Int)
  deriving DecidableEq, Repr

namespace Debugger

def Has (d : Debugger) : Breakpoint → Prop
  | .line n => n ∈ d.lines
  | .place source n => (source, n) ∈ d.places

def breakpoints (d : Debugger) : Set Breakpoint :=
  {b | d.Has b}

variable {d : Debugger} {b : Breakpoint}

theorem place_mem_breakpoints {source : String} {n : Int} :
    .place source n ∈ d.breakpoints ↔ (source, n) ∈ d.places :=
  Iff.rfl

theorem has_addLine {n : Int} : (d.addLine n).Has b ↔ d.Has b ∨ b = .line n := by
  unfold addLine
  by_cases h : n ∈ d.lines
  · -- A breakpoint that is there is not set a second time.
    have hself : b = .line n → d.Has b := by
      rintro rfl
      exact h
    simpa [h] using hself
  · cases b with
    | line m => simp [Has, h]
    | place source m => simp [Has, h]

theorem has_addPlace {source : String} {n : Int} :
    (d.addPlace source n).Has b ↔ d.Has b ∨ b = .place source n := by
  unfold addPlace
  by_cases h : (source, n) ∈ d.places
  · have hself : b = .place source n → d.Has b := by
      rintro rfl
      exact h
    simpa [h] using hself
  · cases b with
    | line m => simp [Has, h]
    | place source' m => simp [Has, h]

theorem has_removeLine {n : Int} : (d.removeLine n).Has b ↔ d.Has b ∧ b ≠ .line n := by
  cases b with
  | line m => simp [Has, removeLine]
  | place source m => simp [Has, removeLine]

end Debugger

/-! ## What lines say -/

def answers : List (String × Action) :=
  [("c", .continue), ("continue", .continue), ("s", .step), ("step", .step), ("n", .next), ("next", .next)]

def answer? (line : String) : Option Action :=
  answers.lookup (Text.strip line)

/-- The breakpoint that an argument names: `N`, or `source:N`. -/
def Breakpoint.named? (arg : String) : Option Breakpoint :=
  match splitColon? arg with
  | some (source, n) => (readInteger n).toOption.map (.place source)
  | none => (readInteger arg).toOption.map .line

/-- The breakpoint that a line `b N` or `b source:N` sets. -/
def setBy? (line : String) : Option Breakpoint :=
  (argumentOf? "b" (Text.strip line)).bind Breakpoint.named?

/-- The breakpoint that a line `del N` or `del source:N` is to remove. -/
def removedBy? (line : String) : Option Breakpoint :=
  (argumentOf? "del" (Text.strip line)).bind Breakpoint.named?

/-- The breakpoint that a line `del N` removes. -/
def lineRemovedBy? (line : String) : Option Breakpoint :=
  (argumentOf? "del" (Text.strip line)).bind fun arg => (readInteger arg).toOption.map .line

/-- The lines that are read before a pause is answered. -/
def commandsOf (lines : List String) : List String :=
  lines.takeWhile fun line => (answer? line).isNone

/-- The first answer among lines. The end of the input lets the run go on. -/
def replyOf (lines : List String) : Action :=
  (lines.findSome? answer?).getD .continue

def unreadOf (lines : List String) : List String :=
  (lines.dropWhile fun line => (answer? line).isNone).tail

section Lines

variable {line : String} {rest : List String} {action : Action}

theorem commandsOf_of_answer (h : answer? line = some action) : commandsOf (line :: rest) = [] := by
  simp [commandsOf, h]

theorem commandsOf_of_command (h : answer? line = none) :
    commandsOf (line :: rest) = line :: commandsOf rest := by
  simp [commandsOf, h]

theorem replyOf_of_answer (h : answer? line = some action) : replyOf (line :: rest) = action := by
  simp [replyOf, h]

theorem replyOf_of_command (h : answer? line = none) : replyOf (line :: rest) = replyOf rest := by
  simp [replyOf, h]

theorem unreadOf_of_answer (h : answer? line = some action) : unreadOf (line :: rest) = rest := by
  simp [unreadOf, h]

theorem unreadOf_of_command (h : answer? line = none) : unreadOf (line :: rest) = unreadOf rest := by
  simp [unreadOf, h]

end Lines

/-! ## What lines make of breakpoints -/

/-- The breakpoints after a line, where `removed?` says which one a line removes. -/
def marked (removed? : String → Option Breakpoint) (bs : Set Breakpoint) (line : String) :
    Set Breakpoint :=
  {b | (b ∈ bs ∨ setBy? line = some b) ∧ removed? line ≠ some b}

/-- The breakpoints after several lines. -/
def processed (removed? : String → Option Breakpoint) (bs : Set Breakpoint) (lines : List String) :
    Set Breakpoint :=
  lines.foldl (marked removed?) bs

/-- Every breakpoint at a place that is to be removed while it is set is set again later. -/
def SetAgain (bs : Set Breakpoint) (lines : List String) : Prop :=
  ∀ front line back source n, lines = front ++ line :: back →
    removedBy? line = some (.place source n) →
    (.place source n ∈ bs ∨ ∃ l ∈ front, setBy? l = some (.place source n)) →
    ∃ l ∈ back, setBy? l = some (.place source n)

section Processed

variable {removed? : String → Option Breakpoint} {bs : Set Breakpoint} {b : Breakpoint}
  {line : String} {lines : List String}

theorem mem_marked :
    b ∈ marked removed? bs line ↔ (b ∈ bs ∨ setBy? line = some b) ∧ removed? line ≠ some b :=
  Iff.rfl

theorem processed_cons :
    processed removed? bs (line :: lines) = processed removed? (marked removed? bs line) lines :=
  rfl

theorem processed_append (front back : List String) :
    processed removed? bs (front ++ back) = processed removed? (processed removed? bs front) back :=
  List.foldl_append

/-- What is set after lines was set before them or by one of them. -/
theorem exists_set_of_mem_processed (h : b ∈ processed removed? bs lines) :
    b ∈ bs ∨ ∃ l ∈ lines, setBy? l = some b := by
  induction lines generalizing bs with
  | nil => exact .inl h
  | cons line lines ih =>
    rcases ih h with hmarked | ⟨l, hl, hset⟩
    · rcases hmarked.1 with hmem | hset
      · exact .inl hmem
      · exact .inr ⟨line, .head _, hset⟩
    · exact .inr ⟨l, .tail _ hl, hset⟩

/-- A breakpoint that no line removes is set if it was before or if one of the lines sets it. -/
theorem mem_processed_of_kept (hkept : ∀ l ∈ lines, removed? l ≠ some b) :
    b ∈ processed removed? bs lines ↔ b ∈ bs ∨ ∃ l ∈ lines, setBy? l = some b := by
  refine ⟨exists_set_of_mem_processed, ?_⟩
  induction lines generalizing bs with
  | nil => simp [processed]
  | cons line lines ih =>
    intro h
    refine ih (fun l hl => hkept l (.tail _ hl)) ?_
    have hline : removed? line ≠ some b := hkept line (.head _)
    rcases h with hmem | ⟨l, hl, hset⟩
    · exact .inl ⟨.inl hmem, hline⟩
    · rcases List.mem_cons.mp hl with rfl | hl
      · exact .inl ⟨.inr hset, hline⟩
      · exact .inr ⟨l, hl, hset⟩

/-- Whether a breakpoint is set depends on the lines that remove it only. -/
theorem mem_processed_congr {removed'? : String → Option Breakpoint} {bs' : Set Breakpoint}
    (hbs : b ∈ bs ↔ b ∈ bs') (h : ∀ l, removed? l = some b ↔ removed'? l = some b) :
    b ∈ processed removed? bs lines ↔ b ∈ processed removed'? bs' lines := by
  induction lines generalizing bs bs' with
  | nil => exact hbs
  | cons line lines ih =>
    apply ih
    rw [mem_marked, mem_marked, hbs, ne_eq, ne_eq, h]

end Processed

section Removal

variable {bs : Set Breakpoint} {b : Breakpoint} {line text arg : String} {lines : List String}

theorem argumentOf?_eq_some_iff {word : String} :
    argumentOf? word text = some arg ↔
      ∃ rest, text.toList = (word ++ " ").toList ++ rest ∧ String.ofList (Text.trim rest) = arg := by
  simp only [argumentOf?, Option.map_eq_some_iff, Text.after?_eq_some_iff]

/-- A line that sets a breakpoint removes none. -/
theorem argumentOf?_del_of_b (h : argumentOf? "b" text = some arg) : argumentOf? "del" text = none := by
  obtain ⟨rest, htext, -⟩ := argumentOf?_eq_some_iff.mp h
  rw [Option.eq_none_iff_forall_ne_some]
  intro arg' h'
  obtain ⟨rest', htext', -⟩ := argumentOf?_eq_some_iff.mp h'
  rw [htext] at htext'
  cases htext'

theorem argumentOf?_b_of_del (h : argumentOf? "del" text = some arg) : argumentOf? "b" text = none := by
  by_contra hsome
  obtain ⟨arg', harg'⟩ := Option.ne_none_iff_exists'.mp hsome
  rw [argumentOf?_del_of_b harg'] at h
  cases h

theorem setBy?_of_removedBy? (h : removedBy? line = some b) : setBy? line = none := by
  cases hb : argumentOf? "b" (Text.strip line) with
  | none => rw [setBy?, hb, Option.bind_none]
  | some arg =>
    rw [removedBy?, argumentOf?_del_of_b hb, Option.bind_none] at h
    cases h

theorem named?_of_readInteger {n : Int} (h : readInteger arg = .ok n) :
    Breakpoint.named? arg = some (.line n) := by
  rw [Breakpoint.named?, splitColon?_eq_none (colon_not_mem_of_readInteger h), h]
  rfl

/-- Of the breakpoints that are to be removed, those at line numbers are. -/
theorem lineRemovedBy?_eq_some_iff :
    lineRemovedBy? line = some b ↔ removedBy? line = some b ∧ ∃ n, b = .line n := by
  unfold lineRemovedBy? removedBy?
  cases argumentOf? "del" (Text.strip line) with
  | none => simp
  | some arg =>
    change (readInteger arg).toOption.map Breakpoint.line = some b ↔ Breakpoint.named? arg = some b ∧ _
    constructor
    · intro h
      cases hread : readInteger arg with
      | error f => simp [hread, Except.toOption] at h
      | ok n =>
        obtain rfl : Breakpoint.line n = b := by simpa [hread, Except.toOption] using h
        exact ⟨named?_of_readInteger hread, n, rfl⟩
    · rintro ⟨hnamed, n, rfl⟩
      unfold Breakpoint.named? at hnamed
      split at hnamed
      · simp at hnamed
      · exact hnamed

theorem lineRemovedBy?_ne_place {source : String} {n : Int} :
    lineRemovedBy? line ≠ some (.place source n) := by
  intro h
  obtain ⟨-, m, hm⟩ := lineRemovedBy?_eq_some_iff.mp h
  cases hm

/-- The last line of those that have a property. -/
theorem exists_last {p : String → Prop} (h : ∃ l ∈ lines, p l) :
    ∃ front l back, lines = front ++ l :: back ∧ p l ∧ ∀ l' ∈ back, ¬ p l' := by
  induction lines with
  | nil => simp at h
  | cons line lines ih =>
    by_cases hlater : ∃ l ∈ lines, p l
    · obtain ⟨front, l, back, rfl, hl, hback⟩ := ih hlater
      exact ⟨line :: front, l, back, rfl, hl, hback⟩
    · have hnone : ∀ l ∈ lines, ¬ p l := fun l hl hp => hlater ⟨l, hl, hp⟩
      obtain ⟨l, hl, hp⟩ := h
      rcases List.mem_cons.mp hl with rfl | hl
      · exact ⟨[], l, lines, rfl, hp, hnone⟩
      · exact absurd hp (hnone l hl)

/-- A breakpoint at a place that is set stays so when it should not, unless it is set again. -/
theorem processed_eq_iff :
    processed lineRemovedBy? bs lines = processed removedBy? bs lines ↔ SetAgain bs lines := by
  have hplace : ∀ source n, .place source n ∈ processed lineRemovedBy? bs lines ↔
      .place source n ∈ bs ∨ ∃ l ∈ lines, setBy? l = some (.place source n) :=
    fun _ _ => mem_processed_of_kept fun _ _ => lineRemovedBy?_ne_place
  constructor
  · intro heq front line back source n hlines hremoved hset
    have hmem : .place source n ∈ processed lineRemovedBy? bs lines := by
      rw [hplace]
      subst hlines
      refine hset.imp_right fun ⟨l, hl, hsets⟩ => ⟨l, List.mem_append_left _ hl, hsets⟩
    -- Right after the line that removes it, the breakpoint ought to be gone.
    rw [heq, hlines, processed_append, processed_cons] at hmem
    rcases exists_set_of_mem_processed hmem with hmarked | hlater
    · exact absurd hremoved hmarked.2
    · exact hlater
  · intro hagain
    ext b
    cases b with
    | line n =>
      refine mem_processed_congr Iff.rfl fun l => ?_
      rw [lineRemovedBy?_eq_some_iff]
      simp
    | place source n =>
      rw [hplace]
      refine ⟨fun hset => ?_, exists_set_of_mem_processed⟩
      by_cases hremoved : ∃ l ∈ lines, removedBy? l = some (.place source n)
      · obtain ⟨front, line, back, rfl, hline, hback⟩ := exists_last hremoved
        have hlater : ∃ l ∈ back, setBy? l = some (.place source n) := by
          rcases hset with hmem | ⟨l, hl, hset⟩
          · exact hagain front line back source n rfl hline (.inl hmem)
          rcases List.mem_append.mp hl with hl | hl
          · exact hagain front line back source n rfl hline (.inr ⟨l, hl, hset⟩)
          rcases List.mem_cons.mp hl with rfl | hl
          · cases hset.symm.trans (setBy?_of_removedBy? hline)
          · exact ⟨l, hl, hset⟩
        rw [processed_append, processed_cons]
        exact (mem_processed_of_kept hback).mpr (.inr hlater)
      · have hkept : ∀ l ∈ lines, removedBy? l ≠ some (.place source n) :=
          fun l hl h => hremoved ⟨l, hl, h⟩
        exact (mem_processed_of_kept hkept).mpr hset

end Removal

end LineScript
