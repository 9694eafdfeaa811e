import LineScript.Expr.Grammar

/-!
# Texts of a single atom

The rules of the grammar stand in ranks, from branches down to atoms, and each of them asks for the words and
operators of its rank before and after it turns to the next. If the text is a single token that none of them
takes, and that is an atom, then all of them give the atom back.
-/

namespace LineScript.Expr

theorem tokensFrom_succ {fuel : Nat} {cursor : Cursor} {cs : List Char} (hcs : cs ≠ []) :
    tokensFrom (fuel + 1) cursor cs = (nextToken cursor cs).bind fun (front, cursor, rest) =>
      (tokensFrom fuel cursor rest).map (front ++ ·) := by
  have hempty : cs.isEmpty = false := by simpa using hcs
  rw [tokensFrom, hempty, if_neg Bool.false_ne_true]
  cases nextToken cursor cs with
  | none => rfl
  | some step =>
    obtain ⟨front, cursor', rest⟩ := step
    change (tokensFrom fuel cursor' rest).bind _ = (tokensFrom fuel cursor' rest).map _
    cases tokensFrom fuel cursor' rest <;> rfl

theorem bind_of_eq {α β : Type} {m : Parser α} {k : α → Parser β} {ts ts' : List Token} {a : α}
    (h : m ts = some (a, ts')) : (m >>= k) ts = k a ts' := by
  simp only [bind, StateT.bind, h, Option.bind]

/-- What the grammar asks for in front of an atom does not come next. -/
structure AtAtom (ts : List Token) : Prop where
  takeOp : ∀ o ∈ ["+", "-", "~"], takeOp o ts = some (false, ts)
  takeWord : ∀ w ∈ ["lambda", "not", "await"], takeWord w ts = some (false, ts)

variable {valid : List Char → Bool} {g : Grammar} {bound fuel : Nat} {ts : List Token} {p : Phrase}

/-! ## The ranks of the grammar, from the lowest -/

theorem primary_of_last (h : atom valid g (bound + 1) ts = some (p, [])) :
    primary valid g (bound + 1) ts = some (p, []) := by
  rw [primary, bind_of_eq h]
  rfl

theorem awaited_of_last (hts : AtAtom ts) (h : primary valid g bound ts = some (p, [])) :
    awaited valid g bound ts = some (p, []) := by
  rw [awaited, bind_of_eq (hts.takeWord "await" (by simp))]
  exact h

theorem factor_of_last (hts : AtAtom ts) (h : awaited valid g bound ts = some (p, [])) :
    factor valid g bound (fuel + 1) ts = some (p, []) := by
  rw [factor, bind_of_eq (hts.takeOp "+" (by simp)), if_neg Bool.false_ne_true,
    bind_of_eq (hts.takeOp "-" (by simp)), if_neg Bool.false_ne_true,
    bind_of_eq (hts.takeOp "~" (by simp)), if_neg Bool.false_ne_true, bind_of_eq h]
  rfl

theorem leftGrouped_of_last {operand : Parser Phrase} (ops : List (String × BinaryOp))
    (h : operand ts = some (p, [])) : leftGrouped ops operand (bound + 1) ts = some (p, []) := by
  rw [leftGrouped, bind_of_eq h]
  rfl

theorem arithmetic_of_last (h : factor valid g (bound + 1) (bound + 1) ts = some (p, [])) :
    arithmetic valid g (bound + 1) ts = some (p, []) := by
  simp only [arithmetic, List.foldl_cons, List.foldl_nil]
  iterate 6 apply leftGrouped_of_last
  exact h

theorem comparison_of_last (h : arithmetic valid g (bound + 1) ts = some (p, [])) :
    comparison valid g (bound + 1) ts = some (p, []) := by
  rw [comparison, bind_of_eq h]
  rfl

theorem inversion_of_last (hts : AtAtom ts) (h : comparison valid g bound ts = some (p, [])) :
    inversion valid g bound (fuel + 1) ts = some (p, []) := by
  rw [inversion, bind_of_eq (hts.takeWord "not" (by simp))]
  exact h

theorem joinedBy_of_last {operand : Parser Phrase} (word : String) (op : BoolOp)
    (h : operand ts = some (p, [])) : joinedBy word op operand (bound + 1) ts = some (p, []) := by
  rw [joinedBy, bind_of_eq h]
  rfl

theorem expression_of_last (hts : AtAtom ts) (h : disjunction valid g bound ts = some (p, [])) :
    expression valid g bound ts = some (p, []) := by
  rw [expression, bind_of_eq (hts.takeWord "lambda" (by simp)), if_neg Bool.false_ne_true, bind_of_eq h]
  rfl

/-! ## Whole texts -/

/-- An atom alone is an expression by every rule of the grammar. -/
theorem expression_of_atom (hts : AtAtom ts) (h : atom valid g (bound + 1) ts = some (p, [])) :
    expression valid g (bound + 1) ts = some (p, []) := by
  have hfactor : factor valid g (bound + 1) (bound + 1) ts = some (p, []) :=
    factor_of_last hts (awaited_of_last hts (primary_of_last h))
  have hinversion : inversion valid g (bound + 1) (bound + 1) ts = some (p, []) :=
    inversion_of_last hts (comparison_of_last (arithmetic_of_last hfactor))
  exact expression_of_last hts (joinedBy_of_last "or" .or (joinedBy_of_last "and" .and hinversion))

theorem wholeFrom_of_atom {depth : Nat} (hts : AtAtom ts)
    (h : atom valid (grammar valid (bound + 1) depth) (bound + 1) ts = some (p, [])) :
    wholeFrom (grammar valid (bound + 1) (depth + 1)) (fuel + 1) ts = some (p, []) := by
  have hexpression : (grammar valid (bound + 1) (depth + 1)).expression ts = some (p, []) :=
    expression_of_atom hts h
  rw [wholeFrom, bind_of_eq hexpression]
  rfl

/-- A text whose only token is an atom is the expression of the atom. -/
theorem parseWith_of_atom {cs : List Char} {t : Token} (htokens : tokens? cs = some [t])
    (ht : AtAtom [t]) (h : ∀ g bound, atom valid g bound [t] = some (p, [])) :
    parseWith valid cs = some p.expr := by
  have hwhole : wholeFrom (grammar valid 3 3) 3 [t] = some (p, []) := wholeFrom_of_atom ht (h _ _)
  simp only [parseWith, htokens, Option.bind_eq_bind, Option.bind_some, StateT.run,
    List.length_singleton, hwhole]
  rfl

end LineScript.Expr
