import LineScript.Proofs.Expr.Atom
import LineScript.Proofs.Simulation
import Mathlib

/-!
# Quoted texts

A text that begins and ends with the same quote stands for what is between its quotes, without being
read as an expression. This agrees with the expression that the text is if neither that quote nor a
backslash stands in between: the text is then a single token, and the grammar makes a constant of it.
-/

namespace LineScript.Expr

/-! ## The tokens of a quoted text -/

def IsQuote (quote : Char) : Prop :=
  quote = '"' ∨ quote = '\''

/-- What can stand between two quotes as it is: neither the quote nor a backslash is among it. -/
def Plain (quote : Char) (body : List Char) : Prop :=
  ∀ c ∈ body, c ≠ quote ∧ c ≠ '\\'

section Tokens

variable {quote : Char} {body : List Char}

theorem IsQuote.ne_backslash (h : IsQuote quote) : quote ≠ '\\' := by
  rcases h with rfl | rfl <;> decide

/-- A text in quotes ends at the closing quote if it has no line end, and is refused otherwise. -/
theorem singleQuoted_append (hquote : IsQuote quote) (hbody : Plain quote body) (acc : List Char) :
    singleQuoted quote acc (body ++ [quote]) =
      if body.contains '\n' then none else some (acc.reverse ++ body, []) := by
  induction body generalizing acc with
  | nil =>
    rw [List.nil_append, singleQuoted.eq_3 _ _ _ _ fun _ _ h _ => hquote.ne_backslash h]
    simp
  | cons c body ih =>
    obtain ⟨⟨hc, hslash⟩, hbody⟩ := List.forall_mem_cons.mp hbody
    rw [List.cons_append, singleQuoted.eq_3 _ _ _ _ fun _ _ h _ => hslash h, ih hbody]
    by_cases hline : c = '\n'
    · subst hline
      simp [hc]
    · simp [hc, hline, Ne.symm hline]

theorem quotationBody_append (hquote : IsQuote quote) (hbody : Plain quote body) :
    quotationBody quote (body ++ [quote]) =
      if body.contains '\n' then none else some (body, []) := by
  have hsingle := singleQuoted_append hquote hbody []
  rw [List.reverse_nil, List.nil_append] at hsingle
  rw [← hsingle]
  -- Three quotes would need one inside the text.
  match body, hbody with
  | [], _ => rfl
  | [c], hbody =>
    have hc := (hbody c List.mem_cons_self).1
    simp [quotationBody, hc]
  | c :: d :: rest, hbody =>
    have hc := (hbody c List.mem_cons_self).1
    simp [quotationBody, hc]

/-- The tokens of a text in quotes: itself, if there is no line end in it. -/
theorem tokensFrom_quoted (hquote : IsQuote quote) (hbody : Plain quote body) (fuel : Nat) :
    tokensFrom (fuel + 3) ⟨[], true, false⟩ (quote :: (body ++ [quote])) =
      if body.contains '\n' then none else some [.quotation ⟨false, false, false, body⟩] := by
  have hindent : indentation ((quote :: (body ++ [quote])).length + 1) 0 0 (quote :: (body ++ [quote])) =
      some (0, quote :: (body ++ [quote])) := by
    rcases hquote with rfl | rfl <;> rfl
  have hstart : nextToken ⟨[], true, false⟩ (quote :: (body ++ [quote])) =
      some ([], ⟨[], false, false⟩, quote :: (body ++ [quote])) := by
    rw [nextToken, if_pos rfl, hindent]
    rcases hquote with rfl | rfl <;> rfl
  have hopen : openQuotation {} (quote :: (body ++ [quote])) = some ({}, quote, body ++ [quote]) := by
    rcases hquote with rfl | rfl <;> rfl
  have hnext : nextToken ⟨[], false, false⟩ (quote :: (body ++ [quote])) =
      (quotationBody quote (body ++ [quote])).map fun p =>
        ([.quotation ⟨false, false, false, p.1⟩], ⟨[], false, false⟩, p.2) := by
    rw [nextToken, if_neg Bool.false_ne_true]
    dsimp only
    rw [hopen]
    rcases hquote with rfl | rfl <;> rfl
  rw [tokensFrom_succ (List.cons_ne_nil _ _), hstart, Option.bind_some]
  dsimp only
  rw [tokensFrom_succ (List.cons_ne_nil _ _), hnext, quotationBody_append hquote hbody]
  split <;> rfl

theorem unifyNewlines_append_quote (hquote : IsQuote quote) (body : List Char) :
    Text.unifyNewlines (body ++ [quote]) = Text.unifyNewlines body ++ [quote] := by
  have hline : quote ≠ '\n' := by rcases hquote with rfl | rfl <;> decide
  induction body using Text.unifyNewlines.induct with
  | case1 => rcases hquote with rfl | rfl <;> rfl
  | case2 cs ih => simp [Text.unifyNewlines, ih]
  | case3 cs hcs ih =>
    have happend : ∀ cs', cs ++ [quote] = '\n' :: cs' → False := by
      intro cs' h
      cases cs with
      | nil => exact hline (List.cons.inj h).1
      | cons c cs => exact hcs cs (by rw [(List.cons.inj h).1])
    rw [List.cons_append, Text.unifyNewlines.eq_3 _ happend, Text.unifyNewlines.eq_3 _ hcs, ih]
    rfl
  | case4 c cs hcs hc ih =>
    have hc' : c = '\r' → False := fun h => hc h
    rw [List.cons_append, Text.unifyNewlines.eq_4 _ _ (fun _ h _ => hc' h) hc',
      Text.unifyNewlines.eq_4 _ _ (fun _ h _ => hc' h) hc', ih]
    rfl

/-- Line ends of every kind are line ends afterwards, and nothing else is changed. -/
theorem unifyNewlines_cases (cs : List Char) :
    Text.unifyNewlines cs = cs ∨
      '\n' ∈ Text.unifyNewlines cs ∧ ∀ c ∈ Text.unifyNewlines cs, c = '\n' ∨ c ∈ cs := by
  induction cs using Text.unifyNewlines.induct with
  | case1 => exact .inl rfl
  | case2 cs ih =>
    refine .inr ⟨by simp [Text.unifyNewlines], ?_⟩
    rw [Text.unifyNewlines]
    grind
  | case3 cs hcs ih =>
    refine .inr ⟨by simp [Text.unifyNewlines.eq_3 _ hcs], ?_⟩
    rw [Text.unifyNewlines.eq_3 _ hcs]
    grind
  | case4 c cs hcs hc ih =>
    rw [Text.unifyNewlines.eq_4 _ _ (fun _ h _ => hc h) hc]
    grind

theorem tokens?_quoted (hquote : IsQuote quote) (hbody : Plain quote body) {ts : List Token}
    (h : tokens? (quote :: (body ++ [quote])) = some ts) :
    ts = [.quotation ⟨false, false, false, body⟩] := by
  have hreturn : quote ≠ '\r' := by rcases hquote with rfl | rfl <;> decide
  have hline : quote ≠ '\n' := by rcases hquote with rfl | rfl <;> decide
  unfold tokens? at h
  split at h
  · cases h
  dsimp only at h
  rw [Text.unifyNewlines.eq_4 _ _ (fun _ h _ => hreturn h) hreturn,
    unifyNewlines_append_quote hquote] at h
  have hfuel : ∀ cs : List Char, 2 * (quote :: (cs ++ [quote])).length + 2 = 2 * cs.length + 3 + 3 := by
    intro cs
    simp
    omega
  rw [hfuel] at h
  rcases unifyNewlines_cases body with hsame | ⟨hmem, hcs⟩
  · rw [hsame, tokensFrom_quoted hquote hbody] at h
    split at h
    · cases h
    · exact (Option.some.inj h).symm
  · -- A line end in the text leaves it without an end.
    have hplain : Plain quote (Text.unifyNewlines body) := by
      intro c hc
      rcases hcs c hc with rfl | hc
      · exact ⟨hline.symm, by decide⟩
      · exact hbody c hc
    rw [tokensFrom_quoted hquote hplain, if_pos (by simpa using hmem)] at h
    cases h

end Tokens

/-! ## A quotation as an expression -/

theorem atAtom_quotation (q : Quotation) : AtAtom [.quotation q] :=
  ⟨fun _ _ => rfl, fun _ _ => rfl⟩

theorem atom_quotation {valid : List Char → Bool} {g : Grammar} {bound : Nat} {q : Quotation} {e : Expr}
    (h : joinQuotations valid [q] = some e) :
    atom valid g bound [.quotation q] = some (⟨e, false⟩, []) := by
  have hget : (get : Parser (List Token)) [.quotation q] = some ([.quotation q], [.quotation q]) := rfl
  rw [atom, bind_of_eq hget]
  dsimp only
  rw [bind_of_eq hget]
  simp only [quotationRow, h]
  rfl

/-- Without backslashes there is nothing to resolve. -/
theorem unescapeFrom_plain {wide : Bool} {cs : List Char} (h : ∀ c ∈ cs, c ≠ '\\') :
    unescapeFrom wide cs.length cs = some cs := by
  induction cs with
  | nil => rfl
  | cons c cs ih =>
    obtain ⟨hc, hcs⟩ := List.forall_mem_cons.mp h
    simp [unescapeFrom, hc, ih hcs]

/-- A plain text in quotes is no expression but the text itself. -/
theorem eq_const_of_parse?_quoted {quote : Char} {body : List Char} {s : String} {e : Expr}
    (hquote : IsQuote quote) (hbody : Plain quote body) (hs : s.toList = quote :: (body ++ [quote]))
    (h : parse? s = some e) : e = .const (.str (String.ofList body)) := by
  unfold parse? at h
  rw [hs] at h
  dsimp only at h
  cases htokens : tokens? (quote :: (body ++ [quote])) with
  | none => simp [parseWith, htokens] at h
  | some ts =>
    obtain rfl := tokens?_quoted hquote hbody htokens
    have hjoin : joinQuotations (isField (quote :: (body ++ [quote])).length)
        [⟨false, false, false, body⟩] = some (.const (.str (String.ofList body))) := by
      simp [joinQuotations, Quotation.chars?, unescape,
        unescapeFrom_plain fun c hc => (hbody c hc).2]
    rw [parseWith_of_atom htokens (atAtom_quotation _) fun _ _ => atom_quotation hjoin] at h
    exact (Option.some.inj h).symm

end LineScript.Expr

namespace LineScript

/-! ## Quoted texts as expressions -/

/-- A text that is not in quotes, or has neither its own quote nor a backslash between them. -/
def PlainlyQuoted (s : String) : Prop :=
  isQuoted s = true → ∀ c ∈ (unquoted s).toList, some c ≠ s.toList.head? ∧ c ≠ '\\'

/-- A text in quotes is a quote alone, or a quote, what is between, and the quote again. -/
theorem eq_or_toList_of_isQuoted {s : String} (h : isQuoted s = true) :
    ∃ quote, Expr.IsQuote quote ∧
      (s.toList = [quote] ∨ s.toList = quote :: ((unquoted s).toList ++ [quote])) := by
  have hends : ∀ quote : Char, Text.startsWith s (String.singleton quote) = true →
      Text.endsWith s (String.singleton quote) = true →
      s.toList = [quote] ∨ s.toList = quote :: ((unquoted s).toList ++ [quote]) := by
    intro quote hstart hend
    obtain ⟨rest, hrest⟩ := Text.startsWith_iff.mp hstart
    obtain ⟨front, hfront⟩ := Text.endsWith_iff.mp hend
    simp only [String.toList_singleton, List.singleton_append] at hrest hfront
    cases front with
    | nil => exact .inl hfront
    | cons c front =>
      obtain rfl : c = quote := (List.cons.inj (hfront.symm.trans hrest)).1
      refine .inr ?_
      simp [unquoted, hfront]
  simp only [isQuoted, Bool.or_eq_true, Bool.and_eq_true] at h
  rcases h with ⟨hstart, hend⟩ | ⟨hstart, hend⟩
  · exact ⟨'"', .inl rfl, hends '"' hstart hend⟩
  · exact ⟨'\'', .inr rfl, hends '\'' hstart hend⟩

theorem parse?_quote_alone {s : String} {quote : Char} (hquote : Expr.IsQuote quote)
    (hs : s.toList = [quote]) : Expr.parse? s = none := by
  rcases hquote with rfl | rfl
  · rw [Expr.parse?, hs]
    decide +kernel
  · rw [Expr.parse?, hs]
    decide +kernel

/-- An expression whose text is plainly quoted is what is between the quotes. -/
theorem eq_const_of_plainlyQuoted {s : String} {e : Expr} (hparse : Expr.parse? s = some e)
    (hplain : PlainlyQuoted s) (hquoted : isQuoted s = true) : e = .const (.str (unquoted s)) := by
  obtain ⟨quote, hquote, halone | hends⟩ := eq_or_toList_of_isQuoted hquoted
  · rw [parse?_quote_alone hquote halone] at hparse
    cases hparse
  · have hbody : Expr.Plain quote (unquoted s).toList := by
      intro c hc
      obtain ⟨hne, hslash⟩ := hplain hquoted c hc
      rw [hends] at hne
      exact ⟨fun h => hne (congrArg some h), hslash⟩
    rw [Expr.eq_const_of_parse?_quoted hquote hbody hends hparse, String.ofList_toList]

/-- A text that is an expression has the value of that expression, in every session and whether the
evaluation gives a value, fails or is given up, exactly if it is not in quotes or the expression is worth
what is between them. It is if the text is plainly quoted. -/
theorem evaluate_eq_eval_iff {text : String} {e : Expr}
    (hparse : Expr.parse? (Text.strip text) = some e) (host : Host) (depth : Nat) (s : Session) :
    (host.evaluate depth text s = e.eval (callNamed host depth) s ↔
      (isQuoted (Text.strip text) = true →
        e.eval (callNamed host depth) s = (.done (.str (unquoted (Text.strip text))), s))) ∧
    (PlainlyQuoted (Text.strip text) →
      host.evaluate depth text s = e.eval (callNamed host depth) s) := by
  rw [Host.evaluate]
  cases hquoted : isQuoted (Text.strip text) with
  | false =>
    rw [evalText_of_parse_some hquoted hparse]
    simp
  | true =>
    rw [evalText_of_quoted hquoted]
    refine ⟨⟨fun h _ => h.symm, fun h => (h rfl).symm⟩, fun hplain => ?_⟩
    rw [eq_const_of_plainlyQuoted hparse hplain hquoted]
    rfl

/-- Quotes of the other kind do not count. -/
theorem evaluate_other_quotes :
    (Host.standard.evaluate 0 " 'say \"no\"'\t" Session.fresh).1 = .done (.str "say \"no\"") := by
  have hstrip : Text.strip " 'say \"no\"'\t" = "'say \"no\"'" := by decide +kernel
  have hparse : Expr.parse? (Text.strip " 'say \"no\"'\t") = some (.const (.str "say \"no\"")) := by
    rw [hstrip]
    cbv
  have hplain : PlainlyQuoted (Text.strip " 'say \"no\"'\t") := by
    rw [hstrip]
    intro _ c hc
    have hbody : c ∈ "say \"no\"".toList := hc
    simp only [String.reduceToList, List.mem_cons, List.not_mem_nil, or_false] at hbody
    rcases hbody with rfl | rfl | rfl | rfl | rfl | rfl | rfl | rfl <;> decide
  rw [(evaluate_eq_eval_iff hparse _ _ _).2 hplain]
  rfl

/-- A text that begins and ends with a quote need not have the value of the expression that it is: two texts
that are added are taken for a single one. -/
theorem evaluate_ne_eval_of_sum :
    ¬ ∀ (text : String) (e : Expr), Expr.parse? (Text.strip text) = some e →
      ∀ (host : Host) (depth : Nat) (s : Session),
        host.evaluate depth text s = e.eval (callNamed host depth) s := by
  intro hall
  have hstrip : Text.strip "\"a\" + \"b\"" = "\"a\" + \"b\"" := by decide +kernel
  have hparse : Expr.parse? (Text.strip "\"a\" + \"b\"") =
      some (.binary .add (.const (.str "a")) (.const (.str "b"))) := by
    rw [hstrip]
    cbv
  have hvalue := hall _ _ hparse .standard 0 .fresh
  have hquoted : isQuoted (Text.strip "\"a\" + \"b\"") = true := by decide +kernel
  rw [Host.evaluate, evalText_of_quoted hquoted] at hvalue
  have houtcome : (Outcome.done (.str (unquoted (Text.strip "\"a\" + \"b\""))) : Outcome Value) =
      .done (.str ("a" ++ "b")) := congrArg Prod.fst hvalue
  simp only [Outcome.done.injEq, Value.str.injEq] at houtcome
  revert houtcome
  decide +kernel

end LineScript
