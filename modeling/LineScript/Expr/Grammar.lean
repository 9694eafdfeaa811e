import LineScript.Expr.Quotation
import LineScript.Text.Normal

/-!
# The grammar of expressions

A parser by recursive descent over the tokens of a text. What nests (brackets, branches, bodies) is
parsed by a grammar given as a parameter, and the grammar of depth `n + 1` nests the one of depth `n`:
a text has less nesting than tokens, so their number is depth enough.
-/

namespace LineScript.Expr

/-- A parser takes tokens from the front, or fails. -/
abbrev Parser (α : Type) := StateT (List Token) Option α

/-- An expression, and whether a comprehension may bind it. -/
structure Phrase where
  expr : Expr
  assignable : Bool := false

def Phrase.refused (form : Form) : Phrase :=
  ⟨.refused form, false⟩

structure Grammar where
  expression : Parser Phrase
  disjunction : Parser Phrase
  bitOr : Parser Phrase

/-! ## Single tokens -/

def keywords : List String :=
  ["False", "None", "True", "and", "as", "assert", "async", "await", "break", "class", "continue",
   "def", "del", "elif", "else", "except", "finally", "for", "from", "global", "if", "import", "in",
   "is", "lambda", "nonlocal", "not", "or", "pass", "raise", "return", "try", "while", "with",
   "yield"]

/-- Whether the next token is the operator. -/
def atOp (o : String) : Parser Bool :=
  return match (← get) with
    | .op p :: _ => p == o
    | _ => false

def atWord (w : String) : Parser Bool :=
  return match (← get) with
    | .word v :: _ => v == w
    | _ => false

def skip : Parser Unit :=
  modify List.tail

/-- Take the operator away if it comes next. -/
def takeOp (o : String) : Parser Bool := do
  if ← atOp o then skip; return true
  return false

/-- Take the word away if it comes next. -/
def takeWord (w : String) : Parser Bool := do
  if ← atWord w then skip; return true
  return false

def expectOp (o : String) : Parser Unit := do
  if !(← takeOp o) then failure

def expectWord (w : String) : Parser Unit := do
  if !(← takeWord w) then failure

def expectName : Parser String := do
  match (← get) with
  | .word w :: _ =>
    if keywords.contains w then failure
    skip
    return Text.Normal.normalize w
  | _ => failure

/-- Whether a name and then the operator come next. -/
def atNameBefore (o : String) : Parser Bool :=
  return match (← get) with
    | .word w :: .op p :: _ => !keywords.contains w && p == o
    | _ => false

/-! ## Repetition -/

def many (item : Parser (Option α)) : Nat → Parser (List α)
  | 0 => failure
  | fuel + 1 => do
    match ← item with
    | none => return []
    | some a => return a :: (← many item fuel)

/-- Items with commas between them and perhaps after the last, up to a closing operator, which is
taken away. -/
def itemsUpTo (close : String) (item : Parser α) : Nat → Parser (List α)
  | 0 => failure
  | fuel + 1 => do
    if ← takeOp close then return []
    let a ← item
    if ← takeOp "," then return a :: (← itemsUpTo close item fuel)
    expectOp close
    return [a]

/-- Operands with operators of one rank between them, grouped from the left. -/
def leftGrouped (ops : List (String × BinaryOp)) (operand : Parser Phrase) (bound : Nat) :
    Parser Phrase := do
  let first ← operand
  let rest ← many (do
    match (← get) with
    | .op o :: _ =>
      match ops.lookup o with
      | some op => skip; return some (op, ← operand)
      | none => return none
    | _ => return none) bound
  return rest.foldl (fun left (op, right) => ⟨.binary op left.expr right.expr, false⟩) first

/-! ## Inside brackets -/

/-- An expression, or a name bound to one. -/
def namedExpression (g : Grammar) : Parser Phrase := do
  if ← atNameBefore ":=" then
    skip; skip
    let _ ← g.expression
    return .refused .named
  g.expression

/-- A starred operand, which may be bound if what follows the star may. -/
def starredOperand (g : Grammar) : Parser Phrase := do
  let p ← g.bitOr
  return ⟨.refused .starred, p.assignable⟩

/-- An item of a display, and whether it is starred. -/
def displayItem (g : Grammar) : Parser (Phrase × Bool) := do
  if ← takeOp "*" then return (← starredOperand g, true)
  return (← namedExpression g, false)

/-- What a comprehension binds: targets with commas between them. -/
def targets (g : Grammar) : Nat → Parser Unit
  | 0 => failure
  | fuel + 1 => do
    let _ ← takeOp "*"
    let p ← g.bitOr
    if !p.assignable then failure
    if ← takeOp "," then
      if ← atWord "in" then return ()
      targets g fuel

/-- One clause of a comprehension, if there is one. -/
def comprehensionClause (g : Grammar) (bound : Nat) : Parser (Option Unit) := do
  let isAsync ← takeWord "async"
  if !(← takeWord "for") then
    if isAsync then failure
    return none
  targets g bound
  expectWord "in"
  let _ ← g.disjunction
  let _ ← many (do
    if ← takeWord "if" then
      let _ ← g.disjunction
      return some ()
    return none) bound
  return some ()

/-- Whether the clauses of a comprehension come next. -/
def atComprehension : Parser Bool := do
  return (← atWord "for") || (← atWord "async")

def comprehension (g : Grammar) (bound : Nat) : Parser Unit := do
  let clauses ← many (comprehensionClause g bound) bound
  if clauses.isEmpty then failure

/-- What `yield` gives: expressions, starred ones among them, up to the closing bracket. -/
def yieldExpression (g : Grammar) (bound : Nat) : Parser Phrase := do
  if ← takeWord "from" then
    let _ ← g.expression
    expectOp ")"
    return .refused .yieldFrom
  if ← takeOp ")" then return .refused .yield
  let _ ← itemsUpTo ")" (do
    if ← takeOp "*" then starredOperand g else g.expression) bound
  return .refused .yield

/-- What stands in round brackets: a tuple, a group, a generator, a yield. -/
def parenthesized (g : Grammar) (bound : Nat) : Parser Phrase := do
  if ← takeOp ")" then return ⟨.refused .tuple, true⟩
  if ← takeWord "yield" then return ← yieldExpression g bound
  let (first, starred) ← displayItem g
  if ← takeOp ")" then
    if starred then failure
    return first
  if ← takeOp "," then
    let rest ← itemsUpTo ")" (displayItem g) bound
    return ⟨.refused .tuple, first.assignable && rest.all (·.1.assignable)⟩
  if starred then failure
  comprehension g bound
  expectOp ")"
  return .refused .generator

/-- What stands in square brackets: a list, or a comprehension of one. -/
def listDisplay (g : Grammar) (bound : Nat) : Parser Phrase := do
  if ← takeOp "]" then return ⟨.refused .list, true⟩
  let (first, starred) ← displayItem g
  if ← takeOp "]" then return ⟨.refused .list, first.assignable⟩
  if ← takeOp "," then
    let rest ← itemsUpTo "]" (displayItem g) bound
    return ⟨.refused .list, first.assignable && rest.all (·.1.assignable)⟩
  if starred then failure
  comprehension g bound
  expectOp "]"
  return .refused .listComprehension

/-- One entry of a dictionary: a key with its value, or another dictionary. -/
def dictEntry (g : Grammar) : Parser Unit := do
  if ← takeOp "**" then
    let _ ← g.bitOr
  else
    let _ ← g.expression
    expectOp ":"
    let _ ← g.expression

/-- What follows the first entry of a dictionary. -/
def dictTail (g : Grammar) (bound : Nat) : Parser Phrase := do
  if ← takeOp "," then
    let _ ← itemsUpTo "\x7d" (dictEntry g) bound
  else expectOp "\x7d"
  return .refused .dict

/-- What follows the first item of a set. -/
def setTail (g : Grammar) (bound : Nat) : Parser Phrase := do
  if ← takeOp "," then
    let _ ← itemsUpTo "\x7d" (displayItem g) bound
  else expectOp "\x7d"
  return .refused .set

/-- What stands in braces: a dictionary, a set, or a comprehension of one. -/
def braced (g : Grammar) (bound : Nat) : Parser Phrase := do
  if ← takeOp "\x7d" then return .refused .dict
  if ← atOp "**" then
    dictEntry g
    return ← dictTail g bound
  if ← takeOp "*" then
    let _ ← starredOperand g
    return ← setTail g bound
  let named ← atNameBefore ":="
  let _ ← namedExpression g
  if !named && (← takeOp ":") then
    let _ ← g.expression
    if ← atComprehension then
      comprehension g bound
      expectOp "\x7d"
      return .refused .dictComprehension
    return ← dictTail g bound
  if ← atComprehension then
    comprehension g bound
    expectOp "\x7d"
    return .refused .setComprehension
  setTail g bound

/-! ## Atoms -/

/-- The quotations at the front of the tokens, and the tokens after them. -/
def quotationRow : List Token → List Quotation × List Token
  | .quotation q :: rest => let (qs, rest) := quotationRow rest; (q :: qs, rest)
  | rest => ([], rest)

/-- A name, a constant, or something in brackets. `valid` says which texts are expressions. -/
def atom (valid : List Char → Bool) (g : Grammar) (bound : Nat) : Parser Phrase := do
  match (← get) with
  | .word w :: _ =>
    if w == "True" then skip; return ⟨.const (.bool true), false⟩
    if w == "False" then skip; return ⟨.const (.bool false), false⟩
    if w == "None" then skip; return ⟨.const .none, false⟩
    return ⟨.name (← expectName), true⟩
  | .number v :: _ => skip; return ⟨.const v, false⟩
  | .quotation _ :: _ =>
    let (qs, rest) := quotationRow (← get)
    set rest
    match joinQuotations valid qs with
    | some e => return ⟨e, false⟩
    | none => failure
  | .op "..." :: _ => skip; return ⟨.const .ellipsis, false⟩
  | .op "(" :: _ => skip; parenthesized g bound
  | .op "[" :: _ => skip; listDisplay g bound
  | .op "\x7b" :: _ => skip; braced g bound
  | _ => failure

/-! ## What follows an atom -/

/-- The arguments read so far: the positional ones, last first, and which ones may still come. -/
structure Arguments where
  positional : List Expr
  starred : List Expr
  keyword : Bool
  doubleStarred : Bool

/-- Read one argument. Positional ones come before keywords, single stars before double ones. -/
def argument (g : Grammar) (a : Arguments) : Parser Arguments := do
  if ← takeOp "**" then
    let _ ← g.expression
    return { a with doubleStarred := true, keyword := true }
  if ← takeOp "*" then
    if a.doubleStarred then failure
    let _ ← g.expression
    if a.keyword then return { a with starred := .refused .starred :: a.starred }
    return { a with positional := .refused .starred :: a.positional }
  if ← atNameBefore "=" then
    skip; skip
    let _ ← g.expression
    return { a with keyword := true }
  if a.keyword then failure
  let p ← namedExpression g
  return { a with positional := p.expr :: a.positional }

/-- Read arguments up to the closing bracket. -/
def argumentsFrom (g : Grammar) (a : Arguments) : Nat → Parser Arguments
  | 0 => failure
  | fuel + 1 => do
    if ← takeOp ")" then return a
    let a ← argument g a
    if ← takeOp "," then argumentsFrom g a fuel
    else
      expectOp ")"
      return a

/-- Whether a generator may begin here: a star or a keyword begins none. -/
def atGeneratorItem : Parser Bool := do
  return !((← atOp "*") || (← atOp "**") || (← atOp ")") || (← atNameBefore "="))

/-- The positional arguments of a call, whose opening bracket has been read. A generator alone needs
no brackets of its own. -/
def arguments (g : Grammar) (bound : Nat) : Parser (List Expr) := do
  let all := fun (a : Arguments) => a.positional.reverse ++ a.starred.reverse
  if ← atGeneratorItem then
    let first ← namedExpression g
    if ← atComprehension then
      comprehension g bound
      expectOp ")"
      return [.refused .generator]
    if ← takeOp "," then
      return all (← argumentsFrom g ⟨[first.expr], [], false, false⟩ bound)
    expectOp ")"
    return [first.expr]
  return all (← argumentsFrom g ⟨[], [], false, false⟩ bound)

/-- Whether a bound of a slice is left out here. -/
def atSliceEnd : Parser Bool := do
  return (← atOp ":") || (← atOp ",") || (← atOp "]")

def slice (g : Grammar) : Parser Unit := do
  if ← takeOp "*" then
    let _ ← g.expression
    return ()
  let named ← atNameBefore ":="
  if !(← atOp ":") then
    let _ ← namedExpression g
    if named || !(← atOp ":") then return ()
  expectOp ":"
  if !(← atSliceEnd) then
    let _ ← g.expression
  if ← takeOp ":" then
    if !(← atSliceEnd) then
      let _ ← g.expression

/-- The indices in square brackets; there is at least one. -/
def indices (g : Grammar) (bound : Nat) : Parser Unit := do
  if ← atOp "]" then failure
  let _ ← itemsUpTo "]" (slice g) bound

/-- What a call of `p` is. -/
def Phrase.called (p : Phrase) (args : List Expr) : Phrase :=
  match p.expr with
  | .name f => ⟨.call f args, false⟩
  | _ => ⟨.callOther, false⟩

/-- The attributes, calls and indices after an atom. -/
def trailers (g : Grammar) (bound : Nat) (p : Phrase) : Nat → Parser Phrase
  | 0 => failure
  | fuel + 1 => do
    if ← takeOp "." then
      let _ ← expectName
      trailers g bound ⟨.refused .attribute, true⟩ fuel
    else if ← takeOp "(" then
      let args ← arguments g bound
      trailers g bound (p.called args) fuel
    else if ← takeOp "[" then
      indices g bound
      trailers g bound ⟨.refused .subscript, true⟩ fuel
    else return p

def primary (valid : List Char → Bool) (g : Grammar) (bound : Nat) : Parser Phrase := do
  let p ← atom valid g bound
  trailers g bound p bound

/-! ## Operators -/

/-- A primary, perhaps awaited. -/
def awaited (valid : List Char → Bool) (g : Grammar) (bound : Nat) : Parser Phrase := do
  if ← takeWord "await" then
    let _ ← primary valid g bound
    return .refused .await
  primary valid g bound

/-- An operand with its signs, or a power: its exponent takes signs, its base does not. -/
def factor (valid : List Char → Bool) (g : Grammar) (bound : Nat) : Nat → Parser Phrase
  | 0 => failure
  | fuel + 1 => do
    if ← takeOp "+" then return ⟨.unary .plus (← factor valid g bound fuel).expr, false⟩
    if ← takeOp "-" then return ⟨.unary .minus (← factor valid g bound fuel).expr, false⟩
    if ← takeOp "~" then return ⟨.unary .invert (← factor valid g bound fuel).expr, false⟩
    let base ← awaited valid g bound
    if ← takeOp "**" then
      return ⟨.binary .pow base.expr (← factor valid g bound fuel).expr, false⟩
    return base

/-- Operands joined by the arithmetic operators, rank by rank. -/
def arithmetic (valid : List Char → Bool) (g : Grammar) (bound : Nat) : Parser Phrase :=
  let ranks : List (List (String × BinaryOp)) :=
    [[("*", .mul), ("/", .div), ("//", .floorDiv), ("%", .mod), ("@", .matMul)],
     [("+", .add), ("-", .sub)],
     [("<<", .shiftLeft), (">>", .shiftRight)],
     [("&", .bitAnd)], [("^", .bitXor)], [("|", .bitOr)]]
  ranks.foldl (fun operand ops => leftGrouped ops operand bound) (factor valid g bound bound)

/-- The next comparison operator, if there is one. -/
def compareOp : Parser (Option CompareOp) := do
  match (← get) with
  | .op o :: _ =>
    let table : List (String × CompareOp) :=
      [("==", .eq), ("!=", .ne), ("<", .lt), ("<=", .le), (">", .gt), (">=", .ge)]
    match table.lookup o with
    | some op => skip; return some op
    | none => return none
  | .word "in" :: _ => skip; return some .isIn
  | .word "is" :: _ =>
    skip
    if ← takeWord "not" then return some .isNot
    return some .is
  | .word "not" :: .word "in" :: _ => skip; skip; return some .notIn
  | _ => return none

def comparison (valid : List Char → Bool) (g : Grammar) (bound : Nat) : Parser Phrase := do
  let first ← arithmetic valid g bound
  let links ← many (do
    match ← compareOp with
    | some op => return some (op, (← arithmetic valid g bound).expr)
    | none => return none) bound
  if links.isEmpty then return first
  return ⟨.compare first.expr (links.map (·.1)) (links.map (·.2)), false⟩

/-- A comparison, perhaps negated. -/
def inversion (valid : List Char → Bool) (g : Grammar) (bound : Nat) : Nat → Parser Phrase
  | 0 => failure
  | fuel + 1 => do
    if ← takeWord "not" then
      return ⟨.unary .not (← inversion valid g bound fuel).expr, false⟩
    comparison valid g bound

/-- Operands joined by one boolean operator. -/
def joinedBy (word : String) (op : BoolOp) (operand : Parser Phrase) (bound : Nat) :
    Parser Phrase := do
  let first ← operand
  let rest ← many (do
    if ← takeWord word then return some (← operand).expr
    return none) bound
  if rest.isEmpty then return first
  return ⟨.boolean op (first.expr :: rest), false⟩

/-- Operands joined by `and`, and those by `or`. -/
def disjunction (valid : List Char → Bool) (g : Grammar) (bound : Nat) : Parser Phrase :=
  joinedBy "or" .or (joinedBy "and" .and (inversion valid g bound bound) bound) bound

/-! ## Functions without names, and branches -/

/-- The parameters read so far: whether one had a default, whether the slash and the star have been
read, whether a bare star still needs a parameter, and whether the last one has been read. -/
structure Parameters where
  count : Nat := 0
  defaults : Bool := false
  slash : Bool := false
  star : Bool := false
  needsOne : Bool := false
  closed : Bool := false

def parameter (g : Grammar) (s : Parameters) : Parser Parameters := do
  if s.closed then failure
  if ← takeOp "/" then
    if s.slash || s.star || s.count == 0 then failure
    return { s with slash := true }
  if ← takeOp "**" then
    if s.needsOne then failure
    let _ ← expectName
    return { s with closed := true }
  if ← takeOp "*" then
    if s.star then failure
    if ← atOp "," then return { s with star := true, needsOne := true }
    let _ ← expectName
    return { s with star := true }
  let _ ← expectName
  if ← takeOp "=" then
    let _ ← g.expression
    return { s with count := s.count + 1, defaults := true, needsOne := false }
  if s.defaults && !s.star then failure
  return { s with count := s.count + 1, needsOne := false }

def parametersFrom (g : Grammar) (s : Parameters) : Nat → Parser Unit
  | 0 => failure
  | fuel + 1 => do
    if ← takeOp ":" then
      if s.needsOne then failure
      return ()
    let s ← parameter g s
    if ← takeOp "," then parametersFrom g s fuel
    else
      expectOp ":"
      if s.needsOne then failure

/-- A function without a name, whose first word has been read. -/
def lambdaTail (g : Grammar) (bound : Nat) : Parser Phrase := do
  parametersFrom g {} bound
  let _ ← g.expression
  return .refused .lambda

/-- An expression: a function without a name, a branch, or a disjunction. -/
def expression (valid : List Char → Bool) (g : Grammar) (bound : Nat) : Parser Phrase := do
  if ← takeWord "lambda" then return ← lambdaTail g bound
  let p ← disjunction valid g bound
  if ← takeWord "if" then
    let _ ← disjunction valid g bound
    expectWord "else"
    let _ ← g.expression
    return .refused .conditional
  return p

/-! ## Whole texts -/

/-- The grammar that nests no deeper than `depth`. -/
def grammar (valid : List Char → Bool) (bound : Nat) : Nat → Grammar
  | 0 => ⟨failure, failure, failure⟩
  | depth + 1 =>
    let g := grammar valid bound depth
    ⟨expression valid g bound, disjunction valid g bound, arithmetic valid g bound⟩

def isEnd (ts : List Token) : Bool :=
  ts.all fun
    | .newline => true
    | _ => false

/-- Expressions with commas between them up to the end, where more than one or a trailing comma make
a tuple. -/
def wholeFrom (g : Grammar) : Nat → Parser Phrase
  | 0 => failure
  | fuel + 1 => do
    let p ← g.expression
    if ← takeOp "," then
      if !isEnd (← get) then
        let _ ← wholeFrom g fuel
      return .refused .tuple
    return p

/-- Parse a whole text. `valid` says which texts of fields are expressions. -/
def parseWith (valid : List Char → Bool) (cs : List Char) : Option Expr := do
  let ts ← tokens? cs
  let bound := ts.length + 2
  let (p, rest) ← (wholeFrom (grammar valid bound bound) bound).run ts
  if isEnd rest then some p.expr else none

/-- Whether the text of a field is an expression: it is read in brackets, but may not be blank.
`depth` bounds the nesting of quotations. -/
def isField : Nat → List Char → Bool
  | 0, _ => false
  | depth + 1, cs =>
    !(cs.all fun c => isGap c || c == '\n') &&
      (parseWith (isField depth) ('(' :: cs ++ [')'])).isSome

/-- The expression that a text is, if it is one. -/
def parse? (s : String) : Option Expr :=
  let cs := s.toList
  parseWith (isField cs.length) cs

end LineScript.Expr
