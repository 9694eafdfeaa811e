import LineScript.Number.Decimal

/-!
# Workloads

The texts that benchmarks evaluate and run: expressions, lines and scripts of a given size.
-/

namespace LineScript.Benchmark

/-- One term of a sum of squares, `(i*(i+1)-i)` with numbers for `i` and `i+1`. -/
def squareTerm (i : Nat) : String :=
  s!"({i}*{i + 1}-{i})"

/-- The sum of the first `n` squares, written out. -/
def squares (n : Nat) : String :=
  "(" ++ "+".intercalate ((List.range n).map fun i => squareTerm (i + 1)) ++ ")"

/-- The sum that most workloads compute; it is 4900. -/
def shortSum : String := squares 24

/-- A longer sum; it is 89440. -/
def longSum : String := squares 64

/-- The first `n` texts of an endless repetition. -/
def cycled (texts : List String) (n : Nat) : List String :=
  (List.range n).map fun i => texts.getD (i % texts.length) ""

/-! ## Expressions -/

def expressions : List String :=
  [shortSum, "2 ** 3", "1 < 2 < 3", "1 == 1 and 2 != 3", "4 * (1 + 2 + 3)", "15 / 2", "abs(-22)",
   "max(100, 121)", "3 >= 2", "1 > 2 or 2 > 1", "1 > 2"]

def failingExpressions : List String :=
  ["1 / 0", "7 // 2", "[1, 2]", "unknown_function(1)"]

def longTexts : List String :=
  [longSum, longSum ++ " + 2 + 3 * 4"]

/-- Texts of all other kinds: quoted ones, a comparison, one that is a variable as a whole, one that is
nothing else, and a short sum. -/
def otherTexts : List String :=
  ["\"hello world literal string\"", "'single quoted literal string'", "1 < 2", "not an expression",
   "???", "2 + 3 * 4"]

/-! ## Scripts -/

/-- A script of twenty lines with all kinds of statements. Its last branch gives back a value, and so does the
line in that branch when it is executed by itself. -/
def scriptBlock : List String :=
  ["# a workload", "stryset x (" ++ shortSum ++ ")", "stryset y (x * 8)", "stryset z (x * 108)",
   "def triple(a):", "return a * 3", "end", "stryprint x", "if (x > 0):", "stryset w (triple(z) * 2)", "end",
   "if (x < 0):", "stryset w (0)", "end", "", "stryprint \"total\"", "if (z > x):", "return z + z + z", "end",
   "# the end"]

/-- Lines that define functions: with a local variable, without a result, and with calls of others. -/
def functionLines : List String :=
  ["def scale(i):", "stryset t (i * i + 3 * i + 1)", "return t * 18", "end",
   "def quiet():", "stryset t (1)", "end",
   "def nested(a):", "return scale(a) - 33", "end"]

def openDefinition : String := "def broken():"

/-- A script that sets five variables in turn and gives back their sum. -/
def assignments (n : Nat) : String :=
  let lines := (List.range n).map fun i => s!"stryset v{i % 5} ({shortSum} + {i})\n"
  String.join lines ++ "return v0 + v1 + v2 + v3 + v4\n"

/-- A script that sets one variable again and again and gives it back. -/
def counting (n : Nat) : String :=
  let lines := (List.range n).map fun i => s!"stryset v ({shortSum} + {i})\n"
  String.join lines ++ "return v\n"

/-- A script of eighteen lines with all forms that the compiler knows. -/
def compiledBlock : String :=
  "# comment\n\nstryset x (1 + 2)\nstryprint \"value \x7bx\x7d\"\nstryprint x + 1\nif (x > 0):\n" ++
    "stryset y (x)\nelse:\nstryset y (0)\nend\nwhile (x < 10):\nstryset x (x + 1)\nend\n" ++
    "def greet(name):\nreturn name\nend\nimport something\nraw_expression + 1\n"

/-! ## Dialogues -/

def pauseCommands : List String :=
  ["b 3", "b 7", "del 3", "watch x", "watch y", "unwatch y", "vars", "bt", "help", "what", "c"]

/-- The lines of a dialogue with a user. -/
def dialogueLines (n : Nat) : List String :=
  ["help", "vars", "funcs", "modules", ""] ++
    (List.range n).map (fun i => s!"stryset r{i % 3} ({shortSum} + {i})") ++
    ["stryprint r0", "1 / 0", "stryset bad (1 / 0)", "exit"]

end LineScript.Benchmark
