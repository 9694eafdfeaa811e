import LineScript.Session
import LineScript.Value.Function

/-!
# Calls of builtins

The builtins that reach outside: reading a file or a stream, writing one, and asking for a line of input.
All others only compute.
-/

namespace LineScript

/-- What a call opens: a file by its path, with the form in which a message shows it, or a stream by its
number. -/
inductive Handle where
  | path (path shown : String)
  | stream (number : Nat)
  deriving DecidableEq, Repr

def Value.toHandle : Value → Result Handle
  | .str p => .ok (.path p (Text.quoted p))
  | .bytes b => .ok (.path (Text.Utf8.decodeName b) (Text.quotedBytes b))
  | .int n =>
    if n < 0 then .error (.value .negativeDescriptor)
    else if n < Int.pow 2 31 then .ok (.stream n.toNat)
    else .error (.type (.notAPath .int))
  | .bool b => .ok (.stream b.toNat)
  | v => .error (.type (.notAPath v.kind))

/-- A fault with the name of the file as the caller wrote it. -/
def Fault.withPath (shown : String) : Fault → Fault
  | .file c _ => .file c shown
  | f => f

/-- The text of a file, with every line end as `\n`. -/
def Files.FileTree.readText (t : Files.FileTree) (path : String) : Result String := do
  let content ← t.read path
  match Text.Utf8.decode content with
  | .ok cs => return String.ofList (Text.unifyNewlines cs)
  | .error f => throw (.decode f)

/-- Open a stream by its number. It is closed when the call that opens it ends. -/
def openStream (number : Nat) : Run Unit := do
  let s ← Run.get
  if s.streams.opens number then
    setInput s.input { s.streams with closed := number :: s.streams.closed }
  else Run.fail .descriptor

/-- The lines that are still in the stream of the input, each with its line end. -/
def Session.unread (s : Session) : String :=
  if s.streams.buffered then "" else String.join (s.input.map (· ++ "\n"))

/-- Read a stream to its end. Only that of the input can be read. -/
def readStream (number : Nat) : Run Value := do
  openStream number
  if number == 0 then
    let s ← Run.get
    setInput (if s.streams.buffered then s.input else []) s.streams
    return .str (String.ofList (Text.unifyNewlines s.unread.toList))
  else Run.fail .descriptor

def readFile (file : Value) : Run Value := do
  match ← Run.ofResult file.toHandle with
  | .stream number => readStream number
  | .path p shown =>
    let files := (← Run.get).files
    Run.ofResult (((files.readText p).mapError (·.withPath shown)).map .str)

/-- What a write gives: the number of characters, or true if there are none. -/
def writtenLength (text : String) : Value :=
  if text.isEmpty then .bool true else .int text.length

/-- Write a value's text to a stream. It does not show among what is printed. -/
def writeStream (number : Nat) (content : Value) : Run Value := do
  openStream number
  let text ← Run.ofResult content.printed
  return writtenLength text

/-- Write a value's text to a file or a stream. The file is emptied before the text is made. -/
def writeFile (file content : Value) : Run Value := do
  match ← Run.ofResult file.toHandle with
  | .stream number => writeStream number content
  | .path p shown =>
    let files := (← Run.get).files
    let emptied ← Run.ofResult ((files.write p []).mapError (·.withPath shown))
    Run.modify fun s => { s with files := emptied }
    let text ← Run.ofResult content.printed
    let written ← Run.ofResult (emptied.write p (Text.Utf8.encode text))
    Run.modify fun s => { s with files := written }
    return writtenLength text

def askLine (prompt : Value) : Run Value := do
  let text ← Run.ofResult prompt.printed
  return .str (← readLine text)

def Builtin.call (f : Builtin) (args : List Value) : Run Value :=
  match f.compute? args with
  | some r => Run.ofResult r
  | none =>
    match f, args with
    | .readfile, [p] => readFile p
    | .readfile, [] => Run.fail (.type (.missing ["p"]))
    | .readfile, args => Run.fail (.type (.tooMany 1 1 args.length))
    | .writefile, [p, c] => writeFile p c
    | .writefile, [] => Run.fail (.type (.missing ["p", "c"]))
    | .writefile, [_] => Run.fail (.type (.missing ["c"]))
    | .writefile, args => Run.fail (.type (.tooMany 2 2 args.length))
    | _, [] => askLine (.str "")
    | _, [p] => askLine p
    | _, args => Run.fail (.type (.tooMany 0 1 args.length))

end LineScript
