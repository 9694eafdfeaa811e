import LineScript.Repl

/-!
# The command line

The files below the working directory and the lines of the standard input are read first, the program
is run on them, and then its output is written and the files are brought up to date.
-/

namespace LineScript.Main

/-- The program that arguments ask for: the compiler, the package store, or else the interpreter. -/
def program : List String → Run Unit
  | "compiler" :: args => Repl.compilerMain args
  | "store" :: args => Repl.storeMain args
  | args => Repl.interpreterMain args

/-- The text of what appears on the output. -/
def outputText : Output → String
  | .text s => s
  | .report f => f.summary ++ "\n"

/-- The lines of a text, without their ends. -/
def inputLines (text : String) : List String :=
  (Text.lines (Text.unifyNewlines text.toList)).map fun l =>
    String.ofList (l.toList.takeWhile (· != '\n'))

/-- The entries of one tree that another does not hold in the same way. -/
def changes (old new : Files.FileTree) : List (Files.Location × Files.Entry) :=
  (new.below Files.work).filter fun (l, _) =>
    old.get? (Files.work ++ l) != new.get? (Files.work ++ l)

/-- The entries of one tree at whose place another holds nothing. -/
def removals (old new : Files.FileTree) : List (Files.Location × Files.Entry) :=
  (old.below Files.work).filter fun (l, _) => (new.get? (Files.work ++ l)).isNone

/-! ## Files -/

/-- The entries at and below an entry of a directory, from its location on. -/
partial def entriesAt (l : Files.Location) (e : IO.FS.DirEntry) :
    IO (List (Files.Location × Files.Entry)) := do
  if ← e.path.isDir then
    let below ← (← e.path.readDir).toList.mapM fun c => entriesAt (l ++ [c.fileName]) c
    return (l, .dir) :: below.flatten
  else
    return [(l, .file (← IO.FS.readBinFile e.path).toList)]

/-- The files below the working directory. -/
def readTree : IO Files.FileTree := do
  let entries ← (← (← IO.currentDir).readDir).toList.mapM fun e =>
    entriesAt (Files.work ++ [e.fileName]) e
  return ⟨(Files.FileTree.empty Files.work).entries ++ entries.flatten⟩

/-- Bring the files below the working directory up to date. -/
def writeTree (old new : Files.FileTree) : IO Unit := do
  let here ← IO.currentDir
  for (l, e) in removals old new do
    let path := l.foldl (· / ·) here
    if ← path.pathExists then
      if e == .dir then IO.FS.removeDirAll path else IO.FS.removeFile path
  for (l, e) in changes old new do
    let path := l.foldl (· / ·) here
    match e with
    | .dir => IO.FS.createDirAll path
    | .file content =>
      if let some parent := path.parent then IO.FS.createDirAll parent
      IO.FS.writeBinFile path ⟨content.toArray⟩

/-- Run a program, and give its exit code. -/
def runProgram (p : Run Unit) : IO UInt32 := do
  let files ← readTree
  let input ← (← IO.getStdin).readToEnd
  let (outcome, s) := p { Session.fresh with files := files, input := inputLines input }
  for o in s.output.reverse do
    IO.print (outputText o)
  writeTree files s.files
  match outcome with
  | .done () => return 0
  | .failed f =>
    IO.eprintln f.summary
    return 1
  | .unfinished =>
    IO.eprintln "the calls nest too deeply"
    return 1

end LineScript.Main

def main (args : List String) : IO UInt32 :=
  LineScript.Main.runProgram (LineScript.Main.program args)
