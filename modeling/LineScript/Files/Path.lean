import LineScript.Fault
import LineScript.Files.Tree

/-!
# Paths

A path is a text that names a location: from the root on if it begins with a slash, else from the
working directory on. Every name on the way must be the name of a directory, also the last one if a
slash follows it.
-/

namespace LineScript.Files

def workName : String := "work"

/-- The location of the working directory. -/
def work : Location := [workName]

/-- The names of a path, empty ones included. -/
def segments (path : String) : List String :=
  (path.toList.splitOn '/').map String.ofList

def start (path : String) : Location :=
  if path.toList.head? == some '/' then [] else work

/-- The names of a path without the slashes at its end. -/
def bareSegments (path : String) : List String :=
  ((segments path).reverse.dropWhile (· == "")).reverse

/-- The longest name, in bytes. -/
def nameLimit : Nat := 255

/-- The longest path, in bytes. -/
def pathLimit : Nat := 4096

/-- Follow names from a location. All that a name is looked up in must be a directory. -/
def FileTree.walk (t : FileTree) (l : Location) : List String → Except FileCause Location
  | [] => .ok l
  | s :: rest =>
    match t.get? l with
    | none => .error .notFound
    | some (.file _) => .error .notADirectory
    | some .dir =>
      if s == "" || s == "." then t.walk l rest
      else if s == ".." then t.walk l.dropLast rest
      else if nameLimit < s.utf8ByteSize then .error .nameTooLong
      else t.walk (l ++ [s]) rest

/-- Follow names from where a path begins. An empty path leads nowhere, and neither does one that is
too long. -/
def FileTree.walkFrom (t : FileTree) (path : String) (names : List String) :
    Except FileCause Location :=
  if path.isEmpty then .error .notFound
  else if pathLimit ≤ path.utf8ByteSize then .error .nameTooLong
  else t.walk (start path) names

/-- The location that a path names, whether or not there is an entry. -/
def FileTree.resolve (t : FileTree) (path : String) : Except FileCause Location :=
  t.walkFrom path (segments path)

/-- The entry that a path names. A path that names none, or cannot name any, has none. -/
def FileTree.entry? (t : FileTree) (path : String) : Option Entry :=
  if path.toList.contains '\x00' then none
  else
    match t.resolve path with
    | .ok l => t.get? l
    | .error _ => none

def FileTree.pathExists (t : FileTree) (path : String) : Bool :=
  (t.entry? path).isSome

def FileTree.pathIsFile (t : FileTree) (path : String) : Bool :=
  match t.entry? path with
  | some (.file _) => true
  | _ => false

def FileTree.pathIsDir (t : FileTree) (path : String) : Bool :=
  t.entry? path == some .dir

/-- The fault of a path that the file system refuses. -/
def refuse (path : String) (cause : FileCause) : Fault :=
  .file cause (Text.quoted path)

def FileTree.read (t : FileTree) (path : String) : Result Text.Bytes :=
  if path.toList.contains '\x00' then .error (.value .nullByte)
  else
    match t.resolve path with
    | .error c => .error (refuse path c)
    | .ok l =>
      match t.get? l with
      | none => .error (refuse path .notFound)
      | some .dir => .error (refuse path .isADirectory)
      | some (.file content) => .ok content

/-- Where a file can be written at a path: its directory must exist, and no directory may stand
there. A path that ends in a slash names no file. -/
def FileTree.target (t : FileTree) (path : String) : Result Location :=
  if path.toList.contains '\x00' then .error (.value .nullByte)
  else
    if (segments path).getLast? == some "" then
      -- The directory that the last name would be in has to be there all the same.
      match t.walkFrom path ((bareSegments path).dropLast ++ [""]) with
      | .error c => .error (refuse path c)
      | .ok _ => .error (refuse path .isADirectory)
    else
      match t.resolve path with
      | .error c => .error (refuse path c)
      | .ok l => if t.isDir l then .error (refuse path .isADirectory) else .ok l

/-- Write a file at a path, in place of the one that is there. -/
def FileTree.write (t : FileTree) (path : String) (content : Text.Bytes) : Result FileTree :=
  (t.target path).map fun l => t.put l (.file content)

/-- The parts of a path before and after its last slash. Slashes at the end of the first part are
dropped unless it is nothing else. -/
def splitPath (path : String) : String × String :=
  let cs := path.toList
  let tail := (cs.reverse.takeWhile (· != '/')).reverse
  let head := cs.take (cs.length - tail.length)
  let bare := (head.reverse.dropWhile (· == '/')).reverse
  (String.ofList (if bare.isEmpty then head else bare), String.ofList tail)

/-- The parts of a path before and after its last slash, where a slash at the end does not count. -/
def splitLast (path : String) : String × String :=
  match splitPath path with
  | (head, "") => splitPath head
  | parts => parts

def baseName (path : String) : String :=
  (splitPath path).2

/-- A path without its empty names, dots and double dots, as a location; the tree is not asked. -/
def normalized (path : String) : Location :=
  (segments path).foldl
    (fun l s => if s == "" || s == "." then l else if s == ".." then l.dropLast else l ++ [s])
    (start path)

/-- The last name of a path once it is normalized. -/
def ownName (path : String) : String :=
  (normalized path).getLast?.getD ""

def join (path name : String) : String :=
  if path.isEmpty || path.endsWith '/' then path ++ name else path ++ "/" ++ name

/-- Whether a path stays short enough when names are put behind it. -/
def fits (path : String) (names : Location) : Bool :=
  (names.foldl join path).utf8ByteSize < pathLimit

/-- A path without its extension: the last point of the last name and what follows it. Points that
begin the name begin no extension. -/
def withoutExtension (path : String) : String :=
  let cs := path.toList
  let name := (cs.reverse.takeWhile (· != '/')).reverse
  let dots := name.takeWhile (· == '.')
  let rest := name.drop dots.length
  if rest.contains '.' then
    let extension := 1 + (rest.reverse.takeWhile (· != '.')).length
    String.ofList (cs.take (cs.length - extension))
  else path

/-! ## Directories -/

/-- Make the directory that a path names. -/
def FileTree.makeDir (t : FileTree) (path : String) : Result FileTree :=
  if path.toList.contains '\x00' then .error (.value .nullByte)
  else
    match t.walkFrom path (bareSegments path) with
    | .error c => .error (refuse path c)
    | .ok l =>
      if (t.get? l).isSome then .error (refuse path .alreadyThere) else .ok (t.put l .dir)

/-- Make the last directory of a path. With `tolerant`, it may be there. -/
def FileTree.makeLast (t : FileTree) (tolerant : Bool) (path : String) :
    FileTree × Except Fault Unit :=
  match t.makeDir path with
  | .ok t => (t, .ok ())
  | .error f => if tolerant && t.pathIsDir path then (t, .ok ()) else (t, .error f)

/-- A directory that is there already is as good as one that was made. -/
def allowThere : FileTree × Except Fault Unit → FileTree × Except Fault Unit
  | (t, .error (.file .alreadyThere _)) => (t, .ok ())
  | r => r

/-- Make the directory that a path names, and those on the way to it that are missing. `fuel` bounds
the number of names. With `tolerant`, the last directory may be there. -/
def FileTree.makeDirsFrom (tolerant : Bool) : Nat → FileTree → String → FileTree × Except Fault Unit
  | 0, t, _ => (t, .ok ())
  | fuel + 1, t, path =>
    let (head, tail) := splitLast path
    if head != "" && tail != "" && !t.pathExists head then
      match allowThere (FileTree.makeDirsFrom tolerant fuel t head) with
      | (t, .error f) => (t, .error f)
      | (t, .ok ()) => if tail == "." then (t, .ok ()) else t.makeLast tolerant path
    else t.makeLast tolerant path

/-- Make a directory and those on the way to it. What was made before a failure stays. -/
def FileTree.makeDirs (t : FileTree) (tolerant : Bool) (path : String) :
    FileTree × Except Fault Unit :=
  FileTree.makeDirsFrom tolerant (path.length + 1) t path

/-- Write a file at a path and make the directories on the way to it. -/
def FileTree.provide (t : FileTree) (path : String) (content : Option Text.Bytes) :
    FileTree × Except Fault Unit :=
  match content with
  | none => t.makeDirs true path
  | some bytes =>
    let head := (splitPath path).1
    let (t, made) := if head.isEmpty then (t, .ok ()) else t.makeDirs true head
    match made with
    | .error f => (t, .error f)
    | .ok () =>
      match t.write path bytes with
      | .ok t => (t, .ok ())
      | .error f => (t, .error f)

end LineScript.Files
