import LineScript.Builtin
import LineScript.Json.Access

/-!
# The package store

Packages are directories, or single scripts, copied into the store's directory. A register beside them
says in JSON which packages are installed and where.
-/

namespace LineScript.Package

/-- How deeply the nested data of a store can be followed. A register of entries can always be read. -/
structure Limits where
  /-- The levels of a register. -/
  levels : Nat
  /-- The levels of a directory that is copied. -/
  folders : Nat
  two_le_levels : 2 ≤ levels := by decide

/-- The limits of a call that is not nested itself. -/
def Limits.usual : Limits where
  levels := 992
  folders := 496

/-- A store: its directory, its register, and how deeply they can be followed. -/
structure Store where
  dir : String
  register : String
  limits : Limits

/-- The store of the working directory, followed as deeply as the limits allow. -/
def Store.within (limits : Limits) : Store :=
  ⟨"lib", "lib/packages.json", limits⟩

def Store.standard : Store :=
  .within .usual

def scriptExtension : String := ".stryke"

/-! ## The register -/

/-- Change the files, and keep what was done before a failure. -/
def changeFiles (f : Files.FileTree → Files.FileTree × Except Fault Unit) : Run Unit := do
  let (files, outcome) := f (← Run.get).files
  Run.modify fun s => { s with files := files }
  Run.ofResult outcome

def writeContent (path content : String) : Run Unit := do
  let files ← Run.ofResult ((← Run.get).files.write path (Text.Utf8.encode content))
  Run.modify fun s => { s with files := files }

/-- Make the store's directory and an empty register where they are missing. -/
def Store.prepare (store : Store) : Run Unit := do
  if !(← Run.get).files.pathIsDir store.dir then changeFiles (·.makeDirs false store.dir)
  if !(← Run.get).files.pathIsFile store.register then
    writeContent store.register (Json.text (.object []))

def Store.load (store : Store) : Run Json := do
  let text ← Run.ofResult ((← Run.get).files.readText store.register)
  Run.ofResult (Json.parseWithin store.limits.levels text)

/-- Write the register, if its file is still there. -/
def Store.save (store : Store) (v : Json) : Run Unit := do
  if (← Run.get).files.pathIsFile store.register then
    writeContent store.register v.indentedText

/-- What the register says of an installed package. -/
def record (path : String) : Json :=
  .object [("installed", .bool true), ("path", .str path)]

/-- Enter a package. Only an object can hold entries. -/
def enter (register : Json) (name : String) (path : String) : Result Json :=
  match register with
  | .object entries => .ok (.object (Json.setEntry entries name (record path)))
  | .list _ => .error (.type .listIndex)
  | v => .error (.type (.noAssignment v.kindName))

/-! ## Installing -/

/-- Remove a directory and all that is below it. -/
def removeTree (path : String) : Run Unit := do
  let files := (← Run.get).files
  match files.resolve path with
  | .error c => Run.fail (Files.refuse path c)
  | .ok l =>
    if files.isDir l then Run.modify fun s => { s with files := s.files.prune l }
    else Run.fail (Files.refuse path .notADirectory)

/-- Whether an entry can be copied that is found below a directory along some names: it is not nested too
deeply, and its path stays short enough, there and in the copy. -/
def copies (folders : Nat) (source destination : String) (names : Files.Location) : Bool :=
  names.length ≤ folders && Files.fits source names && Files.fits destination names

/-- Copy a directory to a place where nothing is. What cannot be copied is left out, and the copy fails in
the end. A directory cannot be copied into a directory below one of its own: the copy would go on into
what it has just made. How far it gets is not followed here. -/
def copyTree (folders : Nat) (source destination : String) : Run Unit := do
  match (← Run.get).files.resolve source with
  | .error c => Run.fail (Files.refuse source c)
  | .ok origin =>
    if !(← Run.get).files.isDir origin then Run.fail (Files.refuse source .notFound)
    let snapshot := (← Run.get).files
    changeFiles (·.makeDirs false destination)
    match (← Run.get).files.resolve destination with
    | .error c => Run.fail (Files.refuse destination c)
    | .ok target =>
      if origin.isPrefixOf target && origin != target.dropLast then Run.fail .copy
      else
        let entries := snapshot.below origin
        let copied := entries.filter fun (k, _) => copies folders source destination k
        Run.modify fun s => { s with files := s.files.graft target copied }
        if copied.length != entries.length then
          let deep := entries.any fun (k, _) => folders < k.length
          Run.fail (if deep then .nesting else .copy)

/-- Copy a file. Into a directory it is copied under its own name. -/
def copyFile (source destination : String) : Run Unit := do
  let files := (← Run.get).files
  let target :=
    if files.pathIsDir destination then Files.join destination (Files.baseName source)
    else destination
  let same := match files.resolve source, files.resolve target with
    | .ok a, .ok b => a == b
    | _, _ => false
  if same then Run.fail (.sameFile (Text.quoted source) (Text.quoted target))
  let content ← Run.ofResult (files.read source)
  let files ← Run.ofResult (files.write target content)
  Run.modify fun s => { s with files := files }

/-- Copy a directory in place of what is at the destination. -/
def replaceTree (folders : Nat) (source destination : String) : Run Unit := do
  if (← Run.get).files.pathExists destination then removeTree destination
  copyTree folders source destination

/-- Copy a script into the directory at the destination, which is made if it is missing. -/
def addScript (source destination : String) : Run Unit := do
  if !(← Run.get).files.pathExists destination then
    changeFiles (·.makeDirs false destination)
  copyFile source (Files.join destination (Files.baseName source))

/-- Enter a package in the register that is there. -/
def Store.enroll (store : Store) (name path : String) : Run Unit := do
  let register ← store.load
  store.save (← Run.ofResult (enter register name path))

/-- Install the directory or the script at a path under its own name. -/
def install (store : Store) (path : String) : Run Unit := do
  store.prepare
  if !(← Run.get).files.pathExists path then
    printLine ("[stinstall] path not found: " ++ path)
    return ()
  let name := Files.ownName path
  let destination := Files.join store.dir name
  if (← Run.get).files.pathIsDir path then replaceTree store.limits.folders path destination
  else
    if !Text.endsWith path scriptExtension then
      printLine "[stinstall] not a .stryke file"
      return ()
    addScript path destination
  store.enroll name destination
  printLine ("[stinstall] installed " ++ name)

/-! ## Uninstalling -/

def occursIn (part whole : List Char) : Bool :=
  match whole with
  | [] => part.isEmpty
  | _ :: rest => part.isPrefixOf whole || occursIn part rest

def holdsText (items : List Json) (name : String) : Bool :=
  items.any fun
    | .str s => s == name
    | _ => false

/-- Whether the register names a package: as a key, as an item, or as a part of a text. -/
def isNamed (register : Json) (name : String) : Result Bool :=
  match register with
  | .object entries => .ok ((entries.lookup name).isSome)
  | .list items => .ok (holdsText items name)
  | .str s => .ok (occursIn name.toList s.toList)
  | v => .error (.type (.noMembership v.kindName))

def index (v : Json) (key : String) : Result Json :=
  match v with
  | .object entries =>
    match entries.lookup key with
    | some w => .ok w
    | none => .error (.key (.text key))
  | .list _ => .error (.type .listIndex)
  | .str _ => .error (.type .textIndex)
  | v => .error (.type (.noSubscript v.kindName))

/-- Remove the directory that the register gives as a package's place, if it is there. A number names
no directory. -/
def removePlace (place : Json) : Run Unit := do
  match place with
  | .str path => if (← Run.get).files.pathExists path then removeTree path
  | .int _ | .bool _ => pure ()
  | v => Run.fail (.type (.statPath v.kindName))

def withdraw (register : Json) (name : String) : Json :=
  match register with
  | .object entries => .object (entries.filter (·.1 != name))
  | v => v

/-- Remove a package and its entry in the register. -/
def uninstall (store : Store) (name : String) : Run Unit := do
  store.prepare
  let register ← store.load
  if ← Run.ofResult (isNamed register name) then
    let entry ← Run.ofResult (index register name)
    let place ← Run.ofResult (index entry "path")
    removePlace place
    store.save (withdraw register name)
    printLine ("[stinstall] removed " ++ name)
  else printLine ("[stinstall] package not found: " ++ name)

end LineScript.Package
