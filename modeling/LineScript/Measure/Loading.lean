import LineScript.Measure.Profile
import LineScript.Measure.Suite

/-!
# Control runs

In a control run every source that a benchmark loads is replaced by a mock, and so are packages given by
name. A mock answers whatever is asked of it, so a benchmark whose result stays the same does not depend
on the sources.
-/

namespace LineScript.Measure

/-- The setting of a control run: the names that are replaced, and where modules are looked for. -/
structure Control where
  packages : List String
  path : List String
  files : Files.FileTree

inductive Loaded where
  | mock
  | module (name : String)
  /-- The names that a file defines when it is run. -/
  | globals

/-- Modules that are there without any file. -/
def libraryModules : List String := ["colorsys"]

/-- The names that every file has when it is run. -/
def globalNames : List String :=
  ["__name__", "__doc__", "__package__", "__loader__", "__spec__", "__file__", "__cached__",
   "__builtins__"]

/-- The file of a module below a directory: that of a package, or else that of its own. -/
def moduleFile? (files : Files.FileTree) (dir name : String) : Option String :=
  let place := Files.join dir ("/".intercalate (name.splitOn "."))
  [place ++ "/__init__.py", place ++ ".py"].find? files.pathIsFile

def Control.byName (c : Control) (name : String) : Except Fault Loaded :=
  let first := (name.splitOn ".").headD ""
  if c.packages.contains first then .ok .mock
  else
    match c.path.findSome? (moduleFile? c.files · name) with
    | some file => .ok (if isSource Files.work file then .mock else .module name)
    | none =>
      let isPlainDirectory := c.path.any fun dir => c.files.pathIsDir (Files.join dir name)
      if libraryModules.contains name || isPlainDirectory then .ok (.module name)
      else .error (.noModule name)

def Control.byFile (c : Control) (path : String) (other : Loaded) : Except Fault Loaded :=
  if isSource Files.work path then .ok .mock
  else (c.files.read path).map fun _ => other

def Control.load (c : Control) (l : Load) : Except Fault Loaded :=
  match l.way with
  | .byName => c.byName l.target
  | .byPlace | .byLoader => c.byFile l.target (.module "m")
  | .byRunning => c.byFile l.target .globals

def mockSample : Sample :=
  .object "unittest.mock" "_Poison"

def mockAnswer : Use → Sample
  | .kind => .str "poison"
  | .itself | .attribute | .call => mockSample
  | .absorb => .int 7
  | .truth => .bool true
  | .length => .int 0
  | .integer => .int 1
  | .real => .value (.float 1.0)
  | .index => .int 1
  | .membership => .bool false
  | .items => .list []

/-- What a loaded thing without the attribute that is asked for answers. -/
def realAnswer (owner kind : String) (itself : Sample) (items : Except Fault Sample) :
    Use → Except Fault Sample
  | .kind => .ok (.str "real")
  | .itself => .ok itself
  | .real => .error (.type (.realFrom kind))
  | .items => items
  | _ => .error (.noAttribute owner "f")

def Loaded.answer (use : Use) : Loaded → Except Fault Sample
  | .mock => .ok (mockAnswer use)
  | .module name =>
    realAnswer s!"module '{name}'" "module" (.object "builtins" "module")
      (.error (.type (.notWalked "module"))) use
  | .globals =>
    realAnswer "'dict' object" "dict" (.dict []) (.ok (.list (globalNames.map .str))) use

def Control.answer (c : Control) (l : Load) : Except Fault Sample := do
  (← c.load l).answer l.use

end LineScript.Measure
