import LineScript.Files.Path

/-!
# Profiles

How the time of a run is divided among files, and which files are the sources that are measured: those
below a root, except vendored ones and the measuring tools themselves.
-/

namespace LineScript.Measure

/-- The time spent in a function itself. -/
structure ProfileEntry where
  file : String
  function : String
  time : Float

structure Profile where
  total : Float
  entries : List ProfileEntry

/-- The profile of a run of which nothing was recorded. -/
def Profile.empty : Profile :=
  ⟨0.0, []⟩

/-! ## Sources -/

def repository : Files.Location := ["repo"]

/-- Names of directories that hold the work of others. -/
def vendorNames : List String :=
  ["site-packages", "dist-packages", "node_modules", "vendor", "vendored", "_vendor", "third_party",
   "venv", ".venv", "build", "dist"]

def isVendorName (name : String) : Bool :=
  vendorNames.contains name || name.endsWith ".egg-info"

/-- Whether a file belongs to the measuring tools. -/
def isTool (name : String) : Bool :=
  name.startsWith "_pti_" || name.startsWith "microbench"

/-- Whether a location is a source below a root. -/
def isSourceAt (root l : Files.Location) : Bool :=
  root.isPrefixOf l && l != root && !l.dropLast.any isVendorName && !isTool (l.getLast?.getD "")

/-- Whether a path names a source below a root. -/
def isSource (root : Files.Location) (path : String) : Bool :=
  isSourceAt root (Files.normalized path)

/-- The file of functions that have none. -/
def builtinFile : String := "~"

/-- Whether the file of an entry is a source below a root. Names in angle brackets, and those that begin
like the file of builtin functions, are no paths. -/
def ProfileEntry.isSource (root : Files.Location) (e : ProfileEntry) : Bool :=
  !e.file.startsWith builtinFile && !e.file.startsWith "<" && Measure.isSource root e.file

/-! ## Shares -/

def timeOf (entries : List ProfileEntry) : Float :=
  entries.foldl (fun t e => t + e.time) 0.0

/-- The time spent in sources below a root. -/
def Profile.sourceTime (root : Files.Location) (p : Profile) : Float :=
  timeOf (p.entries.filter (·.isSource root))

/-- The time spent in builtin functions. -/
def Profile.builtinTime (p : Profile) : Float :=
  timeOf (p.entries.filter (·.file == builtinFile))

def leastTotal : Float := 1e-9

/-- The whole time, never zero. -/
def Profile.whole (p : Profile) : Float :=
  if p.total < leastTotal then leastTotal else p.total

/-- Take the first of several profiles; there is always an empty one after the last. -/
def nextProfile : List Profile → Profile × List Profile
  | [] => (.empty, [])
  | p :: rest => (p, rest)

end LineScript.Measure
