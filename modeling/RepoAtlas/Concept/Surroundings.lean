import RepoAtlas.Graph.Depths
import RepoAtlas.Manifest.Basic
import RepoAtlas.Naming
import RepoAtlas.Outline.Basic
import RepoAtlas.Path
import RepoAtlas.Text.Case

/-!
# The surroundings of a module

Rules that look for patterns ask more than a module itself can answer: what lies in its directory,
who imports it, which frameworks the repository uses. `Surroundings` is everything a run knows when
rules are applied, with the questions they ask of it.

Directories are those that modules lie in and all directories above them; the top one is written
`.`.
-/

namespace RepoAtlas

open Text

/-- What is known of a repository when rules are applied. -/
structure Surroundings where
  modules : List SourceModule
  graph : DependencyGraph String
  analysis : GraphAnalysis String
  manifest : ManifestInfo String

namespace Surroundings

/-- The surroundings that some modules form, in whatever order they are given. -/
def ofModules (modules : List SourceModule) (graph : DependencyGraph String)
    (analysis : GraphAnalysis String) (manifest : ManifestInfo String) : Surroundings where
  modules := modules.mergeSort fun a b => a.path ≤ b.path
  graph
  analysis
  manifest

def module? (here : Surroundings) (path : String) : Option SourceModule :=
  here.modules.find? (·.path == path)

/-! ## Directories -/

def top : String := "."

/-- A directory path, the empty one written as the top directory. -/
def directoryName (path : String) : String := if path = "" then top else path

def directoryOf (path : String) : String := directoryName (Path.parent path)

def directoriesAbove (path : String) : List String :=
  let directories := Path.directorySegments path
  (List.range (directories.length + 1)).map fun depth =>
    directoryName (joined "/" (directories.take depth))

/-- The directories that contain modules, directly or further down, in ascending order. -/
def directories (here : Surroundings) : List String :=
  Naming.ascending (here.modules.flatMap fun module => directoriesAbove module.path)

def pathStart (directory : String) : String := if directory = top then "" else directory ++ "/"

/-- The name of a directory inside the directory it lies in, if that is `parent`. -/
def childName? (parent directory : String) : Option String :=
  if directory = top then none
  else (dropStart? (pathStart parent) directory).filter fun name =>
    name != "" && !name.toList.contains '/'

/-- The directories that lie directly in a directory, by their names. -/
def childDirectories (here : Surroundings) (parent : String) : List (String × String) :=
  Entries.ofPairs <| here.directories.filterMap fun directory =>
    (childName? parent directory).map (·, directory)

/-- The same, in the order of the names. -/
def orderedChildren (here : Surroundings) (parent : String) : List (String × String) :=
  (here.childDirectories parent).mergeSort fun a b => a.1 ≤ b.1

def modulesUnder (here : Surroundings) (directory : String) : List SourceModule :=
  here.modules.filter fun module => startsWith (pathStart directory) module.path

/-! ## Imports -/

/-- The paths of some nodes, each once, in ascending order. -/
def pathsOf (here : Surroundings) (nodes : List Nat) : List String :=
  Naming.ascending (nodes.filterMap here.graph.path?)

def importers (here : Surroundings) (path : String) : List String :=
  match here.graph.indexOf? path with
  | some node => here.pathsOf (here.graph.predecessors node)
  | none => []

def imported (here : Surroundings) (path : String) : List String :=
  match here.graph.indexOf? path with
  | some node => here.pathsOf (here.graph.successors node)
  | none => []

/-- The imports between modules as pairs of paths, in edge order, with repetitions. -/
def internalPairs (here : Surroundings) : List (String × String) :=
  here.graph.internalPairs.filterMap fun (source, target) => do
    pure (← here.graph.path? source, ← here.graph.path? target)

def edgesFrom (here : Surroundings) (node : Nat) : List (GraphEdge String) :=
  here.graph.edges.filter (·.source == node)

/-- The packages that a module imports, each once, in ascending order. -/
def externalPackagesOf (here : Surroundings) (path : String) : List String :=
  match here.graph.indexOf? path with
  | some node =>
    Naming.ascending <| ((here.edgesFrom node).filter (·.kind == .external)).filterMap fun edge =>
      edge.package.filter (· != "")
  | none => []

/-! ## Classes and frameworks -/

/-- All classes with the modules they are in, in path order. -/
def classes (here : Surroundings) : List (SourceModule × ClassOutline String Span) :=
  here.modules.flatMap fun module => module.classes.map (module, ·)

/-- The classes that have a name, grouped by it. -/
def classesByName (here : Surroundings) :
    List (String × List (SourceModule × ClassOutline String Span)) :=
  (Naming.distinct (here.classes.map (·.2.name))).map fun name =>
    (name, here.classes.filter (·.2.name == name))

/-- Everything that may name a framework: the frameworks in use and the declared packages. -/
def declaredNames (here : Surroundings) : List String :=
  (here.manifest.frameworks ++ here.manifest.pythonPackages.map (·.1)
    ++ here.manifest.nodePackages.map (·.1)).map lower

/-- Whether one of the names is declared, in whatever case. -/
def hasFramework (here : Surroundings) (names : List String) : Bool :=
  names.any fun name => here.declaredNames.contains (lower name)

end Surroundings

end RepoAtlas
