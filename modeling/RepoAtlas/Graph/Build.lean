import RepoAtlas.Manifest.Basic
import RepoAtlas.Resolution.JavaScript
import RepoAtlas.Resolution.Python

/-!
# Building the dependency graph

The nodes of the graph are the modules in path order, whatever order they are handed over in, and
every import of every module is one edge. Resolution only ever answers with the path of a module, so
an edge has a target exactly when its import resolved to one.
-/

namespace RepoAtlas

/-- Two modules have the same path. -/
structure DuplicateModule where
deriving DecidableEq, Repr

def DuplicateModule.message (_ : DuplicateModule) : String :=
  "module descriptors must have unique paths"

namespace DependencyGraph

/-- The names of the packages that may be imported, per language family. -/
structure Packages where
  python : List String
  node : List String
deriving DecidableEq, Repr

/-- The packages that manifests declare, in the order of their names. -/
def Packages.ofManifest {τ : Type} (info : ManifestInfo τ) : Packages where
  python := (info.pythonPackages.map (·.1)).mergeSort
  node := (info.nodePackages.map (·.1)).mergeSort

def resolveImport (paths : List String) (packages : Packages) (module : SourceModule)
    (spec : ImportOutline String Span) : Resolution :=
  match module.language with
  | .python =>
    Resolution.Python.resolve ⟨paths, packages.python⟩ module.path spec.target spec.symbols
  | .javaScript => Resolution.JavaScript.resolve ⟨paths, packages.node⟩ module.path spec.target
  | .unrecognised => .unresolved

def edgeOf (paths : List String) (packages : Packages) (source : Nat) (module : SourceModule)
    (spec : ImportOutline String Span) : GraphEdge String :=
  let resolution := resolveImport paths packages module spec
  { source
    kind := resolution.kind
    specifier := spec.target
    line := spec.span.startLine
    target := resolution.path?.bind fun path => paths.findIdx? (· == path)
    package := resolution.package? }

def inPathOrder (modules : List SourceModule) : List SourceModule :=
  modules.mergeSort fun a b => a.path ≤ b.path

/-- The graph of modules whose paths are distinct and in order. -/
def ofOrdered (modules : List SourceModule) (packages : Packages) : DependencyGraph String :=
  let paths := modules.map (·.path)
  { nodes := modules.map fun module => ⟨module.path, module.language⟩
    edges := (modules.mapIdx fun source module =>
      module.imports.map (edgeOf paths packages source module)).flatten }

def build (modules : List SourceModule) (packages : Packages) :
    Except DuplicateModule (DependencyGraph String) :=
  if (modules.map (·.path)).Nodup then .ok (ofOrdered (inPathOrder modules) packages)
  else .error {}

def countKind {τ : Type} (graph : DependencyGraph τ) (kind : EdgeKind) : Nat :=
  graph.edges.countP (·.kind == kind)

end DependencyGraph

end RepoAtlas
