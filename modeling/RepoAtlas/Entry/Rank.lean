import RepoAtlas.Entry.Weights
import RepoAtlas.Graph.Build

/-!
# Ranking entry points

Every module of the graph is a candidate. `Candidate.matched` says which heuristics hold of it, each
with a sentence of evidence; `rank` turns the heuristics into scores and lists the candidates by
score, the highest first, and by path among equals.
-/

namespace RepoAtlas

/-- A candidate for an entry point of the program. -/
structure EntryPoint (τ α : Type) where
  path : τ
  score : α
  heuristics : List τ
  /-- One sentence for each of the heuristics. -/
  evidence : List τ
deriving DecidableEq, Repr

namespace EntryPoint

open Text

def map {τ υ α : Type} (text : τ → υ) (entry : EntryPoint τ α) : EntryPoint υ α where
  path := text entry.path
  score := entry.score
  heuristics := entry.heuristics.map text
  evidence := entry.evidence.map text

/-! ## The heuristics -/

/-- The file names, up to their first dot, that entry points usually have. -/
def entryStems : Language → List String
  | .python => ["__main__", "main", "app", "manage", "wsgi", "asgi", "server", "cli", "run"]
  | .javaScript => ["index", "main", "app", "server", "cli"]
  | .unrecognised => []

/-- The files that a hint may mean, in the order in which they are tried. -/
def hintedFiles (hint : EntryHint String) : List String :=
  if hint.kind = "path" then Resolution.JavaScript.candidates hint.value
  else Resolution.Python.roots.flatMap fun root =>
    let stem := Resolution.Python.below root (replaceChar '.' "/" hint.value)
    [stem ++ ".py", stem ++ "/__main__.py", stem ++ "/__init__.py"]

/-- The files that manifests name as entry points, each with the first manifest that does. -/
def references (paths : List String) (hints : List (EntryHint String)) :
    List (String × String) :=
  Entries.addNew [] <| hints.filterMap fun hint =>
    ((hintedFiles hint).find? paths.contains).map (·, hint.manifest)

/-- What is known of a candidate. -/
structure Candidate where
  node : GraphNode String
  inDegree : Nat
  /-- The outline of the module, if it is at hand; the last one if there are several. -/
  module? : Option SourceModule
  manifest? : Option String

/-- The evidence for a heuristic, if it holds of a candidate. -/
def Candidate.evidence? (candidate : Candidate) : Heuristic → Option String
  | .manifestMain => candidate.manifest?.map ("referenced by " ++ ·)
  | .zeroInDegree => if candidate.inDegree = 0 then some "in-degree = 0" else none
  | .entryFilename =>
    let name := Path.fileName candidate.node.path
    if (entryStems candidate.node.language).contains (beforeFirst '.' name) then
      some ("filename matches known entry pattern (" ++ name ++ ")")
    else none
  | .routeRegistrations =>
    match candidate.module?.map (·.routes.length) with
    | some (count + 1) => some (toString (count + 1) ++ " route registration(s)")
    | _ => none
  | .mainGuard =>
    if candidate.module?.any (·.hasMainGuard) then some "has __main__ guard" else none

/-- The heuristics that hold of a candidate with their evidence, in the order of the heuristics. -/
def Candidate.matched (candidate : Candidate) : List (Heuristic × String) :=
  Heuristic.all.filterMap fun heuristic => (candidate.evidence? heuristic).map (heuristic, ·)

/-! ## The ranking -/

def ofCandidate {α : Type} (scale : Scale α) (weights : Weights α) (candidate : Candidate) :
    EntryPoint String α :=
  let matched := candidate.matched
  { path := candidate.node.path
    score := scale.share (scale.sum (matched.map fun (heuristic, _) => weights heuristic))
      (scale.sum weights.toList)
    heuristics := matched.map fun (heuristic, _) => heuristic.label
    evidence := matched.map (·.2) }

def precedes {α : Type} (scale : Scale α) (a b : EntryPoint String α) : Bool :=
  scale.less b.score a.score || (!scale.less a.score b.score && a.path ≤ b.path)

def candidates (graph : DependencyGraph String) (modules : List SourceModule)
    (hints : List (EntryHint String)) : List Candidate :=
  let referenced := references (graph.nodes.map (·.path)) hints
  graph.nodes.mapIdx fun index node =>
    { node
      inDegree := graph.inDegree index
      module? := modules.findRev? (·.path == node.path)
      manifest? := referenced.lookup node.path }

/-- The candidates of a graph, the most likely first. -/
def rank {α : Type} (scale : Scale α) (weights : Weights α) (graph : DependencyGraph String)
    (modules : List SourceModule) (hints : List (EntryHint String)) :
    List (EntryPoint String α) :=
  ((candidates graph modules hints).map (ofCandidate scale weights)).mergeSort (precedes scale)

end EntryPoint

end RepoAtlas
