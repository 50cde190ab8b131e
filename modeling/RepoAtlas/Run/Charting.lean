import RepoAtlas.Run.Harvest
import RepoAtlas.Run.Plan

/-!
# Charting

The second half of a run looks at all outlines together: it builds and analyses the dependency
graph, ranks the entry points and extracts concepts. The harvest stays as it is, so that a failure
here loses nothing of it: `Atlas.ofHarvest` then answers with the harvest's own atlas beside the
cause. There is one exception. A rule that complains of a broken promise speaks to whoever called
it, and its complaint is passed on as it is.
-/

namespace RepoAtlas

/-- Why charting came to nothing. -/
inductive ChartError where
  | duplicate (error : DuplicateModule)
  | cyclic (error : CyclicRemainder)
  | extraction (error : ExtractionError)
deriving DecidableEq, Repr

def ChartError.message : ChartError → String
  | .duplicate error => error.message
  | .cyclic error => error.message
  | .extraction error => error.message

/-- Why a run came to nothing. -/
inductive RunError where
  | noHarvest (error : HarvestError)
  | brokenContract (text : String)
  /-- Charting failed; `found` is what had been found out before. -/
  | halfway (cause : ChartError) (found : Atlas String Span)
deriving DecidableEq, Repr

def RunError.message : RunError → String
  | .noHarvest error => error.message
  | .brokenContract text => text
  | .halfway cause _ => "analysis failed after normalization: " ++ cause.message

def ExtractionError.brokenContract? : ExtractionError → Option String
  | .ruleFailed (.brokenContract text) => some text
  | _ => none

namespace Harvest

def graph (harvest : Harvest) : Except ChartError (DependencyGraph String) :=
  match DependencyGraph.build harvest.modules (.ofManifest harvest.manifest) with
  | .ok graph => .ok graph
  | .error e => .error (.duplicate e)

def analysisOf (graph : DependencyGraph String) : Except ChartError (GraphAnalysis String) :=
  match graph.analyze with
  | .ok analysis => .ok analysis
  | .error e => .error (.cyclic e)

def conceptsOf (rules : List Rule) (harvest : Harvest) (graph : DependencyGraph String)
    (analysis : GraphAnalysis String) : Except ChartError (List (Concept String)) :=
  match Concept.extract rules (.ofModules harvest.modules graph analysis harvest.manifest) with
  | .ok concepts => .ok concepts
  | .error e => .error (.extraction e)

def chart (plan : Plan) (harvest : Harvest) : Except ChartError (Atlas String Span) := do
  let graph ← harvest.graph
  let analysis ← analysisOf graph
  let entryPoints :=
    EntryPoint.rank .binary64 plan.weights graph harvest.modules harvest.manifest.entryHints
  let concepts ← harvest.conceptsOf plan.rules graph analysis
  pure { harvest.atlas with graph, analysis, entryPoints, concepts }

end Harvest

def Atlas.ofHarvest (plan : Plan) (harvest : Harvest) : Except RunError (Atlas String Span) :=
  match harvest.chart plan with
  | .ok atlas => .ok atlas
  | .error (.extraction e) =>
    match e.brokenContract? with
    | some text => .error (.brokenContract text)
    | none => .error (.halfway (.extraction e) harvest.atlas)
  | .error cause => .error (.halfway cause harvest.atlas)

namespace Plan

/-- Charts a harvest if there is one. -/
def complete (plan : Plan) : Except HarvestError Harvest → Except RunError (Atlas String Span)
  | .ok harvest => Atlas.ofHarvest plan harvest
  | .error e => .error (.noHarvest e)

/-- Runs a plan on the files and manifests that are handed over, when the clock stands still. -/
def run (plan : Plan) (parser : Parser) (files : List Offered) (manifests : Value) :
    Except RunError (Atlas String Span) :=
  plan.complete (Harvest.ofFiles plan.workers parser files manifests)

/-- Runs a plan when some files are too late. -/
def runWithin (plan : Plan) (late : SourceFile → Bool) (parser : Parser) (files : List Offered)
    (manifests : Value) : Except RunError (Atlas String Span) :=
  plan.complete (Harvest.ofFilesWithin late parser files manifests)

/-- Runs a plan by a clock. Without a time budget, a run in which some worker never gets done with
its file does not return. -/
def runBy (plan : Plan) (clock : Clock) (parser : Parser) (files : List Offered)
    (manifests : Value) : Option (Except RunError (Atlas String Span)) :=
  match Harvest.ofFilesBy clock plan.workers parser files manifests with
  | .error e => some (.error (.noHarvest e))
  | .ok harvest =>
    if clock.budget.isNone && harvest.unfinished != 0 then none
    else some (Atlas.ofHarvest plan harvest)

/-! ## Reports -/

/-- The log lines about manifests that are not well formed. -/
def manifestLines (manifests : Value) : List LogLine :=
  (ManifestInfo.problems manifests).map fun (path, problem) =>
    ⟨some "manifests", .warning, "Manifest " ++ path ++ " could not be parsed: " ++ problem.message⟩

def graphLine (graph : DependencyGraph String) : LogLine :=
  ⟨some "graph", .info, "Built dependency graph: " ++ toString graph.size ++ " nodes, "
    ++ toString (graph.countKind .internal) ++ " internal, "
    ++ toString (graph.countKind .external) ++ " external, "
    ++ toString (graph.countKind .unresolved) ++ " unresolved edges"⟩

/-- The log line about cycles, if there are any. -/
def cycleLines (analysis : GraphAnalysis String) : List LogLine :=
  if analysis.cycles.isEmpty then []
  else [⟨some "graph", .info, "Detected " ++ toString analysis.cycles.length ++ " import cycle(s)"⟩]

def conceptLine (plan : Plan) (atlas : Atlas String Span) : LogLine :=
  ⟨some "concepts", .info, "Extracted " ++ toString atlas.concepts.length ++ " concept(s) from "
    ++ toString plan.rules.length ++ " rule(s)"⟩

/-- The log lines about the charting of a harvest that led to a result. -/
def chartLines (plan : Plan) (harvest : Harvest) (result : Except RunError (Atlas String Span)) :
    List LogLine :=
  match harvest.graph with
  | .error _ => []
  | .ok graph =>
    graphLine graph ::
      match Harvest.analysisOf graph with
      | .error _ => []
      | .ok analysis =>
        cycleLines analysis ++
          match result with
          | .error _ => []
          | .ok atlas => [plan.conceptLine atlas]

/-- The log lines about a run, given its harvest and its result. -/
def lines (plan : Plan) (manifests : Value) (result : Except RunError (Atlas String Span)) :
    Except HarvestError Harvest → List LogLine
  | .error _ => []
  | .ok harvest => manifestLines manifests ++ harvest.fileLines ++ plan.chartLines harvest result

/-- Runs a plan as `run` does and says what there is to be logged about it. -/
def runLogged (plan : Plan) (parser : Parser) (files : List Offered) (manifests : Value) :
    List LogLine × Except RunError (Atlas String Span) :=
  let harvest := Harvest.ofFiles plan.workers parser files manifests
  let result := plan.complete harvest
  (plan.lines manifests result harvest, result)

end Plan

end RepoAtlas
