import RepoAtlas.Atlas

/-!
# Writing documents

A document is a nested value that other programs can read. Every record becomes an object with one
entry for each of its parts; what is absent is written as null. Edges refer to modules by their
paths, so that a document can be read without counting.

Records are encoded once their texts are values and their spans optional, which is the form they
also have after decoding; `heldAtlas` brings what a run produces into it.
-/

namespace RepoAtlas.Document

def counts {α : Type} (label : α → String) (entries : List (α × Nat)) : Value :=
  .dict (entries.map fun (key, count) => (label key, .int count))

def optional : Option Value → Value
  | some v => v
  | none => .null

def ofSpan (span : Span) : Value :=
  .dict [("start_line", .int span.startLine), ("end_line", .int span.endLine)]

def ofSpan? (span : Option Span) : Value := optional (span.map ofSpan)

/-! ## Outlines -/

def ofCallable (c : CallableOutline Value (Option Span)) : Value :=
  .dict
    [("name", c.name),
      ("parameters", .list c.parameters),
      ("return_type", optional c.returnType),
      ("span", ofSpan? c.span),
      ("is_async", .bool c.isAsync),
      ("is_exported", .bool c.isExported),
      ("is_static", .bool c.isStatic),
      ("visibility", c.visibility),
      ("decorators", .list c.decorators),
      ("instantiates", .list c.instantiates)]

def ofField (f : FieldOutline Value) : Value :=
  .dict
    [("name", f.name),
      ("line", .int f.line),
      ("is_static", .bool f.isStatic),
      ("visibility", f.visibility)]

def ofClass (c : ClassOutline Value (Option Span)) : Value :=
  .dict
    [("name", c.name),
      ("superclass", optional c.superclass),
      ("methods", .list (c.methods.map ofCallable)),
      ("span", ofSpan? c.span),
      ("bases", .list c.bases),
      ("fields", .list (c.fields.map ofField)),
      ("decorators", .list c.decorators),
      ("is_exported", .bool c.isExported),
      ("is_abstract", .bool c.isAbstract)]

def ofImport (i : ImportOutline Value (Option Span)) : Value :=
  .dict
    [("target", i.target),
      ("symbols", .list i.symbols),
      ("span", ofSpan? i.span),
      ("is_reexport", .bool i.isReexport)]

def ofExport (e : ExportOutline Value (Option Span)) : Value :=
  .dict
    [("name", e.name),
      ("span", ofSpan? e.span),
      ("is_default", .bool e.isDefault),
      ("source", optional e.source)]

def ofRoute (r : RouteOutline Value (Option Span)) : Value :=
  .dict
    [("framework", r.framework),
      ("method", r.method),
      ("route", r.route),
      ("span", ofSpan? r.span),
      ("handler", optional r.handler)]

def ofModule (m : ModuleOutline Value (Option Span)) : Value :=
  .dict
    [("path", m.path),
      ("language", .str m.language.label),
      ("grammar", m.grammar),
      ("functions", .list (m.functions.map ofCallable)),
      ("classes", .list (m.classes.map ofClass)),
      ("imports", .list (m.imports.map ofImport)),
      ("exports", .list (m.exports.map ofExport)),
      ("routes", .list (m.routes.map ofRoute)),
      ("has_main_guard", .bool m.hasMainGuard)]

/-! ## The graph -/

def ofNode (index : Nat) (node : GraphNode Value) : Value :=
  .dict
    [("index", .int index),
      ("path", node.path),
      ("language", .str node.language.label)]

/-- An edge, its ends as paths. -/
def ofEdge (graph : DependencyGraph Value) (edge : GraphEdge Value) : Value :=
  .dict
    [("source", optional (graph.path? edge.source)),
      ("target", optional (edge.target.bind graph.path?)),
      ("kind", .str edge.kind.label),
      ("specifier", edge.specifier),
      ("line", .int edge.line),
      ("package", optional edge.package)]

def keyText : Value → String
  | .null => "null"
  | .bool b => if b then "true" else "false"
  | v => v.text

def ofDepths (depths : List (Value × Int)) : Value :=
  .dict (depths.map fun (path, depth) => (keyText path, .int depth))

def graphEntries (graph : DependencyGraph Value) : List (String × Value) :=
  [("nodes", .list (graph.nodes.mapIdx ofNode)),
    ("edges", .list (graph.edges.map (ofEdge graph)))]

def ofGraph (graph : DependencyGraph Value) (analysis : GraphAnalysis Value) : Value :=
  .dict <| graphEntries graph ++
    [("cycles", .list (analysis.cycles.map fun cycle => .list cycle.nodes)),
      ("depths", ofDepths analysis.depths)]

/-! ## The rest of an atlas -/

def ofFile (file : FileRecord Value) : Value :=
  .dict
    [("path", file.path),
      ("language", .str file.language.label),
      ("size", .int file.size),
      ("status", .str file.status.label),
      ("failure_reason", optional file.failureReason),
      ("grammar", optional file.grammar),
      ("role", file.role)]

def ofEntryPoint (entry : EntryPoint Value Binary64) : Value :=
  .dict
    [("path", entry.path),
      ("score", .float entry.score),
      ("heuristics", .list entry.heuristics),
      ("evidence", .list entry.evidence)]

/-- The mark of everything that was found and not guessed. -/
def fact : String := "FACT"

def ofConcept (concept : Concept Value) : Value :=
  .dict
    [("kind", .str concept.kind.label),
      ("name", concept.name),
      ("confidence", .float concept.confidence),
      ("file", concept.file),
      ("span", ofSpan? concept.span),
      ("evidence", .dict concept.evidence),
      ("rule", concept.rule),
      ("provenance", .str fact)]

def ofHint (hint : EntryHint Value) : Value :=
  .dict [("kind", hint.kind), ("value", hint.value), ("manifest", hint.manifest)]

def ofManifest (info : ManifestInfo Value) : Value :=
  .dict
    [("python_packages", .dict info.pythonPackages),
      ("node_packages", .dict info.nodePackages),
      ("frameworks", .list info.frameworks),
      ("entry_hints", .list (info.entryHints.map ofHint)),
      ("manifests", .list info.manifests),
      ("warnings", .list info.warnings),
      ("degraded", .bool info.degraded)]

/-- The counts of languages and outcomes, and the files that failed. -/
def ofSummary (atlas : Atlas Value (Option Span)) : Value :=
  .dict
    [("languages", counts Language.label atlas.languageCounts),
      ("statuses", counts ParseStatus.label atlas.statusCounts),
      ("failed", .list (atlas.failedFiles.map fun file =>
        .dict [("path", file.path), ("reason", optional file.failureReason)]))]

def formatVersion : Int := 1

def ofAtlas (atlas : Atlas Value (Option Span)) : Value :=
  .dict
    [("version", .int formatVersion),
      ("summary", ofSummary atlas),
      ("files", .list (atlas.files.map ofFile)),
      ("modules", .list (atlas.modules.map ofModule)),
      ("graph", ofGraph atlas.graph atlas.analysis),
      ("entry_points", .list (atlas.entryPoints.map ofEntryPoint)),
      ("concepts", .list (atlas.concepts.map ofConcept)),
      ("manifest", ofManifest atlas.manifest),
      ("warnings", .list atlas.warnings)]

/-! ## What a run produces -/

/-- A module that was read from source code, in the form in which documents hold it. -/
def heldModule (m : SourceModule) : ModuleOutline Value (Option Span) := m.map .str some

/-- The atlas of a run, in the form in which documents hold it. -/
def heldAtlas (atlas : Atlas String Span) : Atlas Value (Option Span) := atlas.map .str some

end RepoAtlas.Document
