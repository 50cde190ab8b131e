import RepoAtlas.Document.Encode
import RepoAtlas.Document.Fields

/-!
# Reading documents

The inverse of writing: every record is read from an object with one entry for each of its parts.
Entries that have a usual value may be left out, entries that are not known are ignored, and the
numbers of nodes are taken from their places and not from what the document says.

Only facts are read. Before anything else, every concept of a document is checked for the mark of a
fact, so a document with a guess among its concepts is refused for that, whatever else is wrong
with it.
-/

namespace RepoAtlas.Document

/-! ## Outlines -/

def toSpan (data : Value) : Decoded Span := do
  let startLine ← requiredInteger data "start_line"
  let endLine ← requiredInteger data "end_line"
  pure ⟨startLine, endLine⟩

/-- A range of lines, or null. -/
def toSpan? (data : Value) : Decoded (Option Span) :=
  if data = .null then pure none else (toSpan data).map some

def spanOf (data : Value) : Decoded (Option Span) := do
  toSpan? (← required data "span")

/-- How visible a record is; public unless it says otherwise. -/
def visibilityOf (data : Value) : Decoded Value := entryOr (.str "public") data "visibility"

def toCallable (data : Value) : Decoded (CallableOutline Value (Option Span)) := do
  let name ← required data "name"
  let parameters ← items data "parameters"
  let span ← spanOf data
  let returnType ← present? data "return_type"
  let isAsync ← flag data "is_async"
  let isExported ← flag data "is_exported"
  let isStatic ← flag data "is_static"
  let visibility ← visibilityOf data
  let decorators ← items data "decorators"
  let instantiates ← items data "instantiates"
  pure
    { name, parameters, span, returnType, isAsync, isExported, isStatic, visibility, decorators,
      instantiates }

def toField (data : Value) : Decoded (FieldOutline Value) := do
  let name ← required data "name"
  let line ← requiredInteger data "line"
  let isStatic ← flag data "is_static"
  let visibility ← visibilityOf data
  pure { name, line, isStatic, visibility }

def toClass (data : Value) : Decoded (ClassOutline Value (Option Span)) := do
  let name ← required data "name"
  let superclass ← present? data "superclass"
  let methods ← each toCallable data "methods"
  let span ← spanOf data
  let bases ← items data "bases"
  let fields ← each toField data "fields"
  let decorators ← items data "decorators"
  let isExported ← flag data "is_exported"
  let isAbstract ← flag data "is_abstract"
  pure
    { name, superclass, methods, span, bases, fields, decorators, isExported, isAbstract }

def toImport (data : Value) : Decoded (ImportOutline Value (Option Span)) := do
  let target ← required data "target"
  let symbols ← items data "symbols"
  let span ← spanOf data
  let isReexport ← flag data "is_reexport"
  pure { target, symbols, span, isReexport }

def toExport (data : Value) : Decoded (ExportOutline Value (Option Span)) := do
  let name ← required data "name"
  let span ← spanOf data
  let isDefault ← flag data "is_default"
  let source ← present? data "source"
  pure { name, span, isDefault, source }

def toRoute (data : Value) : Decoded (RouteOutline Value (Option Span)) := do
  let framework ← required data "framework"
  let method ← required data "method"
  let route ← required data "route"
  let span ← spanOf data
  let handler ← present? data "handler"
  pure { framework, method, route, span, handler }

def languageOf (data : Value) : Decoded Language :=
  named Language.ofLabel? "Language" data "language"

def toModule (data : Value) : Decoded (ModuleOutline Value (Option Span)) := do
  let path ← required data "path"
  let language ← languageOf data
  let grammar ← required data "grammar"
  let functions ← each toCallable data "functions"
  let classes ← each toClass data "classes"
  let imports ← each toImport data "imports"
  let exports ← each toExport data "exports"
  let routes ← each toRoute data "routes"
  let hasMainGuard ← flag data "has_main_guard"
  pure { path, language, grammar, functions, classes, imports, exports, routes, hasMainGuard }

/-! ## The graph -/

def toNode (data : Value) : Decoded (GraphNode Value) := do
  let path ← required data "path"
  let language ← languageOf data
  pure ⟨path, language⟩

def nodeIndex (nodes : List (GraphNode Value)) (path : Value) : Decoded Nat := do
  let key ← asKey path
  match nodes.reverse.findIdx? fun node => sameKey node.path key with
  | some fromEnd => pure (nodes.length - 1 - fromEnd)
  | none => .error (.missingKey path)

def toEdge (nodes : List (GraphNode Value)) (data : Value) : Decoded (GraphEdge Value) := do
  let target? ← present? data "target"
  let source ← nodeIndex nodes (← required data "source")
  let kind ← named EdgeKind.ofLabel? "EdgeKind" data "kind"
  let specifier ← required data "specifier"
  let line ← requiredInteger data "line"
  let target ← target?.mapM (nodeIndex nodes)
  let package ← present? data "package"
  pure { source, kind, specifier, line, target, package }

def toCycle (data : Value) : Decoded (Cycle Value) := (itemsOf data).map Cycle.mk

def toDepths (data : Value) : Decoded (List (Value × Int)) := do
  let pairs ← pairsOf (← entryOr (.dict []) data "depths")
  (Entries.ofPairs pairs).mapM fun (path, depth) => do pure (path, ← integer depth)

def toGraph (data : Value) : Decoded (DependencyGraph Value × GraphAnalysis Value) := do
  let nodes ← each toNode data "nodes"
  let _ ← nodes.mapM fun node => asKey node.path
  let edges ← each (toEdge nodes) data "edges"
  let cycles ← each toCycle data "cycles"
  let depths ← toDepths data
  pure (⟨nodes, edges⟩, ⟨cycles, depths⟩)

/-! ## Concepts -/

/-- The entries of an object that may also be given as pairs. -/
def entriesOf (data : Value) (key : String) : Decoded (List (String × Value)) := do
  let pairs ← pairsOf (← entryOr (.dict []) data key)
  pure (Entries.ofPairs (pairs.map fun (key, value) => (keyText key, value)))

def isFact (record : Value) : Bool := record.get? "provenance" == some (.str fact)

def nameOf (record : Value) : Value :=
  match record with
  | .dict entries => (entries.lookup "name").getD .null
  | _ => record

/-- Checks that all of some records are marked as facts, and counts them. -/
def requireFacts (records : List Value) : Decoded Nat :=
  match records.find? (!isFact ·) with
  | some record => .error (.notFact (nameOf record))
  | none => .ok records.length

/-- A concept, which has to be a fact. -/
def toConcept (data : Value) : Decoded (Concept Value) := do
  let provenance := (← lookup? data "provenance").getD .null
  if provenance ≠ .str fact then
    .error (.otherProvenance ((data.get? "name").getD .null) ((data.get? "file").getD .null)
      provenance)
  else do
    let kind ← named ConceptKind.ofLabel? "ConceptKind" data "kind"
    let name ← required data "name"
    let confidence ← number (← required data "confidence")
    let file ← required data "file"
    let span ← toSpan? (← entryOr .null data "span")
    let evidence ← entriesOf data "evidence"
    let rule ← required data "rule"
    pure { kind, name, confidence, file, span, evidence, rule }

/-! ## The rest of an atlas -/

def toFile (data : Value) : Decoded (FileRecord Value) := do
  let path ← required data "path"
  let language ← languageOf data
  let size ← requiredInteger data "size"
  let status ← named ParseStatus.ofLabel? "ParseStatus" data "status"
  let failureReason ← present? data "failure_reason"
  let grammar ← present? data "grammar"
  let role ← entryOr (.str "src") data "role"
  pure { path, language, size, status, failureReason, grammar, role }

def toEntryPoint (data : Value) : Decoded (EntryPoint Value Binary64) := do
  let path ← required data "path"
  let score ← number (← required data "score")
  let heuristics ← items data "heuristics"
  let evidence ← items data "evidence"
  pure { path, score, heuristics, evidence }

def toHint (data : Value) : Decoded (EntryHint Value) := do
  let kind ← required data "kind"
  let value ← required data "value"
  let manifest ← required data "manifest"
  pure { kind, value, manifest }

def toManifest (data : Value) : Decoded (ManifestInfo Value) := do
  let pythonPackages ← entriesOf data "python_packages"
  let nodePackages ← entriesOf data "node_packages"
  let frameworks ← items data "frameworks"
  let entryHints ← each toHint data "entry_hints"
  let manifests ← items data "manifests"
  let warnings ← items data "warnings"
  let degraded ← flag data "degraded"
  pure { pythonPackages, nodePackages, frameworks, entryHints, manifests, warnings, degraded }

/-- The manifest entry of a document; anything that counts as false is as if it were left out. -/
def manifestOf (data : Value) : Decoded (ManifestInfo Value) := do
  let manifest ← entryOr (.dict []) data "manifest"
  toManifest (if manifest.isTruthy then manifest else .dict [])

def toAtlas (data : Value) : Decoded (Atlas Value (Option Span)) :=
  match data with
  | .dict _ => do
    let _ ← requireFacts (← items data "concepts")
    let (graph, analysis) ← toGraph (← entryOr (.dict []) data "graph")
    let manifest ← manifestOf data
    let files ← each toFile data "files"
    let modules ← each toModule data "modules"
    let entryPoints ← each toEntryPoint data "entry_points"
    let concepts ← each toConcept data "concepts"
    let warnings ← items data "warnings"
    pure { files, modules, graph, analysis, entryPoints, concepts, manifest, warnings }
  | _ => .error .rootNotMapping

end RepoAtlas.Document
