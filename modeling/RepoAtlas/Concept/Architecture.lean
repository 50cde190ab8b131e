import RepoAtlas.Concept.Rule

/-!
# Architectural patterns

Five rules about directories and the imports between them: layers, model-view-controller, modules
that everything depends on, modules that pass on what others define, and repositories of several
projects. Directories are recognised by their names alone.
-/

namespace RepoAtlas.ArchitectureRules

open Text

def containing? (directories : List (String × String)) (path : String) : Option String :=
  (directories.find? fun (_, directory) => startsWith (directory ++ "/") path).map (·.1)

/-! ## Layers -/

/-- The layers, the nearest to the caller first. -/
inductive Layer where
  | presentation
  | service
  | data
deriving DecidableEq, Repr

namespace Layer

def all : List Layer := [.presentation, .service, .data]

def rank : Layer → Nat
  | .presentation => 0
  | .service => 1
  | .data => 2

def directoryNames : Layer → List String
  | .presentation =>
    ["controllers", "controller", "routes", "routers", "api", "views", "handlers", "ui", "pages",
      "web"]
  | .service =>
    ["services", "service", "usecases", "use_cases", "domain", "application", "logic", "core"]
  | .data =>
    ["repositories", "repository", "models", "dal", "db", "data", "persistence", "dao", "entities",
      "store"]

def ofDirectory? (name : String) : Option Layer :=
  all.find? fun layer => layer.directoryNames.contains (lower name)

end Layer

/-- The layers below a directory: for each, the first directory that holds it. -/
def layersBelow (here : Surroundings) (directory : String) : List (Layer × String) :=
  Entries.addNew [] <| (here.orderedChildren directory).filterMap fun (name, path) =>
    (Layer.ofDirectory? name).map (·, path)

def layerOf? (layers : List (Layer × String)) (path : String) : Option Layer :=
  (layers.find? fun (_, directory) => startsWith (directory ++ "/") path).map (·.1)

def crossings (layers : List (Layer × String)) (pairs : List (String × String)) :
    List (Layer × Layer) :=
  (pairs.filterMap fun (source, target) => do
    pure (← layerOf? layers source, ← layerOf? layers target)).filter fun (a, b) => a != b

def isDownward (crossing : Layer × Layer) : Bool := crossing.1.rank < crossing.2.rank

/-- The sighting of a layered architecture in a directory with at least two layers. -/
def layeredSighting? (here : Surroundings) (directory : String) : Option Sighting :=
  let layers := layersBelow here directory
  if layers.length < 2 then none
  else
    let crossed := crossings layers here.internalPairs
    let upward := crossed.countP (!isDownward ·)
    some
      { file := directory
        span := none
        conditions :=
          [("presentation_layer", (layers.lookup .presentation).isSome),
            ("service_layer", (layers.lookup .service).isSome),
            ("data_layer", (layers.lookup .data).isSome),
            ("downward_dependencies", crossed.any isDownward && upward == 0)]
        details :=
          [("layers", .str (joined "," (layers.map (Path.fileName ·.2)).mergeSort)),
            ("upward_edges", .int upward)] }

def layered (here : Surroundings) : List Sighting :=
  here.directories.filterMap (layeredSighting? here)

/-! ## Model, view, controller -/

/-- The parts of the pattern with the names of directories that hold them. -/
def parts : List (String × List String) :=
  [("models", ["models", "model", "entities"]),
    ("views", ["views", "view", "templates", "components", "pages"]),
    ("controllers", ["controllers", "controller"])]

/-- The parts below a directory: for each, the first directory that holds it. -/
def partsBelow (here : Surroundings) (directory : String) : List (String × String) :=
  Entries.addNew [] <| (here.orderedChildren directory).flatMap fun (name, path) =>
    (parts.filter fun (_, names) => names.contains (lower name)).map fun (part, _) => (part, path)

def importsInto (pairs : List (String × String)) (source target : String) : Bool :=
  pairs.any fun (a, b) => startsWith (source ++ "/") a && startsWith (target ++ "/") b

/-- The sighting of the pattern in a directory with controllers and another part. -/
def mvcSighting? (here : Surroundings) (directory : String) : Option Sighting :=
  let found := partsBelow here directory
  match found.lookup "controllers" with
  | none => none
  | some controllers =>
    if found.length < 2 then none
    else
      let models? := found.lookup "models"
      some
        { file := directory
          span := none
          conditions :=
            [("models_dir", models?.isSome), ("views_dir", (found.lookup "views").isSome),
              ("controllers_dir", true),
              ("controllers_import_models", models?.any fun models =>
                importsInto here.internalPairs controllers models)]
          details := [] }

def mvc (here : Surroundings) : List Sighting := here.directories.filterMap (mvcSighting? here)

/-! ## Hub modules -/

def hubMinImporters : Nat := 3

/-- The sighting of a hub: a module with many importers. -/
def hubSighting? (here : Surroundings) (module : SourceModule) : Option Sighting :=
  let fanIn := (here.importers module.path).length
  if fanIn < hubMinImporters then none
  else
    let fanOut := (here.imported module.path).length
    some
      { file := module.path
        span := none
        conditions :=
          [("high_fan_in", true), ("fan_in_dominant", 2 * fanOut ≤ fanIn),
            ("exports_many", 3 ≤ module.exports.length)]
        details :=
          [("fan_in", .int fanIn), ("fan_out", .int fanOut),
            ("depth", .int ((here.analysis.depths.lookup module.path).getD 0))] }

def hubs (here : Surroundings) : List Sighting := here.modules.filterMap (hubSighting? here)

/-! ## Facade modules -/

def isIndex (path : String) : Bool :=
  let stem := Path.stem path
  stem == "index" || stem == "__init__"

/-- Whether an import passes its target on: it is a re-export, or the module is the index of the
directory that the target lies in. -/
def forwards (module : SourceModule) (edge : GraphEdge String) (target : String) : Bool :=
  let directory := Path.parent module.path
  (module.imports.any fun spec => spec.isReexport && spec.span.startLine == edge.line)
    || (isIndex module.path && startsWith (if directory = "" then "" else directory ++ "/") target)

def forwardedTargets (here : Surroundings) (module : SourceModule) : List String :=
  match here.graph.indexOf? module.path with
  | none => []
  | some node =>
    ((here.edgesFrom node).filterMap fun edge => do
      let target ← here.graph.path? (← edge.target)
      if forwards module edge target && target != module.path then pure target else none).eraseDups

/-- The sighting of a facade: a module that passes on two others. -/
def facadeSighting? (here : Surroundings) (module : SourceModule) : Option Sighting :=
  let forwarded := (forwardedTargets here module).length
  if forwarded < 2 then none
  else some
    { file := module.path
      span := none
      conditions :=
        [("reexports", true), ("index_filename", isIndex module.path),
          ("no_own_definitions", module.functions.isEmpty && module.classes.isEmpty),
          ("imported_from_outside", (here.importers module.path).any fun importer =>
            Path.parent importer != Path.parent module.path)]
      details := [("forwarded", .int forwarded)] }

def facades (here : Surroundings) : List Sighting := here.modules.filterMap (facadeSighting? here)

/-! ## Repositories of several projects -/

def workspaceDirectories : List String := ["packages", "apps", "services", "libs", "modules"]

def packageManifests : List String := ["package.json", "pyproject.toml"]

def projects (here : Surroundings) : List (String × String) :=
  Entries.addNew [] <| workspaceDirectories.flatMap fun container =>
    (here.childDirectories container).map fun (name, path) => (path, name)

def crossesProjects (directories : List String) (pairs : List (String × String)) : Bool :=
  let keyed := directories.map fun directory => (directory, directory)
  pairs.any fun (source, target) =>
    match containing? keyed source, containing? keyed target with
    | some a, some b => a != "" && b != "" && a != b
    | _, _ => false

def monorepoConditions (here : Surroundings) : List (String × Bool) :=
  let found := projects here
  let nested := here.manifest.manifests.filter fun path =>
    path.toList.contains '/' && packageManifests.contains (Path.fileName path)
  let depended := here.manifest.nodePackages.any fun (package, _) =>
    (found.map (·.2)).contains (Path.fileName package)
  [("workspace_dirs", 2 ≤ found.length), ("multiple_manifests", 2 ≤ nested.length),
    ("cross_project_dependencies",
      crossesProjects (found.map (·.1)) here.internalPairs || depended)]

/-- The repository, if two of three hold: it has several project directories, several manifests in
directories, and projects that depend on each other. -/
def monorepos (here : Surroundings) : List Sighting :=
  let conditions := monorepoConditions here
  if holding conditions < 2 then []
  else [⟨Surroundings.top, none, conditions, [("projects", .int (projects here).length)]⟩]

/-! ## The rules -/

def all : List Rule :=
  [.ofSightings "layered" .architecturalPattern "Layered Architecture" layered,
    .ofSightings "mvc" .architecturalPattern "MVC" mvc,
    .ofSightings "hub_module" .architecturalPattern "Hub Module" hubs,
    .ofSightings "facade_module" .architecturalPattern "Facade Module" facades,
    .ofSightings "monorepo" .architecturalPattern "Monorepo" monorepos]

end RepoAtlas.ArchitectureRules
