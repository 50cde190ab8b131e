import RepoAtlas.Concept.Rule
import RepoAtlas.Text.Blank
import RepoAtlas.Text.Pattern
import RepoAtlas.Text.Word

/-!
# Uses of frameworks

Three rules: routes of web frameworks, React components, and classes that declare the shape of data.
-/

namespace RepoAtlas.FrameworkRules

open Text

/-! ## HTTP routing -/

def routingPackages : List (String × List String) :=
  [("FastAPI", ["fastapi"]), ("Flask", ["flask"]), ("Express", ["express"]),
    ("Koa", ["koa", "@koa/router", "koa-router"]), ("Fastify", ["fastify"]), ("Hono", ["hono"]),
    ("NestJS", ["@nestjs/common", "@nestjs/core"])]

/-- The packages of a framework; one that is not listed comes in a package of its own name. -/
def packagesOf (framework : String) : List String :=
  (routingPackages.lookup framework).getD [lower framework]

/-- Whether a module imports one of some packages or of their parts. -/
def importsAny (module : SourceModule) (packages : List String) : Bool :=
  packages.any fun package => module.imports.any fun spec =>
    spec.target == package || Naming.firstPart spec.target == package

/-- The smallest span that covers all of some spans, of which there is at least one. -/
def coveringSpan : List Span → Option Span
  | [] => none
  | first :: more => some <| more.foldl
      (fun all span => ⟨min all.startLine span.startLine, max all.endLine span.endLine⟩) first

def routingSighting (here : Surroundings) (module : SourceModule) (framework : String)
    (routes : List (RouteOutline String Span)) : Sighting where
  file := module.path
  span := coveringSpan (routes.map (·.span))
  conditions :=
    [("route_registrations", true),
      ("framework_declared", here.hasFramework (framework :: packagesOf framework)),
      ("framework_imported", importsAny module (packagesOf framework)),
      ("named_handlers", routes.all fun route => route.handler.any (· != ""))]
  details :=
    [("framework", .str framework), ("routes", .int routes.length),
      ("methods", .str (joined "," (Naming.ascending (routes.map (·.method)))))]

/-- The routes of every module, one sighting for each framework. -/
def routing (here : Surroundings) : List Sighting :=
  here.modules.flatMap fun module =>
    (module.routes.map (·.framework)).eraseDups.map fun framework =>
      routingSighting here module framework (module.routes.filter (·.framework == framework))

/-! ## React components -/

def isPascalCase (name : String) : Bool :=
  (Pattern.seq (.one isAsciiCapital) (.many fun c =>
    isAsciiCapital c || isAsciiDigit c || ('a' ≤ c && c ≤ 'z'))).fillsText name

def importsReact (module : SourceModule) : Bool :=
  module.imports.any fun spec =>
    spec.target == "react" || spec.target == "preact" || startsWith "react/" spec.target

def isMarkupFile (module : SourceModule) : Bool :=
  module.grammar == "tsx" || endsWith ".jsx" module.path

def functionComponent? (module : SourceModule) (f : CallableOutline String Span) :
    Option Sighting :=
  if isPascalCase f.name && (isMarkupFile module || importsReact module) then
    some
      { file := module.path
        span := some f.span
        conditions :=
          [("pascal_case_name", true), ("jsx_file", isMarkupFile module),
            ("react_imported", importsReact module), ("exported", f.isExported)]
        details := [("component", .str f.name), ("style", .str "function")] }
  else none

def extendsComponent (c : ClassOutline String Span) : Bool :=
  c.superclass.any fun base =>
    ["Component", "PureComponent"].contains (Naming.lastPart (beforeFirst '<' base))

def classComponent? (module : SourceModule) (c : ClassOutline String Span) : Option Sighting :=
  if extendsComponent c then
    some
      { file := module.path
        span := some c.span
        conditions :=
          [("extends_component", true), ("render_method", (c.method? "render").isSome),
            ("react_imported", importsReact module), ("exported", c.isExported)]
        details := [("component", .str c.name), ("style", .str "class")] }
  else none

/-- The components of a module by line, functions first among equals. -/
def componentsOf (module : SourceModule) : List Sighting :=
  (module.functions.filterMap (functionComponent? module)
    ++ module.classes.filterMap (classComponent? module)).mergeSort fun a b =>
      (a.span.map (·.startLine)).getD 0 ≤ (b.span.map (·.startLine)).getD 0

def components (here : Surroundings) : List Sighting :=
  (here.modules.filter (·.language == .javaScript)).flatMap componentsOf

/-! ## Data models -/

def modelBases : List String :=
  ["BaseModel", "Model", "Base", "DeclarativeBase", "SQLModel", "Document", "Schema", "BaseEntity"]

def modelDecorators : List String :=
  ["dataclass", "Entity", "Schema", "define", "attr.s", "attrs.define", "model"]

def modelPackages : List String :=
  ["pydantic", "django", "sqlalchemy", "sqlmodel", "mongoengine", "typeorm", "sequelize",
    "mongoose", "@nestjs/mongoose", "@mikro-orm/core"]

def isModelBase (base : String) : Bool :=
  modelBases.contains (Naming.lastPart (trim (beforeFirst '<' (beforeFirst '[' base))))

def isModelDecorator (decorator : String) : Bool :=
  let name := trim (beforeFirst '(' decorator)
  modelDecorators.contains name || modelDecorators.contains (Naming.lastPart name)

/-- What marks a class as a data model: one of its bases or else one of its decorators. -/
def modelMarker? (c : ClassOutline String Span) : Option String :=
  match c.bases.find? isModelBase with
  | some base => some base
  | none => (c.decorators.find? isModelDecorator).map (beforeFirst '(')

def importsModelPackage (module : SourceModule) : Bool :=
  module.imports.any fun spec =>
    modelPackages.contains <|
      if module.language = .python then Naming.firstPart spec.target else spec.target

/-- Whether a method is behaviour of its own and not part of every object. -/
def isBehaviour (m : CallableOutline String Span) : Bool :=
  !(startsWith "__" m.name && endsWith "__" m.name) && m.name != "constructor"

def modelSighting? (here : Surroundings) (module : SourceModule) (c : ClassOutline String Span) :
    Option Sighting :=
  (modelMarker? c).map fun marker =>
    { file := module.path
      span := some c.span
      conditions :=
        [("model_marker", true), ("has_fields", !c.fields.isEmpty),
          ("framework_declared", here.hasFramework modelPackages || importsModelPackage module),
          ("data_dominant", c.methods.countP isBehaviour ≤ c.fields.length)]
      details :=
        [("class", .str c.name), ("marker", .str marker), ("fields", .int c.fields.length)] }

def models (here : Surroundings) : List Sighting :=
  here.classes.filterMap fun (module, c) => modelSighting? here module c

/-! ## The rules -/

def all : List Rule :=
  [.ofSightings "http_routing" .frameworkPattern "HTTP Routing" routing,
    .ofSightings "react_component" .frameworkPattern "React Component" components,
    .ofSightings "data_model" .frameworkPattern "Data Model" models]

end RepoAtlas.FrameworkRules
