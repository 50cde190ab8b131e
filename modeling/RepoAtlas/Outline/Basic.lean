import RepoAtlas.Language

/-!
# Outlines of source files

An outline is what the library keeps of a parsed file: its functions and classes, its imports and
exports, the routes it registers, and whether it guards a main program. It is the same for both
language families.

Outlines also live in documents, which may have been written by other programs. There a name is any
value and a line range may be absent, so every record has two parameters: `τ` for its texts and `σ`
for its spans. `ModuleOutline String Span` is what reading a source file gives.
-/

namespace RepoAtlas

/-- A range of lines, both ends included, counted from one. -/
structure Span where
  startLine : Int
  endLine : Int
deriving DecidableEq, Repr, Inhabited

/-- A function, a method or a function-valued binding. -/
structure CallableOutline (τ σ : Type) where
  name : τ
  parameters : List τ
  span : σ
  returnType : Option τ
  isAsync : Bool
  isExported : Bool
  isStatic : Bool
  visibility : τ
  decorators : List τ
  /-- The classes that the body instantiates, each once. -/
  instantiates : List τ
deriving DecidableEq, Repr

/-- A variable that belongs to a class or to its instances. -/
structure FieldOutline (τ : Type) where
  name : τ
  line : Int
  isStatic : Bool
  visibility : τ
deriving DecidableEq, Repr

/-- A class. -/
structure ClassOutline (τ σ : Type) where
  name : τ
  superclass : Option τ
  methods : List (CallableOutline τ σ)
  span : σ
  bases : List τ
  fields : List (FieldOutline τ)
  decorators : List τ
  isExported : Bool
  isAbstract : Bool
deriving DecidableEq, Repr

/-- An import as it is written, before anyone asks what it refers to. -/
structure ImportOutline (τ σ : Type) where
  target : τ
  symbols : List τ
  span : σ
  isReexport : Bool
deriving DecidableEq, Repr

/-- A name that a module offers to others. -/
structure ExportOutline (τ σ : Type) where
  name : τ
  span : σ
  isDefault : Bool
  /-- The specifier of the module it is passed on from. -/
  source : Option τ
deriving DecidableEq, Repr

/-- The registration of a handler for a route of a web framework. -/
structure RouteOutline (τ σ : Type) where
  framework : τ
  method : τ
  route : τ
  span : σ
  handler : Option τ
deriving DecidableEq, Repr

/-- A parsed file. -/
structure ModuleOutline (τ σ : Type) where
  path : τ
  language : Language
  grammar : τ
  functions : List (CallableOutline τ σ)
  classes : List (ClassOutline τ σ)
  imports : List (ImportOutline τ σ)
  exports : List (ExportOutline τ σ)
  routes : List (RouteOutline τ σ)
  hasMainGuard : Bool
deriving DecidableEq, Repr

abbrev SourceModule := ModuleOutline String Span

namespace ClassOutline

def method? {τ σ : Type} [BEq τ] (c : ClassOutline τ σ) (name : τ) : Option (CallableOutline τ σ) :=
  c.methods.find? (·.name == name)

end ClassOutline

/-! ## Changing the slots of a record -/

section Map

variable {τ υ σ ρ : Type} (text : τ → υ) (span : σ → ρ)

def CallableOutline.map (c : CallableOutline τ σ) : CallableOutline υ ρ where
  name := text c.name
  parameters := c.parameters.map text
  span := span c.span
  returnType := c.returnType.map text
  isAsync := c.isAsync
  isExported := c.isExported
  isStatic := c.isStatic
  visibility := text c.visibility
  decorators := c.decorators.map text
  instantiates := c.instantiates.map text

def FieldOutline.map (f : FieldOutline τ) : FieldOutline υ where
  name := text f.name
  line := f.line
  isStatic := f.isStatic
  visibility := text f.visibility

def ClassOutline.map (c : ClassOutline τ σ) : ClassOutline υ ρ where
  name := text c.name
  superclass := c.superclass.map text
  methods := c.methods.map (·.map text span)
  span := span c.span
  bases := c.bases.map text
  fields := c.fields.map (·.map text)
  decorators := c.decorators.map text
  isExported := c.isExported
  isAbstract := c.isAbstract

def ImportOutline.map (i : ImportOutline τ σ) : ImportOutline υ ρ where
  target := text i.target
  symbols := i.symbols.map text
  span := span i.span
  isReexport := i.isReexport

def ExportOutline.map (e : ExportOutline τ σ) : ExportOutline υ ρ where
  name := text e.name
  span := span e.span
  isDefault := e.isDefault
  source := e.source.map text

def RouteOutline.map (r : RouteOutline τ σ) : RouteOutline υ ρ where
  framework := text r.framework
  method := text r.method
  route := text r.route
  span := span r.span
  handler := r.handler.map text

def ModuleOutline.map (m : ModuleOutline τ σ) : ModuleOutline υ ρ where
  path := text m.path
  language := m.language
  grammar := text m.grammar
  functions := m.functions.map (·.map text span)
  classes := m.classes.map (·.map text span)
  imports := m.imports.map (·.map text span)
  exports := m.exports.map (·.map text span)
  routes := m.routes.map (·.map text span)
  hasMainGuard := m.hasMainGuard

end Map

end RepoAtlas
